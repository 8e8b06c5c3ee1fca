/-
Paths of bounded length. The capacity counts the NUL byte that ends a path handed to the system, so a
path fits when it is shorter than the capacity. A component that does not fit is refused; nothing is
ever cut short.
-/
import UsbInventory.Path.Basic
import UsbInventory.Text.Quoted

namespace UsbInventory

/-- Why a path could not be composed. -/
inductive PathError where
  | tooLong (length capacity : Nat)
  | invalidComponent (component : String)
  deriving DecidableEq, Repr

def PathError.message : PathError → String
  | tooLong length capacity =>
    s!"Path of {length} bytes exceeds capacity of {capacity} bytes"
  | invalidComponent component => "Invalid path component " ++ Text.quoted component

/-- A path that is shorter than its capacity. -/
structure BoundedPath where
  path : RawPath
  capacity : Nat
  fits : path.length < capacity

namespace BoundedPath

/-- A path with a capacity, if it fits. -/
def ofPath (base : RawPath) (capacity : Nat) : Except PathError BoundedPath :=
  if h : base.length < capacity then .ok ⟨base, capacity, h⟩
  else .error (.tooLong base.length capacity)

/-- Whether a name can be one component of a path. -/
def isComponent (name : RawPath) : Bool := !name.isEmpty && !name.contains RawPath.slash

/-- The length that is checked before `name` is appended: a separator is counted unless the path ends
in one. -/
def extendedLength (p : BoundedPath) (name : RawPath) : Nat :=
  p.path.length + (if p.path.endsWithSlash then 0 else 1) + name.length

theorem isAbsolute_of_isComponent {name : RawPath} (h : isComponent name = true) :
    RawPath.isAbsolute name = false := by
  cases name with
  | nil => rfl
  | cons b rest =>
    simp only [isComponent, Bool.and_eq_true, Bool.not_eq_true', List.contains_cons,
      Bool.or_eq_false_iff, beq_eq_false_iff_ne, ne_eq] at h
    simp only [RawPath.isAbsolute, List.head?_cons, beq_eq_false_iff_ne, ne_eq, Option.some.injEq]
    exact fun e => h.2.1 e.symm

/-- Joining adds at most the separator that `extendedLength` counts. -/
theorem length_join_le (p : BoundedPath) {name : RawPath} (h : isComponent name = true) :
    (p.path.join name).length ≤ p.extendedLength name := by
  unfold RawPath.join extendedLength
  rw [isAbsolute_of_isComponent h]
  by_cases he : p.path.endsWithSlash
  · simp [he]
  · by_cases hn : p.path.isEmpty
    · simp [he, hn]
    · simp [he, hn]; omega

/-- Appends one component. -/
def join (p : BoundedPath) (name : RawPath) : Except PathError BoundedPath :=
  if hc : isComponent name = true then
    if h : p.extendedLength name < p.capacity then
      .ok ⟨p.path.join name, p.capacity, Nat.lt_of_le_of_lt (p.length_join_le hc) h⟩
    else .error (.tooLong (p.extendedLength name) p.capacity)
  else .error (.invalidComponent name.display)

/-- Appends one component in place: the new path, or the old one together with the reason. -/
def push (p : BoundedPath) (name : RawPath) : BoundedPath × Option PathError :=
  match p.join name with
  | .ok q => (q, none)
  | .error e => (p, some e)

end BoundedPath

end UsbInventory
