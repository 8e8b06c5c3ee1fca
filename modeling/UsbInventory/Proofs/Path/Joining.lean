/-
Joining a component to a bounded path, by cases: a name that is no component is refused, and on a path that is
not empty any other name is appended exactly if the new path is shorter than the capacity. What is composed is the
whole path: nothing of the path or of the name is left out (`RawPath.child`).
-/
import UsbInventory.Path.Bounded

namespace UsbInventory

/-- Whether a path was refused for want of room. -/
def PathError.isTooLong : PathError → Bool
  | tooLong _ _ => true
  | invalidComponent _ => false

theorem RawPath.join_ne_nil {p q : RawPath} (hp : p ≠ []) : p.join q ≠ [] := by
  unfold RawPath.join
  split
  · next ha =>
    rintro rfl
    cases ha
  · split
    · simp [hp]
    · simp

/-- The path of a name in a directory: the whole path of the directory, a slash unless it is there already, and the
whole name. -/
def RawPath.child (p name : RawPath) : RawPath :=
  (if p.isEmpty || p.endsWithSlash then p else p ++ [slash]) ++ name

theorem RawPath.join_of_relative {p q : RawPath} (hq : q.isAbsolute = false) : p.join q = p.child q := by
  unfold RawPath.join RawPath.child
  rw [if_neg (by rw [hq]; exact Bool.false_ne_true)]
  split
  · rfl
  · rw [List.append_assoc, List.singleton_append]

namespace BoundedPath

variable {p : BoundedPath} {name : RawPath}

/-- On a path that is not empty, the length that is checked is that of the new path. -/
theorem extendedLength_eq (hp : p.path ≠ []) (hc : isComponent name = true) :
    p.extendedLength name = (p.path.join name).length := by
  unfold extendedLength RawPath.join
  rw [isAbsolute_of_isComponent hc, List.isEmpty_eq_false_iff.2 hp]
  cases p.path.endsWithSlash with
  | true => simp
  | false =>
    simp only [Bool.false_eq_true, if_false, Bool.or_self, List.length_append, List.length_cons]
    omega

theorem isComponent_iff : isComponent name = true ↔ name ≠ [] ∧ RawPath.slash ∉ name := by
  simp [isComponent]

theorem isComponent_eq_false_iff : isComponent name = false ↔ name = [] ∨ RawPath.slash ∈ name := by
  rw [← Bool.not_eq_true, isComponent_iff]
  by_cases hn : name = [] <;> simp [hn]

/-- Everything that can come of joining a name. -/
inductive Joined (p : BoundedPath) (name : RawPath) : Except PathError BoundedPath → Prop where
  | extended {q : BoundedPath} (component : isComponent name = true) (room : p.extendedLength name < p.capacity)
      (path : q.path = p.path.child name) (capacity : q.capacity = p.capacity) : Joined p name (.ok q)
  | tooLong (component : isComponent name = true) (full : p.capacity ≤ p.extendedLength name) :
      Joined p name (.error (.tooLong (p.extendedLength name) p.capacity))
  | invalid (bytes : isComponent name = false) : Joined p name (.error (.invalidComponent name.display))

theorem joined (p : BoundedPath) (name : RawPath) : Joined p name (p.join name) := by
  unfold join
  split
  · next hc =>
    split
    · next hroom => exact .extended hc hroom (RawPath.join_of_relative (isAbsolute_of_isComponent hc)) rfl
    · next hroom => exact .tooLong hc (Nat.le_of_not_lt hroom)
  · next hc => exact .invalid (Bool.eq_false_iff.2 hc)

theorem join_of_fits (hp : p.path ≠ []) (hc : isComponent name = true)
    (h : (p.path.join name).length < p.capacity) : p.join name = .ok ⟨p.path.join name, p.capacity, h⟩ := by
  unfold join
  rw [dif_pos hc, dif_pos (by rwa [extendedLength_eq hp hc])]

theorem join_of_long (hp : p.path ≠ []) (hc : isComponent name = true)
    (h : ¬ (p.path.join name).length < p.capacity) :
    p.join name = .error (.tooLong (p.path.join name).length p.capacity) := by
  unfold join
  rw [dif_pos hc, dif_neg (by rwa [extendedLength_eq hp hc]), extendedLength_eq hp hc]

theorem join_of_not_component (hc : isComponent name = false) :
    p.join name = .error (.invalidComponent name.display) := by
  unfold join
  rw [dif_neg (by rw [hc]; exact Bool.false_ne_true)]

/-- What joining gives is the whole path, under the same capacity. -/
theorem of_join_ok {q : BoundedPath} (h : p.join name = .ok q) :
    isComponent name = true ∧ q.path = p.path.child name ∧ q.capacity = p.capacity := by
  have hj := joined p name
  rw [h] at hj
  cases hj with
  | extended component room path capacity => exact ⟨component, path, capacity⟩

/-- A component is only refused for want of room. -/
theorem of_join_error {e : PathError} (hc : isComponent name = true) (h : p.join name = .error e) :
    e = .tooLong (p.extendedLength name) p.capacity := by
  have hj := joined p name
  rw [h] at hj
  cases hj with
  | tooLong => rfl
  | invalid bytes =>
    rw [hc] at bytes
    cases bytes

/-- Joining a component never makes a path shorter. -/
theorem length_le_length_join (hc : isComponent name = true) : p.path.length ≤ (p.path.join name).length := by
  unfold RawPath.join
  rw [isAbsolute_of_isComponent hc]
  split
  · contradiction
  · split
    · rw [List.length_append]
      omega
    · rw [List.length_append]
      omega

end BoundedPath

end UsbInventory
