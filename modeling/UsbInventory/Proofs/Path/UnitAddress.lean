/-
The unit address of a node path: the text after its last `@`. A path has one exactly if an `@` occurs in it, and the
address of a device is the number that this text begins with.
-/
import UsbInventory.Pass.Resolution

namespace UsbInventory

namespace NodePath

theorem afterLast?_eq_none_iff {mark : Char} {cs : List Char} : afterLast? mark cs = none ↔ mark ∉ cs := by
  induction cs with
  | nil => simp [afterLast?]
  | cons c cs ih =>
    rw [afterLast?, List.mem_cons, not_or, ← ih]
    cases afterLast? mark cs with
    | some found => simp
    | none => simp [eq_comm]

/-- What is found is what follows a mark that no other follows. -/
theorem afterLast?_eq_some_iff {mark : Char} {cs after : List Char} :
    afterLast? mark cs = some after ↔ ∃ before, cs = before ++ mark :: after ∧ mark ∉ after := by
  induction cs with
  | nil => simp [afterLast?]
  | cons c cs ih =>
    rw [afterLast?]
    cases hrest : afterLast? mark cs with
    | some found =>
      rw [hrest] at ih
      constructor
      · intro h
        obtain ⟨before, rfl, hafter⟩ := ih.1 h
        exact ⟨c :: before, rfl, hafter⟩
      · rintro ⟨before, hcs, hafter⟩
        cases before with
        | nil =>
          -- the mark at the beginning is not the last one
          obtain ⟨rfl, rfl⟩ := List.cons.inj hcs
          rw [afterLast?_eq_none_iff.2 hafter] at hrest
          cases hrest
        | cons b before => exact ih.2 ⟨before, (List.cons.inj hcs).2, hafter⟩
    | none =>
      have hnone := afterLast?_eq_none_iff.1 hrest
      dsimp only
      constructor
      · intro h
        obtain ⟨hc, hafter⟩ := Option.ite_none_right_eq_some.1 h
        obtain rfl := Option.some.inj hafter
        exact ⟨[], congrArg (· :: cs) hc, hnone⟩
      · rintro ⟨before, hcs, -⟩
        cases before with
        | nil =>
          obtain ⟨rfl, rfl⟩ := List.cons.inj hcs
          exact if_pos rfl
        | cons b before =>
          rw [(List.cons.inj hcs).2] at hnone
          exact absurd (List.mem_append_right _ List.mem_cons_self) hnone

/-- The number that stands after the last `@` of a path. -/
def HasAddress (path : NodePath) (address : Int) : Prop :=
  ∃ before after, path.chars = before ++ '@' :: after ∧ '@' ∉ after ∧ Leading.value after = address

end NodePath

namespace Resolution

theorem address?_eq_some_iff {path : NodePath} {address : Int} :
    address? path = some address ↔ path.HasAddress address := by
  unfold address? NodePath.unitAddress? NodePath.HasAddress
  simp only [Option.map_eq_some_iff, NodePath.afterLast?_eq_some_iff]
  constructor
  · rintro ⟨after, ⟨before, hchars, hlast⟩, hvalue⟩
    exact ⟨before, after, hchars, hlast, hvalue⟩
  · rintro ⟨before, after, hchars, hlast, hvalue⟩
    exact ⟨after, ⟨before, hchars, hlast⟩, hvalue⟩

theorem address?_eq_none_iff {path : NodePath} : address? path = none ↔ '@' ∉ path.chars := by
  unfold address? NodePath.unitAddress?
  rw [Option.map_eq_none_iff, NodePath.afterLast?_eq_none_iff]

end Resolution

/-- A path has one address at most. -/
theorem NodePath.HasAddress.unique {path : NodePath} {a a' : Int} (h : path.HasAddress a) (h' : path.HasAddress a') :
    a = a' := by
  rw [← Resolution.address?_eq_some_iff] at h h'
  exact Option.some.inj (h.symm.trans h')

end UsbInventory
