/-
Following the absolute form of a path. Where the working directory is there, the form leads to where the path leads:
leaving out steps that stay where they are changes nothing, and from the root the names of the working directory lead
to its place.
-/
import UsbInventory.Proofs.Path.Absolute

namespace UsbInventory.FileSystem

open RawPath

variable {fs : FileSystem}

/-! ## Following leaner steps -/

/-- What steps lead to is still led to; where they fail, anything may be. -/
def Reach.Preserved : Reach → Reach → Prop
  | .failed _, _ => True
  | .arrived p, .arrived p' => p' = p
  | .link dir target rest, .link dir' target' rest' => dir' = dir ∧ target' = target ∧ Leaner rest rest'
  | _, _ => False

theorem Reach.Preserved.refl (r : Reach) : r.Preserved r := by
  cases r with
  | arrived p => rfl
  | failed e => trivial
  | link dir target rest => exact ⟨rfl, rfl, .refl rest⟩

theorem Reach.Preserved.of_arrived {p : Place} {r : Reach} (h : (Reach.arrived p).Preserved r) : r = .arrived p := by
  cases r with
  | arrived q => exact congrArg Reach.arrived h
  | failed e => cases h
  | link dir target rest => cases h

theorem Reach.Preserved.of_link {dir : Place} {target : RawPath} {rest : List RawPath} {r : Reach}
    (h : (Reach.link dir target rest).Preserved r) : ∃ rest', r = .link dir target rest' ∧ Leaner rest rest' := by
  cases r with
  | arrived q => cases h
  | failed e => cases h
  | link dir' target' rest' =>
    obtain ⟨rfl, rfl, hrest⟩ := h
    exact ⟨rest', rfl, hrest⟩

theorem reach_leaner (limited : Bool) {todo less : List RawPath} (h : Leaner todo less) (at_ : Place) :
    (reach limited at_ todo).Preserved (reach limited at_ less) := by
  induction h generalizing at_ with
  | nil => exact .refl _
  | @keep name todo less rest ih =>
    rw [reach, reach]
    cases at_.entry with
    | file content => trivial
    | link target => trivial
    | directory es =>
      dsimp only
      split
      · split
        · trivial
        · exact ih _
      · split
        · trivial
        · cases es.lookup name with
          | none => trivial
          | some e =>
            cases e with
            | link target => exact ⟨rfl, rfl, rest⟩
            | file content => exact ih _
            | directory below => exact ih _
  | @drop todo less rest ih =>
    rw [reach]
    cases at_.entry with
    | file content => trivial
    | link target => trivial
    | directory es =>
      dsimp only
      rw [if_pos (.inl rfl), if_pos rfl]
      split
      · trivial
      · exact ih at_

/-- Leaving out idle steps changes nothing about where steps lead. -/
theorem follow_leaner {limited : Bool} {p : Place} : ∀ {links : Nat} {at_ : Place} {todo less : List RawPath},
    Leaner todo less → follow fs limited links at_ todo = .ok p → follow fs limited links at_ less = .ok p
  | links, at_, todo, less, h, hp => by
    have hreach := reach_leaner limited h at_
    rcases follow_cases hp with hr | ⟨dir, target, rest, left, hr, rfl, hgo⟩
    · rw [hr] at hreach
      exact follow_of_arrived hreach.of_arrived
    · rw [hr] at hreach
      obtain ⟨rest', hr', hrest⟩ := hreach.of_link
      rw [follow_of_link hr']
      exact follow_leaner ((Leaner.refl _).append hrest) hgo

/-! ## The working directory -/

/-- A file system as a system has it: what it holds has proper names, and the working directory is there, below names
of files. -/
structure Sound (fs : FileSystem) : Prop where
  named : fs.Named
  work : ∃ es, fs.find? fs.workDir = some (.directory es)
  names : ∀ name ∈ fs.workDir, name.IsFileName

/-- The path of a place from which limited steps are taken is short enough. -/
theorem short_of_follow {links : Nat} {p q : Place} {todo : List RawPath} (hne : todo ≠ [])
    (h : fs.follow true links p todo = .ok q) : p.pathLength < maxPath := by
  obtain ⟨name, rest, rfl⟩ := List.exists_cons_of_ne_nil hne
  by_contra hlong
  have hfails : ∃ e, reach true p (name :: rest) = .failed e := by
    rw [reach]
    split
    · dsimp only
      split
      · exact ⟨_, if_pos (by simp; omega)⟩
      · exact ⟨_, if_pos (by simp; omega)⟩
    · exact ⟨_, rfl⟩
  obtain ⟨e, he⟩ := hfails
  rcases follow_cases h with hr | ⟨dir, target, rest, left, hr, -, -⟩ <;> rw [he] at hr <;> cases hr

namespace Sound

theorem namesOf_workPath (h : fs.Sound) : namesOf (pathOf fs.workDir) = fs.workDir := by
  by_cases hne : fs.workDir = []
  · rw [hne]
    rfl
  · have hnames : ∀ name ∈ fs.workDir, IsName name := fun name hn => (h.names name hn).toIsName
    have hsteps := steps_pathOf hne hnames
    rwa [steps, endsWithSlash_pathOf hne hnames] at hsteps

/-- The absolute form of a path leads to where the path leads. -/
theorem follow_absolute (h : fs.Sound) {p : RawPath} {q : Place} (hne : p ≠ [])
    (hf : fs.follow true maxLinks (fs.start p) (steps p) = .ok q) :
    fs.follow true maxLinks (fs.start (absolute (pathOf fs.workDir) p)) (steps (absolute (pathOf fs.workDir) p)) =
      .ok q := by
  obtain ⟨less, hless, hsteps⟩ := steps_absolute hne (pathOf_ne_nil fs.workDir)
  have hfollow := follow_leaner hless hf
  have hstart : fs.start (absolute (pathOf fs.workDir) p) = fs.rootPlace := by
    rw [start, startIn, if_pos (isAbsolute_absolute hne (isAbsolute_pathOf fs.workDir))]
  rw [hstart, hsteps]
  rcases absoluteStart_cases (pathOf fs.workDir) p with ⟨hrelative, hs⟩ | ⟨hroot, hs⟩
  · -- the names of the working directory come first, and lead to where the path itself starts
    have hwork : fs.start p = fs.rootPlace.enterAll fs.workDir := by
      rw [start, startIn, hrelative]
      rfl
    rw [hwork] at hf hfollow
    obtain ⟨es, hes⟩ := h.work
    have hreach := reach_enterAll true less fs.workDir fs.rootPlace _ hes (fun _ => Entry.noConfusion) h.names
      fun _ => short_of_follow (steps_ne_nil hne) hf
    rw [follow.eq_def] at hfollow ⊢
    rw [hs, h.namesOf_workPath, hreach]
    exact hfollow
  · have hnone : namesOf (absoluteStart (pathOf fs.workDir) p) = [] := by
      rcases hs with hs | hs <;> rw [hs] <;> rfl
    rw [start, startIn, if_pos hroot] at hfollow
    rw [hnone, List.nil_append]
    exact hfollow

theorem canonicalize_absolute (h : fs.Sound) {p found : RawPath} (hp : fs.canonicalize p = .ok found) :
    fs.canonicalize (absolute (pathOf fs.workDir) p) = .ok found := by
  obtain ⟨hc, q, hf, hfound⟩ := canonicalize_eq_ok_iff.1 hp
  have hended : 0 ∉ pathOf fs.workDir := ended_pathOf fun name hn => (h.names name hn).ended
  have hne : p ≠ [] := (checkText_eq_ok_iff.1 hc).1
  exact canonicalize_eq_ok_iff.2
    ⟨checkText_absolute (pathOf_ne_nil fs.workDir) hended hc, q, h.follow_absolute hne hf, hfound⟩

end Sound

end UsbInventory.FileSystem
