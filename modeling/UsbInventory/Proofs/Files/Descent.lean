/-
Going on from where a path leads. A relative path that is joined to another is followed from the place that the other
one leads to, whatever links are on the way there; only the length of the whole is still checked.
-/
import UsbInventory.Proofs.Files.Locations
import UsbInventory.Proofs.Path.Joining

namespace UsbInventory.FileSystem

open RawPath

variable {fs : FileSystem}

/-! ## Further steps -/

/-- Takes more steps from where others led. -/
def Reach.further (limited : Bool) (more : List RawPath) : Reach → Reach
  | .arrived p => reach limited p more
  | .failed e => .failed e
  | .link dir target rest => .link dir target (rest ++ more)

theorem reach_append (limited : Bool) (more : List RawPath) : ∀ (todo : List RawPath) (at_ : Place),
    reach limited at_ (todo ++ more) = (reach limited at_ todo).further limited more
  | [], _ => rfl
  | name :: todo, at_ => by
    rw [List.cons_append, reach, reach]
    split
    · dsimp only
      split
      · split
        · rfl
        · exact reach_append limited more todo _
      · split
        · rfl
        · split
          · rfl
          · rfl
          · exact reach_append limited more todo _
    · rfl

/-- Steps after others are taken from where these lead, with the links that are left. -/
theorem follow_append {limited : Bool} {p : Place} (more : List RawPath) : ∀ (links : Nat) (at_ : Place)
    (todo : List RawPath), follow fs limited links at_ todo = .ok p →
    ∃ left, follow fs limited links at_ (todo ++ more) = follow fs limited left p more
  | links, at_, todo, h => by
    have hfurther := reach_append limited more todo at_
    rcases follow_cases h with hr | ⟨dir, target, rest, left, hr, rfl, hgo⟩
    · rw [hr] at hfurther
      exact ⟨links, by rw [follow.eq_def, hfurther, follow.eq_def fs limited links p, Reach.further]⟩
    · rw [hr] at hfurther
      obtain ⟨left', hleft⟩ := follow_append more left _ _ hgo
      rw [List.append_assoc] at hleft
      exact ⟨left', by rw [follow_of_link hfurther, hleft]⟩

theorem reach_dot (limited : Bool) (p : Place) :
    reach limited p [[dot]] = .arrived p ∨ ∃ e, reach limited p [[dot]] = .failed e := by
  rw [reach]
  split
  · dsimp only
    rw [if_pos (.inl rfl), if_pos rfl]
    split
    · exact .inr ⟨_, rfl⟩
    · exact .inl rfl
  · exact .inr ⟨_, rfl⟩

/-- A final `.` asks for a directory and stays there. -/
theorem follow_of_dot {limited : Bool} {p : Place} : ∀ (links : Nat) (at_ : Place) (todo : List RawPath),
    follow fs limited links at_ (todo ++ [[dot]]) = .ok p → follow fs limited links at_ todo = .ok p
  | links, at_, todo, h => by
    rw [follow.eq_def, reach_append] at h
    rw [follow.eq_def]
    cases hr : reach limited at_ todo with
    | arrived q =>
      rw [hr] at h
      rcases reach_dot limited q with hd | ⟨e, hd⟩
      · rw [Reach.further, hd] at h
        exact h
      · rw [Reach.further, hd] at h
        cases h
    | failed e =>
      rw [hr] at h
      cases h
    | link dir target rest =>
      rw [hr] at h
      cases links with
      | zero => cases h
      | succ links =>
        refine follow_of_dot links _ _ ?_
        rw [List.append_assoc]
        exact h

/-! ## Joined paths -/

section Joined

variable {root q : RawPath} {p : Place}

theorem ne_nil_of_locate (h : fs.locate root = .ok p) : root ≠ [] :=
  (checkPath_eq_ok_iff.1 (locate_eq_ok_iff.1 h).1).1

theorem follow_namesOf (h : fs.locate root = .ok p) :
    follow fs false maxLinks (fs.start root) (namesOf root) = .ok p := by
  have hf := (locate_eq_ok_iff.1 h).2
  unfold steps at hf
  split at hf
  · exact follow_of_dot _ _ _ hf
  · exact hf

/-- The steps that a path asks for below another: its own, or a `.` if it is empty. -/
def stepsBelow (q : RawPath) : List RawPath := if q.isEmpty then [[dot]] else steps q

theorem endsWithSlash_append (r : RawPath) (hq : q ≠ []) : endsWithSlash (r ++ q) = q.endsWithSlash := by
  obtain ⟨b, hb⟩ := Option.ne_none_iff_exists'.1 (mt List.getLast?_eq_none_iff.1 hq)
  unfold endsWithSlash
  rw [List.getLast?_append, hb, Option.some_or]

theorem endsWithSlash_join (hroot : root ≠ []) (hq : q.isAbsolute = false) :
    (root.join q).endsWithSlash = (q.isEmpty || q.endsWithSlash) := by
  unfold join
  rw [hq, List.isEmpty_eq_false_iff.2 hroot, Bool.false_or]
  by_cases hnil : q = []
  · subst hnil
    cases he : root.endsWithSlash with
    | true => exact (congrArg endsWithSlash (List.append_nil root)).trans he
    | false => exact endsWithSlash_append root (List.cons_ne_nil slash [])
  · rw [List.isEmpty_eq_false_iff.2 hnil, Bool.false_or]
    cases root.endsWithSlash with
    | true => exact endsWithSlash_append root hnil
    | false =>
      show endsWithSlash (root ++ slash :: q) = _
      rw [List.append_cons]
      exact endsWithSlash_append _ hnil

theorem steps_join (hroot : root ≠ []) (hq : q.isAbsolute = false) :
    steps (root.join q) = namesOf root ++ stepsBelow q := by
  have hnames : namesOf (root.join q) = namesOf root ++ namesOf q := filter_pieces_join rfl hq root
  unfold steps stepsBelow
  rw [endsWithSlash_join hroot hq, hnames]
  by_cases hnil : q = []
  · subst hnil
    simp [namesOf, pieces]
  · rw [List.isEmpty_eq_false_iff.2 hnil, Bool.false_or, steps]
    cases q.endsWithSlash <;> simp

theorem stepsBelow_name {name : RawPath} (whole : slash ∉ name) (some_ : name ≠ []) : stepsBelow name = [name] := by
  unfold stepsBelow steps namesOf
  rw [not_endsWithSlash_of_whole whole, pieces_of_whole whole]
  simp [some_]

/-- Without its first slash, the path of a location asks for the same steps. -/
theorem stepsBelow_of_slash {names : List RawPath} (h : slash :: q = pathOf names) (hne : names ≠ [])
    (hnames : ∀ name ∈ names, IsName name) : stepsBelow q = names := by
  have hends : endsWithSlash (slash :: q) = false := by
    rw [h]
    exact endsWithSlash_pathOf hne hnames
  have hq : q ≠ [] := by
    rintro rfl
    cases hends
  have hsteps : steps (slash :: q) = steps q := by
    unfold steps
    rw [← List.singleton_append, endsWithSlash_append [slash] hq]
    rfl
  unfold stepsBelow
  rw [if_neg (by simpa using hq), ← hsteps, h, steps_pathOf hne hnames]

/-- A relative path that is joined to another is followed from the place to which that one leads. -/
theorem locate_join (h : fs.locate root = .ok p) (hq : q.isAbsolute = false) :
    ∃ links, fs.locate (root.join q) =
      (checkPath (root.join q)).bind fun _ => follow fs false links p (stepsBelow q) := by
  obtain ⟨links, hlinks⟩ := follow_append (stepsBelow q) _ _ _ (follow_namesOf h)
  refine ⟨links, ?_⟩
  have hstart : fs.start (root.join q) = fs.start root := by
    unfold start startIn
    rw [isAbsolute_join hq]
  unfold locate
  rw [hstart, steps_join (ne_nil_of_locate h) hq, hlinks]
  rfl

theorem checkPath_join (h : fs.locate root = .ok p) (hq : q.isAbsolute = false) (ended : 0 ∉ q)
    (short : (root.join q).length < maxPath) : checkPath (root.join q) = .ok () := by
  have hroot : 0 ∉ root := (checkPath_eq_ok_iff.1 (locate_eq_ok_iff.1 h).1).2.1
  have hended : 0 ∉ root.join q := by
    unfold join
    rw [hq]
    split
    · contradiction
    · split
      · simp [hroot, ended]
      · simp [hroot, ended, slash]
  exact checkPath_eq_ok_iff.2 ⟨join_ne_nil (ne_nil_of_locate h), hended, short⟩

/-- An empty path below a directory leads to the directory. -/
theorem locate_join_nil {es : List (RawPath × Entry)} (h : fs.locate root = .ok p) (hes : p.entry = .directory es)
    (short : (root.join []).length < maxPath) : fs.locate (root.join []) = .ok p := by
  obtain ⟨links, hl⟩ := locate_join (q := []) h rfl
  have hstay : reach false p [[dot]] = .arrived p := by
    rw [reach, hes]
    rfl
  have hfollow : follow fs false links p [[dot]] = .ok p := by
    rw [follow.eq_def, hstay]
  rw [hl, checkPath_join h rfl List.not_mem_nil short]
  exact hfollow

/-- Names below a directory lead to what it holds there. -/
theorem locate_join_names {names : List RawPath} {e : Entry} (h : fs.locate root = .ok p) (hq : q.isAbsolute = false)
    (hsteps : stepsBelow q = names) (hnames : ∀ name ∈ names, IsFileName name) (ended : 0 ∉ q)
    (short : (root.join q).length < maxPath) (hf : p.entry.find? names = some e) (he : ∀ target, e ≠ .link target) :
    ∃ r, fs.locate (root.join q) = .ok r ∧ r.entry = e := by
  obtain ⟨links, hl⟩ := locate_join h hq
  obtain ⟨r, hr, hentry, -⟩ := reach_find false [] names p e hf he hnames nofun
  rw [List.append_nil] at hr
  have hfollow : follow fs false links p names = .ok r := by
    rw [follow.eq_def, hr]
    rfl
  refine ⟨r, ?_, hentry⟩
  rw [hl, hsteps, checkPath_join h hq ended short]
  exact hfollow

/-- A single name below a directory leads to nothing but a directory if that holds only such under the name. -/
theorem reach_directory {name : RawPath} {es : List (RawPath × Entry)} (hes : p.entry = .directory es)
    (hother : ∀ e, es.lookup name = some e → ∃ below, e = .directory below) :
    (∃ e, reach false p [name] = .failed e) ∨
      ∃ r below, reach false p [name] = .arrived r ∧ r.entry = .directory below := by
  rw [reach, hes]
  dsimp only
  by_cases hdots : name = [dot] ∨ name = [dot, dot]
  · rw [if_pos hdots, if_neg (by simp), reach]
    split
    · exact .inr ⟨p, es, rfl, hes⟩
    · refine .inr ⟨p.up, ?_⟩
      unfold Place.up
      split
      · exact ⟨es, rfl, hes⟩
      · exact ⟨_, rfl, rfl⟩
  · rw [if_neg hdots]
    split
    · exact .inl ⟨_, rfl⟩
    · cases hl : es.lookup name with
      | none => exact .inl ⟨_, rfl⟩
      | some e =>
        obtain ⟨below, rfl⟩ := hother e hl
        exact .inr ⟨_, below, rfl, rfl⟩

theorem locate_join_directory {name : RawPath} {es : List (RawPath × Entry)} {r : Place} (h : fs.locate root = .ok p)
    (hes : p.entry = .directory es) (whole : slash ∉ name) (some_ : name ≠ [])
    (hother : ∀ e, es.lookup name = some e → ∃ below, e = .directory below) (hr : fs.locate (root.join name) = .ok r) :
    ∃ below, r.entry = .directory below := by
  obtain ⟨links, hl⟩ := locate_join h (not_absolute_of_whole whole)
  rw [hl, stepsBelow_name whole some_] at hr
  cases hc : checkPath (root.join name) with
  | error e =>
    rw [hc] at hr
    cases hr
  | ok _ =>
    rw [hc] at hr
    have hr : follow fs false links p [name] = .ok r := hr
    rw [follow.eq_def] at hr
    rcases reach_directory hes hother with ⟨e, he⟩ | ⟨q, below, hq, hentry⟩
    · rw [he] at hr
      cases hr
    · rw [hq] at hr
      cases hr
      exact ⟨below, hentry⟩

end Joined

end UsbInventory.FileSystem
