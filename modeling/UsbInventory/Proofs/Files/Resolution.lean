/-
Resolving what is resolved. A path never leads to a link, and the names of the place that it leads to lead from the
root to this place again, unless they or the paths on the way are too long; so what a path resolves to resolves to
itself or not at all.
-/
import UsbInventory.Proofs.Files.Growth
import UsbInventory.Proofs.Files.WorkingDirectory

namespace UsbInventory

open RawPath

/-! ## Places that are not links -/

/-- Whether what stands at a place is not a link. -/
def Place.NoLink (p : Place) : Prop := ∀ target, p.entry ≠ .link target

theorem Place.NoLink.up {p : Place} (h : p.NoLink) : p.up.NoLink := by
  unfold Place.up
  split
  · exact h
  · exact fun _ => Entry.noConfusion

namespace FileSystem

variable {fs : FileSystem}

/-- Steps from a place that is not a link lead to such a place, or stop at a link in one. -/
theorem reach_noLink (limited : Bool) : ∀ (todo : List RawPath) (at_ : Place), at_.NoLink →
    (reach limited at_ todo).All Place.NoLink
  | [], _, ha => ha
  | name :: rest, at_, ha => by
    have hstep : Place.NoLink (if name = [dot] then at_ else at_.up) := by
      split
      · exact ha
      · exact ha.up
    unfold reach
    generalize (if name = [dot] then at_ else at_.up) = next at hstep ⊢
    split
    · dsimp only
      split
      · split
        · trivial
        · exact reach_noLink limited rest next hstep
      · split
        · trivial
        · split
          · trivial
          · exact ha
          · next e hlink _ => exact reach_noLink limited rest _ fun target he => hlink target he
    · trivial

theorem follow_noLink (hroot : fs.rootPlace.NoLink) (limited : Bool) : ∀ (links : Nat) (at_ : Place)
    (todo : List RawPath) (p : Place), at_.NoLink → fs.follow limited links at_ todo = .ok p → p.NoLink
  | links, at_, todo, p, ha, hp => by
    have hr := reach_noLink limited todo at_ ha
    rcases follow_cases hp with hreach | ⟨dir, target, rest, left, hreach, rfl, hgo⟩
    · rwa [hreach] at hr
    · rw [hreach] at hr
      have hstart : (fs.startIn dir target).NoLink := by
        unfold startIn
        split
        · exact hroot
        · exact hr
      exact follow_noLink hroot limited left _ _ p hstart hgo

/-! ## The names of a place -/

/-- The names of a way down that does not end in a link lead to its end, or fail on the way. -/
theorem reach_way (limited : Bool) : ∀ (way : Location) (p : Place) (e : Entry), p.entry.find? way = some e →
    (∀ target, e ≠ .link target) → (∀ name ∈ way, IsStep name) →
    reach limited p way = .arrived (p.enterAll way) ∨ ∃ cause, reach limited p way = .failed cause
  | [], _, _, _, _, _ => .inl rfl
  | name :: way, p, e, hf, he, hsteps => by
    obtain ⟨es, inner, hes, hl, hf⟩ := Entry.find?_cons_eq_some hf
    have hname := hsteps name List.mem_cons_self
    have hdots : ¬ (name = [dot] ∨ name = [dot, dot]) := not_or.2 ⟨hname.ne_dot, hname.descends⟩
    have hrest := reach_way limited way ⟨inner, (name, es) :: p.above⟩ e hf he fun n hn =>
      hsteps n (List.mem_cons_of_mem name hn)
    rw [Place.enterAll_cons hes hl, reach, hes]
    dsimp only
    rw [if_neg hdots]
    split
    · exact .inr ⟨_, rfl⟩
    · rw [hl]
      cases hinner : inner with
      | link target => exact absurd hinner (Entry.not_link_of_find? hf he target)
      | file content => rwa [hinner] at hrest
      | directory below => rwa [hinner] at hrest

/-- From the root, the names of a place that is not a link lead to no other place. -/
theorem location_of_follow {q r : Place} {links : Nat} (hfind : fs.root.find? q.location = some q.entry)
    (hlink : q.NoLink) (hsteps : ∀ name ∈ q.location, IsStep name)
    (hr : fs.follow true links fs.rootPlace q.location = .ok r) : r.location = q.location := by
  have hway := reach_way true q.location fs.rootPlace q.entry hfind hlink hsteps
  rw [follow.eq_def] at hr
  rcases hway with harrived | ⟨cause, hfailed⟩
  · rw [harrived] at hr
    obtain rfl := Except.ok.inj hr
    exact (Place.enterAll_of_find? (p := fs.rootPlace) hfind).2
  · rw [hfailed] at hr
    cases hr

/-! ## Resolved paths -/

namespace Sound

theorem noLink_rootPlace (h : fs.Sound) : fs.rootPlace.NoLink := by
  obtain ⟨es, hes⟩ := h.work
  exact Entry.not_link_of_find? hes fun _ => Entry.noConfusion

theorem noLink_start (h : fs.Sound) (p : RawPath) : (fs.start p).NoLink := by
  unfold start startIn
  split
  · exact h.noLink_rootPlace
  · obtain ⟨es, hes⟩ := h.work
    have hwork : fs.workPlace.entry = .directory es := (Place.enterAll_of_find? (p := fs.rootPlace) hes).1
    intro target
    rw [hwork]
    exact Entry.noConfusion

/-- What a path resolves to resolves to itself, or not at all. -/
theorem canonicalize_resolved (h : fs.Sound) {p found again : RawPath} (hp : fs.canonicalize p = .ok found)
    (hagain : fs.canonicalize found = .ok again) : again = found := by
  obtain ⟨-, q, hq, rfl⟩ := canonicalize_eq_ok_iff.1 hp
  obtain ⟨-, r, hr, rfl⟩ := canonicalize_eq_ok_iff.1 hagain
  have hfind : fs.root.find? q.location = some q.entry :=
    (fs.keeps_standsIn.follow true _ _ _ q (fs.keeps_standsIn.startIn fs.standsIn_workPlace p) hq).find?
  have hlink : q.NoLink := follow_noLink h.noLink_rootPlace true _ _ _ q (h.noLink_start p) hq
  have hkeeps := h.named.keeps_canonical fun name hn => ⟨(h.names name hn).ne_dot, (h.names name hn).ascends⟩
  have hsteps := (hkeeps.follow true _ _ _ q (hkeeps.startIn hkeeps.work p) hq).steps
  -- the path of the root asks for a last step that stays there, and every other path for its names
  have hnames : fs.follow true maxLinks fs.rootPlace q.location = .ok r := by
    rw [start, startIn_pathOf] at hr
    by_cases hroot : q.location = []
    · rw [hroot] at hr ⊢
      exact follow_of_dot maxLinks fs.rootPlace [] hr
    · rwa [steps_pathOf hroot (isStep_of_mem hsteps)] at hr
  exact congrArg pathOf (location_of_follow hfind hlink hsteps hnames)

end Sound

end FileSystem

end UsbInventory
