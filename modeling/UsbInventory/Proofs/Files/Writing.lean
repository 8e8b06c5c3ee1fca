/-
A file that has been written is read back. A write follows the links on its way and in the last place, and stops at a
slot; the path is followed in the new file system step by step beside the old one, from place to place under the same
names, since nothing that the old one had has gone. It ends at what the slot was filled with.
-/
import Mathlib.Data.List.Basic
import UsbInventory.Proofs.Files.Descent
import UsbInventory.Proofs.Files.Growth

namespace UsbInventory

/-! ## Twins -/

namespace Place

/-- Two places under the same names, one in a tree and one in what the tree has grown to. -/
structure Twins (root root' : Entry) (p p' : Place) : Prop where
  old : p.StandsIn root
  new : p'.StandsIn root'
  way : p'.location = p.location

variable {root root' : Entry} {p p' : Place}

theorem Twins.sameKind (h : Twins root root' p p') (grown : root.Grown root') : p.entry.SameKind p'.entry := by
  obtain ⟨e, he, hkind⟩ := grown _ _ h.old.find?
  rw [← h.way, h.new.find?] at he
  obtain rfl := Option.some.inj he
  exact hkind

theorem StandsIn.find?_under {es : List (RawPath × Entry)} (h : p.StandsIn root) (hes : p.entry = .directory es)
    (name : RawPath) : root.find? (p.location ++ [name]) = es.lookup name := by
  rw [Entry.find?_append, h.find?, Option.bind_some, find?_directory, hes]

/-- What a directory holds under a name is still there, and the places of both are twins. -/
theorem Twins.enter {es : List (RawPath × Entry)} {name : RawPath} {e : Entry} (h : Twins root root' p p')
    (grown : root.Grown root') (hes : p.entry = .directory es) (hl : es.lookup name = some e) :
    ∃ es' e', p'.entry = .directory es' ∧ es'.lookup name = some e' ∧ e.SameKind e' ∧
      Twins root root' ⟨e, (name, es) :: p.above⟩ ⟨e', (name, es') :: p'.above⟩ := by
  have hkind := h.sameKind grown
  rw [hes] at hkind
  obtain ⟨es', hes'⟩ := hkind.directory
  obtain ⟨e', he', hsame⟩ := grown _ _ ((h.old.find?_under hes name).trans hl)
  rw [← h.way, h.new.find?_under hes'] at he'
  have hold : (⟨.directory es, p.above⟩ : Place).StandsIn root := by
    rw [← hes]
    exact h.old
  have hnew : (⟨.directory es', p'.above⟩ : Place).StandsIn root' := by
    rw [← hes']
    exact h.new
  refine ⟨es', e', hes', he', hsame, .enter hold hl, .enter hnew he', ?_⟩
  rw [location_cons, location_cons, h.way]

theorem Twins.up (h : Twins root root' p p') : Twins root root' p.up p'.up := by
  refine ⟨h.old.up, h.new.up, ?_⟩
  have hway := h.way
  rcases p with ⟨e, _ | ⟨⟨name, es⟩, above⟩⟩ <;> rcases p' with ⟨e', _ | ⟨⟨name', es'⟩, above'⟩⟩
  · exact hway
  · simp [location] at hway
  · simp [location] at hway
  · simpa [location, Place.up] using congrArg List.dropLast hway

end Place

namespace FileSystem

/-! ## Steps -/

/-- What steps lead to in a tree, and in what it has grown to: twins, or the same link in twins. -/
def Reach.Twins (root root' : Entry) : Reach → Reach → Prop
  | .failed _, _ => True
  | .arrived p, .arrived p' => Place.Twins root root' p p'
  | .link dir target rest, .link dir' target' rest' =>
    Place.Twins root root' dir dir' ∧ target' = target ∧ rest' = rest
  | _, _ => False

theorem reach_twins {root root' : Entry} (grown : root.Grown root') : ∀ (todo : List RawPath) {p p' : Place},
    Place.Twins root root' p p' → (reach false p todo).Twins root root' (reach false p' todo)
  | [], _, _, h => h
  | name :: todo, p, p', h => by
    cases hes : p.entry with
    | file content => rw [reach, hes]; trivial
    | link target => rw [reach, hes]; trivial
    | directory es =>
      have hkind := h.sameKind grown
      rw [hes] at hkind
      obtain ⟨es', hes'⟩ := hkind.directory
      rw [reach, reach, hes, hes']
      simp only [Bool.false_and, Bool.or_false, Bool.false_eq_true, if_false]
      split
      · split
        · exact reach_twins grown todo h
        · exact reach_twins grown todo h.up
      · split
        · trivial
        · cases hl : es.lookup name with
          | none => trivial
          | some e =>
            obtain ⟨es'', e', hes'', hl', hsame, htwins⟩ := h.enter grown hes hl
            rw [hes'] at hes''
            cases hes''
            rw [hl']
            cases e <;> cases e' <;> simp only [Entry.SameKind] at hsame
            · exact reach_twins grown todo htwins
            · exact reach_twins grown todo htwins
            · subst hsame
              exact ⟨h, rfl, rfl⟩

variable {fs fs' : FileSystem}

theorem startIn_twins {dir dir' : Place} (h : Place.Twins fs.root fs'.root dir dir') (path : RawPath) :
    Place.Twins fs.root fs'.root (fs.startIn dir path) (fs'.startIn dir' path) := by
  unfold startIn
  split
  · exact ⟨.root, .root, rfl⟩
  · exact h

/-- The place of a working directory that is there is on the way of its names. -/
theorem location_workPlace (there : (fs.find? fs.workDir).isSome = true) : fs.workPlace.location = fs.workDir := by
  obtain ⟨e, he⟩ := Option.isSome_iff_exists.1 there
  exact (Place.enterAll_of_find? (p := fs.rootPlace) he).2

theorem Grown.start (grown : fs.Grown fs') (there : (fs.find? fs.workDir).isSome = true) (path : RawPath) :
    Place.Twins fs.root fs'.root (fs.start path) (fs'.start path) := by
  obtain ⟨e, he⟩ := Option.isSome_iff_exists.1 there
  obtain ⟨e', he', -⟩ := grown.root _ _ he
  have there' : (fs'.find? fs'.workDir).isSome = true := by
    rw [grown.workDir]
    exact Option.isSome_iff_exists.2 ⟨e', he'⟩
  refine startIn_twins ⟨fs.standsIn_workPlace, fs'.standsIn_workPlace, ?_⟩ path
  rw [location_workPlace there, location_workPlace there', grown.workDir]

/-! ## Writing -/

/-- How a write reaches a slot: through a link on the way, through a link in the last place, or right there. -/
theorem writeSlot_cases {links : Nat} {at_ : Place} {names : List RawPath} {slashed : Bool} {s : Slot}
    (h : fs.writeSlot links at_ names slashed = .ok s) :
    (∃ dir target rest left, reach false at_ names.dropLast = .link dir target rest ∧ links = left + 1 ∧
      fs.writeSlot left (fs.startIn dir target) (steps target ++ rest ++ names.getLast?.toList) slashed = .ok s) ∨
    (slashed = false ∧ ∃ last : Slot, reach false at_ names.dropLast = .arrived last.place ∧
      Slot.of last.place names.getLast? SystemError.isDirectory = .ok last ∧
      ((∃ target left, last.entry? = some (.link target) ∧ links = left + 1 ∧
          fs.writeSlot left (fs.startIn last.place target) (namesOf target) target.endsWithSlash = .ok s) ∨
        (s = last ∧ ∀ old, last.entry? = some old → ∃ content, old = .file content))) := by
  rw [writeSlot.eq_def] at h
  cases hr : reach false at_ names.dropLast with
  | failed e =>
    rw [hr] at h
    cases h
  | link dir target rest =>
    rw [hr] at h
    cases links with
    | zero => cases h
    | succ left => exact .inl ⟨dir, target, rest, left, rfl, rfl, h⟩
  | arrived dir =>
    rw [hr] at h
    cases hs : Slot.of dir names.getLast? SystemError.isDirectory with
    | error e =>
      simp only [hs] at h
      cases h
    | ok last =>
      obtain ⟨rfl, -⟩ := Slot.of_ok hs
      cases slashed with
      | true =>
        simp only [hs] at h
        cases h
      | false =>
        refine .inr ⟨rfl, last, rfl, hs, ?_⟩
        simp only [hs, bind, Except.bind, Bool.false_eq_true, if_false] at h
        cases he : last.entry? with
        | none =>
          simp only [he] at h
          cases h
          exact .inr ⟨rfl, nofun⟩
        | some old =>
          cases old with
          | directory es =>
            simp only [he] at h
            cases h
          | file content =>
            simp only [he] at h
            cases h
            exact .inr ⟨rfl, fun _ h => ⟨content, (Option.some.inj h).symm⟩⟩
          | link target =>
            cases links with
            | zero =>
              simp only [he] at h
              cases h
            | succ left =>
              simp only [he] at h
              exact .inl ⟨target, left, rfl, rfl, h⟩

/-- A slot that is written to stands in a directory, and holds a file if anything. -/
theorem standsIn_writeSlot {s : Slot} : ∀ {links : Nat} {at_ : Place} {names : List RawPath} {slashed : Bool},
    at_.StandsIn fs.root → fs.writeSlot links at_ names slashed = .ok s →
    s.place.StandsIn fs.root ∧ ∀ old, s.entry? = some old → ∃ content, old = .file content
  | links, at_, names, slashed, hat, h => by
    have hreach := fs.keeps_standsIn.reach false names.dropLast at_ hat
    rcases writeSlot_cases h with ⟨dir, target, rest, left, hr, rfl, hgo⟩ | ⟨-, last, hr, -, hend⟩
    · rw [hr] at hreach
      exact standsIn_writeSlot (fs.keeps_standsIn.startIn hreach target) hgo
    · rw [hr] at hreach
      rcases hend with ⟨target, left, -, rfl, hgo⟩ | ⟨rfl, hfile⟩
      · exact standsIn_writeSlot (fs.keeps_standsIn.startIn hreach target) hgo
      · exact ⟨hreach, hfile⟩

/-- A step from a directory under a name that can be one: a link stops it. -/
theorem reach_last_name {at_ : Place} {es : List (RawPath × Entry)} {name : RawPath} {e : Entry}
    (hes : at_.entry = .directory es) (hdot : name ≠ [RawPath.dot]) (hdots : name ≠ [RawPath.dot, RawPath.dot])
    (hshort : name.length ≤ maxName) (hl : es.lookup name = some e) :
    reach false at_ [name] = match e with
      | .link target => .link at_ target []
      | e => .arrived ⟨e, (name, es) :: at_.above⟩ := by
  have hdown : reach false at_ [name] = _ := reach_down hes hdot hdots hshort (fun hlimited => by cases hlimited) []
  rw [hl] at hdown
  cases e <;> exact hdown

/-- In what a file system has grown to, the names by which a slot was written to lead to what stands in it now. -/
theorem follow_written (grown : fs.Grown fs') {s : Slot} {content : List UInt8}
    (written : fs'.root.find? (s.place.location ++ [s.name]) = some (.file content)) :
    ∀ {links : Nat} {at_ at' : Place} {names : List RawPath} {slashed : Bool},
    Place.Twins fs.root fs'.root at_ at' → fs.writeSlot links at_ names slashed = .ok s →
    slashed = false ∧ ∃ p, fs'.follow false links at' names = .ok p ∧ p.entry = .file content
  | links, at_, at', names, slashed, hat, h => by
    have hreach := reach_twins grown.root names.dropLast hat
    rcases writeSlot_cases h with ⟨dir, target, rest, left, hr, rfl, hgo⟩ | ⟨rfl, last, hr, hlast, hend⟩
    · -- the write went on behind a link on the way, and so does the path
      rw [hr] at hreach
      cases hr' : reach false at' names.dropLast with
      | failed e => simp [hr', Reach.Twins] at hreach
      | arrived p => simp [hr', Reach.Twins] at hreach
      | link dir' target' rest' =>
        rw [hr'] at hreach
        obtain ⟨hdir, rfl, rfl⟩ := hreach
        obtain ⟨hslashed, p, hp, hentry⟩ := follow_written grown written (startIn_twins hdir target') hgo
        refine ⟨hslashed, p, ?_, hentry⟩
        cases hname : names.getLast? with
        | none =>
          rw [List.getLast?_eq_none_iff.1 hname] at hr
          cases hr
        | some name =>
          rw [hname, Option.toList_some, List.append_assoc] at hp
          rw [← List.dropLast_append_getLast? name hname, follow.eq_def, reach_append, hr']
          exact hp
    · rw [hr] at hreach
      obtain ⟨-, hname, hdot, hdots, hshort⟩ := Slot.of_ok hlast
      cases hr' : reach false at' names.dropLast with
      | failed e => simp [hr', Reach.Twins] at hreach
      | link dir' target' rest' => simp [hr', Reach.Twins] at hreach
      | arrived dir' =>
        rw [hr'] at hreach
        have hkind := hreach.sameKind grown.root
        obtain ⟨es', hes'⟩ := hkind.directory
        have hunder := hreach.new.find?_under hes' last.name
        refine ⟨rfl, ?_⟩
        rw [← List.dropLast_append_getLast? last.name hname, follow.eq_def, reach_append, hr', Reach.further]
        rcases hend with ⟨target, left, hlink, rfl, hgo⟩ | ⟨rfl, -⟩
        · -- the write went on behind a link in the last place, and so does the path
          obtain ⟨es'', e', hes'', hl', hsame, -⟩ := hreach.enter grown.root rfl hlink
          obtain rfl := hsame.link
          obtain ⟨hends, p, hp, hentry⟩ := follow_written grown written (startIn_twins hreach target) hgo
          rw [reach_last_name hes'' hdot hdots hshort hl']
          refine ⟨p, ?_, hentry⟩
          have hsteps : steps target = namesOf target := by rw [steps, hends]; rfl
          rw [← hp]
          simp [hsteps]
        · rw [hreach.way, written] at hunder
          rw [reach_last_name hes' hdot hdots hshort hunder.symm]
          exact ⟨_, rfl, rfl⟩

/-- A file that has been written is read back under the path that it was written to, and nothing has gone. -/
theorem look_written {path : RawPath} {content : List UInt8} (there : (fs.find? fs.workDir).isSome = true)
    (h : fs.writeFile path content = .ok fs') : fs'.look path = .ok (.file content) ∧ fs.Grown fs' := by
  unfold writeFile at h
  cases hc : checkPath path with
  | error e =>
    rw [hc] at h
    cases h
  | ok _ =>
    cases hs : fs.writeSlot maxLinks (fs.start path) (namesOf path) path.endsWithSlash with
    | error e =>
      simp only [hc, hs] at h
      cases h
    | ok s =>
      simp only [hc, hs] at h
      cases h
      obtain ⟨hstands, hfile⟩ := standsIn_writeSlot (fs.keeps_standsIn.startIn fs.standsIn_workPlace path) hs
      have grown : fs.Grown { fs with root := s.fill (.file content) } := by
        refine ⟨Slot.grown_fill hstands fun old hold => ?_, rfl⟩
        obtain ⟨before, rfl⟩ := hfile old hold
        exact Entry.grown_file before content
      obtain ⟨hslashed, p, hp, hentry⟩ := follow_written grown (s.find?_fill (.file content))
        (grown.start there path) hs
      refine ⟨?_, grown⟩
      have hsteps : steps path = namesOf path := by rw [steps, hslashed]; rfl
      unfold look locate
      rw [hc, hsteps]
      exact (congrArg (Except.map Place.entry) hp).trans (congrArg Except.ok hentry)

end FileSystem

end UsbInventory
