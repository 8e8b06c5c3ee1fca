/-
The names that listings give. In a file system whose entries all stand under proper names, following a path
leads only to places whose directories do too, so every listing consists of names that can be components of a
path. The empty path cannot be handed to the system, so it has no listing.
-/
import UsbInventory.Backend.Basic

namespace UsbInventory

theorem mem_of_lookup {α β : Type} [BEq α] [LawfulBEq α] {l : List (α × β)} {a : α} {b : β}
    (h : l.lookup a = some b) : (a, b) ∈ l := by
  obtain ⟨before, after, rfl, -⟩ := List.lookup_eq_some_iff.1 h
  simp

/-! ## Directories -/

/-- A walk sees the names that the file system lists. -/
@[simp]
theorem FileSystem.readDir_directories (fs : FileSystem) (path : RawPath) :
    fs.directories.readDir path = fs.readDir path := by
  show ((fs.readDir path).map (List.map Except.ok)).map Directories.readable = fs.readDir path
  cases fs.readDir path with
  | error e => rfl
  | ok names =>
    refine congrArg Except.ok (List.filterMap_map.trans ?_)
    exact List.filterMap_some

/-- What is promised of the directories of an operating system: the empty path has no listing, and a listing
consists of names that can be components of a path. -/
structure Directories.Lawful (d : Directories) : Prop where
  emptyPath : ∀ names, d.readDir [] ≠ .ok names
  components : ∀ path names, d.readDir path = .ok names → ∀ name ∈ names, BoundedPath.isComponent name = true

namespace Entry

/-! ## Entries -/

mutual

/-- Whether everything below an entry stands under a proper name. -/
def named : Entry → Bool
  | directory es => allNamed es
  | _ => true

/-- Whether some entries of a directory, and everything below them, stand under proper names. -/
def allNamed : List (RawPath × Entry) → Bool
  | [] => true
  | (name, e) :: rest => BoundedPath.isComponent name && named e && allNamed rest

end

theorem isComponent_of_allNamed : ∀ {es : List (RawPath × Entry)}, allNamed es = true →
    ∀ name ∈ es.map (·.1), BoundedPath.isComponent name = true
  | [], _, _, hn => by cases hn
  | (name, e) :: rest, h, n, hn => by
    rw [allNamed, Bool.and_eq_true, Bool.and_eq_true] at h
    rcases List.mem_cons.1 hn with rfl | hn
    · exact h.1.1
    · exact isComponent_of_allNamed h.2 n hn

theorem named_of_lookup {name : RawPath} {e : Entry} : ∀ {es : List (RawPath × Entry)}, allNamed es = true →
    es.lookup name = some e → e.named = true
  | [], _, hl => by cases hl
  | (n, e') :: rest, h, hl => by
    rw [allNamed, Bool.and_eq_true, Bool.and_eq_true] at h
    rw [List.lookup_cons] at hl
    split at hl
    · cases hl
      exact h.1.2
    · exact named_of_lookup h.2 hl

/-- What is found below an entry is found below what a directory holds. -/
theorem find?_cons_eq_some {e x : Entry} {name : RawPath} {rest : Location} (h : e.find? (name :: rest) = some x) :
    ∃ es inner, e = .directory es ∧ es.lookup name = some inner ∧ inner.find? rest = some x := by
  cases e with
  | file content => cases h
  | link target => cases h
  | directory es =>
    obtain ⟨inner, hl, hx⟩ := Option.bind_eq_some_iff.1 h
    exact ⟨es, inner, rfl, hl, hx⟩

end Entry

/-! ## Places -/

namespace Place

/-- Only a directory is entered, under a name that it holds. -/
theorem enter?_eq_some {p q : Place} {name : RawPath} (h : p.enter? name = some q) :
    ∃ es e, p.entry = .directory es ∧ es.lookup name = some e ∧ q = ⟨e, (name, es) :: p.above⟩ := by
  unfold enter? at h
  split at h
  · next es hes =>
    obtain ⟨e, hl, rfl⟩ := Option.map_eq_some_iff.1 h
    exact ⟨es, e, hes, hl, rfl⟩
  · cases h

theorem enter?_directory {p : Place} {es : List (RawPath × Entry)} {name : RawPath} {e : Entry}
    (hes : p.entry = .directory es) (hl : es.lookup name = some e) :
    p.enter? name = some ⟨e, (name, es) :: p.above⟩ := by
  rw [enter?, hes]
  simp [hl]

/-- The place at the end of a way down from another, as far as its names lead anywhere. -/
def enterAll (p : Place) (way : Location) : Place := way.foldl (fun p name => (p.enter? name).getD p) p

theorem enterAll_cons {p : Place} {es : List (RawPath × Entry)} {name : RawPath} {e : Entry}
    (hes : p.entry = .directory es) (hl : es.lookup name = some e) (way : Location) :
    p.enterAll (name :: way) = enterAll ⟨e, (name, es) :: p.above⟩ way := by
  rw [enterAll, List.foldl_cons, enter?_directory hes hl]
  rfl

/-- A property that is kept under every name of a way holds at its end. -/
theorem enterAll_induction {P : Place → Prop} {way : Location} {p : Place} (start : P p)
    (enter : ∀ {p q : Place} {name : RawPath}, name ∈ way → P p → p.enter? name = some q → P q) :
    P (p.enterAll way) := by
  induction way generalizing p with
  | nil => exact start
  | cons name way ih =>
    have hrest : ∀ {q : Place}, P q → P (q.enterAll way) := fun hq =>
      ih hq fun hn => enter (List.mem_cons_of_mem name hn)
    rw [enterAll, List.foldl_cons]
    cases he : p.enter? name with
    | none => exact hrest start
    | some q => exact hrest (enter List.mem_cons_self start he)

end Place

/-- A place at which everything, below and on the way, stands under a proper name. -/
structure Place.Named (p : Place) : Prop where
  entry : p.entry.named = true
  above : ∀ d ∈ p.above, Entry.allNamed d.2 = true

theorem Place.Named.child {p : Place} {es : List (RawPath × Entry)} {name : RawPath} {e : Entry} (hp : p.Named)
    (hes : p.entry = .directory es) (hl : es.lookup name = some e) : Place.Named ⟨e, (name, es) :: p.above⟩ := by
  have hall : Entry.allNamed es = true := by
    have := hp.entry
    rwa [hes, Entry.named] at this
  refine ⟨Entry.named_of_lookup hall hl, fun d hd => ?_⟩
  rcases List.mem_cons.1 hd with rfl | hd
  · exact hall
  · exact hp.above d hd

theorem Place.Named.enter {p q : Place} {name : RawPath} (hp : p.Named) (h : p.enter? name = some q) : q.Named := by
  obtain ⟨es, e, hes, hl, rfl⟩ := Place.enter?_eq_some h
  exact hp.child hes hl

theorem Place.Named.up {p : Place} (hp : p.Named) : p.up.Named := by
  unfold Place.up
  split
  · exact hp
  · next name es above ha =>
    refine ⟨?_, fun d hd => hp.above d (ha ▸ List.mem_cons_of_mem _ hd)⟩
    rw [Entry.named]
    exact hp.above (name, es) (ha ▸ List.mem_cons_self)

namespace FileSystem

/-- A file system in which every entry stands under a proper name. -/
def Named (fs : FileSystem) : Prop := fs.root.named = true

instance (fs : FileSystem) : Decidable fs.Named := inferInstanceAs (Decidable (fs.root.named = true))

variable {fs : FileSystem}

theorem Named.rootPlace (h : fs.Named) : fs.rootPlace.Named := ⟨h, fun _ hd => by cases hd⟩

theorem Named.workPlace (h : fs.Named) : fs.workPlace.Named :=
  Place.enterAll_induction h.rootPlace fun _ hp => hp.enter

/-! ## Checks -/

theorem checkText_eq_ok_iff {p : RawPath} : checkText p = .ok () ↔ p ≠ [] ∧ 0 ∉ p := by
  unfold checkText
  by_cases hended : 0 ∈ p
  · simp [hended]
  · cases p with
    | nil => simp
    | cons b rest => simp [hended]

theorem checkPath_eq_ok_iff {p : RawPath} : checkPath p = .ok () ↔ p ≠ [] ∧ 0 ∉ p ∧ p.length < maxPath := by
  rw [← and_assoc, ← checkText_eq_ok_iff]
  unfold checkPath
  cases checkText p with
  | error e => exact ⟨nofun, nofun⟩
  | ok _ =>
    by_cases hlong : maxPath ≤ p.length
    · refine ⟨fun h => ?_, fun h => absurd h.2 (Nat.not_lt.2 hlong)⟩
      rw [if_pos hlong] at h
      cases h
    · rw [if_neg hlong]
      exact ⟨fun _ => ⟨rfl, Nat.lt_of_not_le hlong⟩, fun _ => rfl⟩

theorem locate_eq_ok_iff {path : RawPath} {p : Place} : fs.locate path = .ok p ↔
    checkPath path = .ok () ∧ fs.follow false maxLinks (fs.start path) (steps path) = .ok p := by
  unfold locate
  cases checkPath path with
  | error e => exact ⟨nofun, nofun⟩
  | ok _ => exact ⟨fun h => ⟨rfl, h⟩, fun h => h.2⟩

/-- A path is resolved to the path of the place that it leads to. -/
theorem canonicalize_eq_ok_iff {path found : RawPath} : fs.canonicalize path = .ok found ↔
    checkText path = .ok () ∧
      ∃ p, fs.follow true maxLinks (fs.start path) (steps path) = .ok p ∧ pathOf p.location = found := by
  unfold canonicalize
  cases checkText path with
  | error e => exact ⟨nofun, nofun⟩
  | ok _ =>
    cases hf : fs.follow true maxLinks (fs.start path) (steps path) with
    | error e => exact ⟨nofun, fun ⟨_, _, hp, _⟩ => nomatch hp⟩
    | ok p =>
      refine ⟨fun h => ⟨rfl, p, rfl, Except.ok.inj h⟩, fun ⟨_, q, hq, hfound⟩ => ?_⟩
      cases hq
      exact congrArg Except.ok hfound

/-! ## Following a path -/

section Follow

variable {limited : Bool} {links : Nat} {at_ p : Place} {todo : List RawPath}

theorem follow_of_arrived (h : reach limited at_ todo = .arrived p) : fs.follow limited links at_ todo = .ok p := by
  rw [follow.eq_def, h]

theorem follow_of_link {dir : Place} {target : RawPath} {rest : List RawPath}
    (h : reach limited at_ todo = .link dir target rest) :
    fs.follow limited (links + 1) at_ todo =
      fs.follow limited links (fs.startIn dir target) (steps target ++ rest) := by
  rw [follow.eq_def, h]

/-- Steps lead to a place at once, or by a link. -/
theorem follow_cases (h : fs.follow limited links at_ todo = .ok p) :
    reach limited at_ todo = .arrived p ∨ ∃ dir target rest left, reach limited at_ todo = .link dir target rest ∧
      links = left + 1 ∧ fs.follow limited left (fs.startIn dir target) (steps target ++ rest) = .ok p := by
  rw [follow.eq_def] at h
  cases hr : reach limited at_ todo with
  | arrived q =>
    rw [hr] at h
    cases h
    exact .inl rfl
  | failed e =>
    rw [hr] at h
    cases h
  | link dir target rest =>
    rw [hr] at h
    cases links with
    | zero => cases h
    | succ left => exact .inr ⟨dir, target, rest, left, rfl, rfl, h⟩

end Follow

/-- A property of places that holds where paths start and that every step keeps: down under a name, or up. -/
structure Keeps (fs : FileSystem) (P : Place → Prop) : Prop where
  root : P fs.rootPlace
  work : P fs.workPlace
  enter : ∀ {p q : Place} {name : RawPath}, P p → name ≠ [RawPath.dot] → name ≠ [RawPath.dot, RawPath.dot] →
    p.enter? name = some q → P q
  up : ∀ {p : Place}, P p → P p.up

/-- Where steps lead, if every place that they come by has a property. -/
def Reach.All (P : Place → Prop) : Reach → Prop
  | .arrived p => P p
  | .failed _ => True
  | .link dir _ _ => P dir

section Keeps

variable {P : Place → Prop}

/-- Steps from a place with the property lead to such a place, or stop at a link in one. -/
theorem Keeps.reach (h : fs.Keeps P) (limited : Bool) : ∀ (todo : List RawPath) (at_ : Place), P at_ →
    (FileSystem.reach limited at_ todo).All P
  | [], _, ha => ha
  | name :: rest, at_, ha => by
    -- a `.` stays where it is, and a `..` goes up
    have hstep : P (if name = [RawPath.dot] then at_ else at_.up) := by
      split
      · exact ha
      · exact h.up ha
    unfold FileSystem.reach
    generalize (if name = [RawPath.dot] then at_ else at_.up) = next at hstep ⊢
    split
    · next es hes =>
      dsimp only
      split
      · split
        · trivial
        · exact h.reach limited rest next hstep
      · next hname =>
        obtain ⟨hdot, hdots⟩ := not_or.1 hname
        split
        · trivial
        · split
          · trivial
          · exact ha
          · next e _ hl =>
            exact h.reach limited rest _ (h.enter ha hdot hdots (Place.enter?_directory hes hl))
    · trivial

theorem Keeps.startIn (h : fs.Keeps P) {dir : Place} (hd : P dir) (p : RawPath) : P (fs.startIn dir p) := by
  unfold FileSystem.startIn
  split
  · exact h.root
  · exact hd

theorem Keeps.follow (h : fs.Keeps P) (limited : Bool) : ∀ (links : Nat) (at_ : Place) (todo : List RawPath)
    (p : Place), P at_ → fs.follow limited links at_ todo = .ok p → P p
  | links, at_, todo, p, ha, hp => by
    have hr := h.reach limited todo at_ ha
    rcases follow_cases hp with hreach | ⟨dir, target, rest, left, hreach, rfl, hgo⟩
    · rwa [hreach] at hr
    · rw [hreach] at hr
      exact h.follow limited left _ _ p (h.startIn hr target) hgo

theorem Keeps.locate (h : fs.Keeps P) {path : RawPath} {p : Place} (hp : fs.locate path = .ok p) : P p :=
  h.follow false maxLinks _ _ p (h.startIn h.work path) (locate_eq_ok_iff.1 hp).2

end Keeps

theorem Named.keeps (h : fs.Named) : fs.Keeps Place.Named :=
  ⟨h.rootPlace, h.workPlace, fun hp _ _ he => hp.enter he, fun hp => hp.up⟩

/-- The directories of a file system with proper names keep what is promised of an operating system. -/
theorem Named.lawful (h : fs.Named) : fs.directories.Lawful := by
  refine ⟨fun names hn => ?_, fun path names hn name hmem => ?_⟩
  · cases hn
  · rw [readDir_directories] at hn
    unfold readDir look at hn
    cases hl : fs.locate path with
    | error e =>
      rw [hl] at hn
      cases hn
    | ok p =>
      rw [hl] at hn
      have hp := (h.keeps.locate hl).entry
      cases he : p.entry with
      | directory es =>
        simp only [Except.map, he] at hn
        cases hn
        rw [he, Entry.named] at hp
        exact Entry.isComponent_of_allNamed hp name hmem
      | file content =>
        simp only [Except.map, he] at hn
        cases hn
      | link target =>
        simp only [Except.map, he] at hn
        cases hn

end FileSystem

end UsbInventory
