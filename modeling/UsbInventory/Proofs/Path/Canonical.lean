/-
Canonical paths: absolute, and written as names that lead down, with one slash before each. Resolving a file gives
such a path, and what is left of it below a canonical base is the names between. A path is lexically inside another
when the steps that it adds to it never lead above the place where they start.
-/
import UsbInventory.Proofs.Files.Names
import UsbInventory.Proofs.Path.Components

namespace UsbInventory

open RawPath

namespace RawPath

/-- A name that leads down: it names something, and it is not `..`. -/
structure IsStep (name : RawPath) : Prop extends IsName name where
  descends : name ≠ [dot, dot]

/-- An absolute path that is written as steps down, with one slash before each. -/
def IsCanonical (p : RawPath) : Prop := ∃ names, p = FileSystem.pathOf names ∧ ∀ name ∈ names, IsStep name

end RawPath

/-- What is promised of the resolution of paths: it gives canonical paths. -/
def Directories.Canonical (d : Directories) : Prop :=
  ∀ path resolved, d.canonicalize path = .ok resolved → resolved.IsCanonical

/-! ## Resolved paths -/

/-- A place whose path is written in proper names, as are those of everything below and beside the way to it. -/
structure Place.Canonical (p : Place) : Prop extends p.Named where
  steps : ∀ name ∈ p.location, IsStep name

theorem RawPath.isStep_of_isComponent {name : RawPath} (h : BoundedPath.isComponent name = true) (hdot : name ≠ [dot])
    (hdots : name ≠ [dot, dot]) : IsStep name := by
  unfold BoundedPath.isComponent at h
  simp only [Bool.and_eq_true, Bool.not_eq_true', List.isEmpty_eq_false_iff, List.contains_eq_mem,
    decide_eq_false_iff_not] at h
  exact ⟨⟨h.2, by simp [isProper, h.1, hdot]⟩, hdots⟩

theorem Place.Canonical.enter {p q : Place} {name : RawPath} (hp : p.Canonical) (hdot : name ≠ [dot])
    (hdots : name ≠ [dot, dot]) (h : p.enter? name = some q) : q.Canonical := by
  refine ⟨hp.toNamed.enter h, ?_⟩
  obtain ⟨es, e, hes, hl, rfl⟩ := Place.enter?_eq_some h
  have hall : Entry.allNamed es = true := by
    have := hp.entry
    rwa [hes, Entry.named] at this
  have hcomponent := Entry.isComponent_of_allNamed hall name (List.mem_map_of_mem (mem_of_lookup hl))
  have hname : IsStep name := isStep_of_isComponent hcomponent hdot hdots
  intro n hn
  rw [Place.location, List.map_cons, List.reverse_cons, List.mem_append, List.mem_singleton] at hn
  rcases hn with hn | rfl
  · exact hp.steps n hn
  · exact hname

theorem Place.Canonical.up {p : Place} (hp : p.Canonical) : p.up.Canonical := by
  refine ⟨hp.toNamed.up, fun name hn => hp.steps name ?_⟩
  unfold Place.up at hn
  split at hn
  · exact hn
  · next d es above ha =>
    rw [Place.location, ha, List.map_cons, List.reverse_cons]
    exact List.mem_append_left _ hn

namespace FileSystem

variable {fs : FileSystem}

theorem Named.canonical_workPlace (h : fs.Named)
    (hwork : ∀ name ∈ fs.workDir, name ≠ [dot] ∧ name ≠ [dot, dot]) : fs.workPlace.Canonical :=
  Place.enterAll_induction ⟨h.rootPlace, fun _ hn => by cases hn⟩ fun hn hp =>
    hp.enter (hwork _ hn).1 (hwork _ hn).2

theorem Named.keeps_canonical (h : fs.Named)
    (hwork : ∀ name ∈ fs.workDir, name ≠ [dot] ∧ name ≠ [dot, dot]) : fs.Keeps Place.Canonical :=
  ⟨⟨h.rootPlace, fun _ hn => by cases hn⟩, h.canonical_workPlace hwork, fun hp => hp.enter, fun hp => hp.up⟩

/-- A file system with proper names resolves paths to canonical ones. -/
theorem Named.canonical (h : fs.Named) (hwork : ∀ name ∈ fs.workDir, name ≠ [dot] ∧ name ≠ [dot, dot]) :
    fs.directories.Canonical := by
  have keeps := h.keeps_canonical hwork
  intro path resolved hr
  obtain ⟨-, p, hf, rfl⟩ := canonicalize_eq_ok_iff.1 hr
  exact ⟨p.location, rfl, (keeps.follow true _ _ _ p (keeps.startIn keeps.work path) hf).steps⟩

end FileSystem

namespace RawPath

/-! ## Below a base -/

theorem isStep_of_mem {names : List RawPath} (h : ∀ name ∈ names, IsStep name) : ∀ name ∈ names, IsName name :=
  fun name hn => (h name hn).toIsName

theorem components_canonical {names : List RawPath} (h : ∀ name ∈ names, IsName name) :
    (FileSystem.pathOf names).components = .root :: names.map .name := by
  by_cases hne : names = []
  · subst hne
    rfl
  · exact components_pathOf hne h

/-- Nothing is left of a canonical path below itself, however the base is written. -/
theorem stripBase?_self {base : RawPath} {above : List RawPath} (hb : base.components = .root :: above.map .name) :
    (FileSystem.pathOf above).stripBase? base = some [] := by
  have h : ∀ name ∈ above, IsName name := fun name hn =>
    isName_of_mem_components (hb ▸ List.mem_cons_of_mem _ (List.mem_map_of_mem hn))
  have hprefix : base.components.isPrefixOf (FileSystem.pathOf above).components = true := by
    rw [hb, components_canonical h]
    exact List.isPrefixOf_iff_prefix.2 List.prefix_rfl
  have hcount : base.components.length - base.opening.length = above.length := by
    rw [opening_of_components hb, hb]
    simp
  have hdrop : dropIdle (dropIdleEnd (dropProper above.length (FileSystem.pathOf above).pieces)) = [] := by
    by_cases hne : above = []
    · subst hne
      rfl
    · have hall := dropProper_names above [] h
      rw [List.append_nil] at hall
      rw [pieces_pathOf hne fun name hn => (h name hn).whole]
      obtain ⟨name, rest, rfl⟩ := List.exists_cons_of_ne_nil hne
      rw [List.length_cons, dropProper, if_neg (by simp [isProper])]
      rw [List.length_cons] at hall
      rw [hall]
      rfl
  unfold stripBase?
  rw [if_pos hprefix, if_neg (by rw [hb]; simp)]
  dsimp only
  rw [hcount, hdrop]
  rfl

/-- What is left of a canonical path below a base is written as the names between. -/
theorem stripBase?_canonical {base : RawPath} {above below : List RawPath}
    (hb : base.components = .root :: above.map .name) (h : ∀ name ∈ below, IsName name) :
    (FileSystem.pathOf (above ++ below)).stripBase? base = some (ofPieces below) := by
  by_cases hne : below = []
  · subst hne
    rw [List.append_nil]
    exact stripBase?_self hb
  · exact stripBase?_pathOf hb hne h

theorem prefix_of_stripBase? {p base left : RawPath} (h : p.stripBase? base = some left) :
    base.components <+: p.components := by
  unfold stripBase? at h
  split at h
  · next hprefix => exact List.isPrefixOf_iff_prefix.1 hprefix
  · cases h

/-- Something is left of a canonical path only below a base with the first of its names. -/
theorem of_stripBase? {base left : RawPath} {above names : List RawPath}
    (hb : base.components = .root :: above.map .name) (hn : ∀ name ∈ names, IsName name)
    (h : (FileSystem.pathOf names).stripBase? base = some left) :
    ∃ below, names = above ++ below ∧ left = ofPieces below := by
  have hprefix := prefix_of_stripBase? h
  rw [hb, components_canonical hn, List.prefix_cons_inj] at hprefix
  obtain ⟨below, rfl⟩ := (List.prefix_map_iff_of_injective fun _ _ => Component.name.inj).1 hprefix
  rw [stripBase?_canonical hb fun name hm => hn name (List.mem_append_right above hm)] at h
  exact ⟨below, rfl, (Option.some.inj h).symm⟩

/-! ## Inside -/

/-- Whether steps from a place, so many levels below another, never lead above that one: `..` leads one level up. -/
def staysBelow : Nat → List RawPath → Bool
  | _, [] => true
  | 0, name :: rest => name != [dot, dot] && staysBelow 1 rest
  | depth + 1, name :: rest => if name = [dot, dot] then staysBelow depth rest else staysBelow (depth + 2) rest

/-- The names in a path, in order. -/
def namesIn (p : RawPath) : List RawPath := p.pieces.filter isProper

/-- A path is lexically inside another if it only adds steps to it, and these never lead above it. -/
def Inside (p root : RawPath) : Prop :=
  p.isAbsolute = root.isAbsolute ∧ ∃ names, p.namesIn = root.namesIn ++ names ∧ staysBelow 0 names = true

theorem staysBelow_cons {name : RawPath} (h : name ≠ [dot, dot]) (depth : Nat) (rest : List RawPath) :
    staysBelow depth (name :: rest) = staysBelow (depth + 1) rest := by
  cases depth with
  | zero => simp [staysBelow, h]
  | succ depth => rw [staysBelow, if_neg h]

theorem staysBelow_append : ∀ {names : List RawPath}, (∀ name ∈ names, name ≠ [dot, dot]) →
    ∀ (depth : Nat) (rest : List RawPath), staysBelow depth (names ++ rest) = staysBelow (depth + names.length) rest
  | [], _, _, _ => rfl
  | name :: names, h, depth, rest => by
    have ih := staysBelow_append (fun n hn => h n (List.mem_cons_of_mem _ hn)) (depth + 1) rest
    rw [List.cons_append, staysBelow_cons (h name List.mem_cons_self), ih, List.length_cons, Nat.add_assoc,
      Nat.add_comm 1]

theorem inside_iff {p root : RawPath} {names : List RawPath} (ha : p.isAbsolute = root.isAbsolute)
    (hn : p.namesIn = root.namesIn ++ names) : p.Inside root ↔ staysBelow 0 names = true := by
  refine ⟨fun ⟨_, names', he, hs⟩ => ?_, fun hs => ⟨ha, names, hn, hs⟩⟩
  have hnames : names' = names := List.append_cancel_left (he.symm.trans hn)
  rwa [hnames] at hs

theorem namesIn_append (p q : RawPath) : namesIn (p ++ slash :: q) = p.namesIn ++ q.namesIn :=
  filter_pieces_append isProper p q

/-- A relative path that is joined to another adds its names. -/
theorem namesIn_join {q : RawPath} (hq : q.isAbsolute = false) (p : RawPath) :
    (p.join q).namesIn = p.namesIn ++ q.namesIn :=
  filter_pieces_join rfl hq p

end RawPath

end UsbInventory
