/-
Making the paths of a configuration definite. Every root that is named becomes absolute, and the device-tree root is
accepted then; one that is empty stays empty, and nothing else is touched. What is definite already stays as it is, so
doing it again changes nothing, and doing it before some of the roots are overridden leaves no trace.
-/
import Mathlib.Data.List.Forall2
import UsbInventory.CommandLine.Run
import UsbInventory.Proofs.Files.Resolution
import UsbInventory.Proofs.Path.Definite
import UsbInventory.Proofs.Settings.DevicesRoot
import UsbInventory.Proofs.Settings.Validation

namespace UsbInventory

open RawPath

/-! ## The home directory -/

namespace Environment

variable {env : Environment} {p : RawPath}

/-- The home directory takes the place of a mark only where it is named itself. -/
theorem expandHome_eq_nil_iff : env.expandHome p = [] ↔ p = [] := by
  cases p with
  | nil => exact iff_of_true rfl rfl
  | cons mark rest =>
    refine iff_of_false ?_ (List.cons_ne_nil mark rest)
    unfold expandHome
    dsimp only
    split
    · next h =>
      have hhome : env.home ≠ [] := by simpa using h.2.2.2.2
      exact List.append_ne_nil_of_left_ne_nil hhome rest
    · exact List.cons_ne_nil mark rest

theorem expandHome_of_isAbsolute (h : p.isAbsolute = true) : env.expandHome p = p := by
  cases p with
  | nil => rfl
  | cons mark rest =>
    obtain rfl : mark = slash := by simpa [isAbsolute] using h
    unfold expandHome
    exact if_neg fun hmark => absurd hmark.1 (by decide)

end Environment

/-! ## Roots -/

theorem RawPath.IsCanonical.isDefinite {p : RawPath} (h : p.IsCanonical) : p.IsDefinite := by
  obtain ⟨names, rfl, hnames⟩ := h
  exact .bare (.inl rfl) (isStep_of_mem hnames)

section Roots

variable {fs : FileSystem} (env : Environment) {p : RawPath}

theorem expandPath_of_isDefinite (h : p.IsDefinite) : expandPath env fs p = p := by
  rw [expandPath, Environment.expandHome_of_isAbsolute h.isAbsolute]
  exact h.absolute_eq_self fs.workPath

/-- A root without a place among the files is only made absolute. -/
theorem expandRoot_cases (p : RawPath) : expandRoot env fs p = expandPath env fs p ∨
    fs.canonicalize (expandPath env fs p) = .ok (expandRoot env fs p) := by
  unfold expandRoot
  dsimp only
  split
  · next found h => exact .inr h
  · exact .inl rfl

namespace FileSystem.Sound

theorem isDefinite_expandPath (h : fs.Sound) (hp : p ≠ []) : (expandPath env fs p).IsDefinite :=
  isDefinite_absolute (mt Environment.expandHome_eq_nil_iff.1 hp) fun name hn => (h.names name hn).toIsName

theorem isDefinite_expandRoot (h : fs.Sound) (hp : p ≠ []) : (expandRoot env fs p).IsDefinite := by
  rcases expandRoot_cases env p with hsame | hfound
  · rw [hsame]
    exact h.isDefinite_expandPath env hp
  · exact (h.canonical _ _ hfound).isDefinite

theorem expandPath_expandPath (h : fs.Sound) (p : RawPath) :
    expandPath env fs (expandPath env fs p) = expandPath env fs p := by
  by_cases hp : p = []
  · subst hp
    rfl
  · exact expandPath_of_isDefinite env (h.isDefinite_expandPath env hp)

/-- A root that was resolved is canonical and resolves to itself, if it is resolved again at all; one that was not
resolved is absolute, and does not come to be resolved. -/
theorem expandRoot_expandRoot (h : fs.Sound) (p : RawPath) :
    expandRoot env fs (expandRoot env fs p) = expandRoot env fs p := by
  cases hfirst : fs.canonicalize (expandPath env fs p) with
  | error e =>
    have hroot : expandRoot env fs p = expandPath env fs p := by rw [expandRoot, hfirst]
    rw [hroot, expandRoot, h.expandPath_expandPath env p, hfirst]
  | ok found =>
    have hroot : expandRoot env fs p = found := by rw [expandRoot, hfirst]
    have hdefinite : expandPath env fs found = found :=
      expandPath_of_isDefinite env (h.canonical _ _ hfirst).isDefinite
    rw [hroot]
    rcases expandRoot_cases env found with hsame | hagain
    · exact hsame.trans hdefinite
    · rw [hdefinite] at hagain
      exact h.canonicalize_resolved hfirst hagain

end FileSystem.Sound

end Roots

/-! ## Configurations -/

namespace Configuration

/-- The roots that a configuration names: those of the groups, of the device tree and, where it has one, of the
snapshot. -/
def roots (c : Configuration) : List RawPath :=
  c.discovery.devUsbRoot :: c.discovery.devicesRoot :: c.discovery.snapshotRoot.toList

/-- A configuration with other roots. -/
def withRoots (c : Configuration) (devUsbRoot devicesRoot : RawPath) (snapshotRoot : Option RawPath) :
    Configuration :=
  { c with discovery := { c.discovery with devUsbRoot, devicesRoot, snapshotRoot } }

/-- Only a device-tree root that is not absolute is rejected for that. -/
theorem isAbsolute_of_validate {c : Configuration} {path : RawPath} (h : c.validate = .error (.devicesRoot path)) :
    c.discovery.devicesRoot.isAbsolute = false := by
  unfold validate at h
  dsimp only at h
  split at h
  · cases h
  split at h
  · cases h
  split at h
  · cases h
  split at h
  · next hroot => simpa using hroot
  split at h
  · cases h
  · cases h

end Configuration

/-- What becomes of a root: it is made absolute, but an empty one stays empty. -/
def RawPath.MadeDefinite (before after : RawPath) : Prop :=
  (before = [] → after = []) ∧ (before ≠ [] → after.isAbsolute = true)

/-- A value that is made definite before it is overridden, or not, becomes what it becomes without that. -/
theorem getD_made {α : Type} {make : α → α} (h : ∀ a, make (make a) = make a) (given : Option α) (a : α) :
    make (given.getD (make a)) = make (given.getD a) := by
  cases given with
  | none => exact h a
  | some b => rfl

theorem or_made {α : Type} {make : α → α} (h : ∀ a, make (make a) = make a) (given old : Option α) :
    (given.or (old.map make)).map make = (given.or old).map make := by
  cases given with
  | some b => rfl
  | none =>
    cases old with
    | none => rfl
    | some a => exact congrArg some (h a)

/-- Making the paths of a configuration definite before the options are put in leaves no trace once it is done
again. -/
theorem expandPaths_override {fs : FileSystem} (sound : fs.Sound) (env : Environment) (o : CommandLine.Options)
    (c : Configuration) :
    (o.override (c.expandPaths env fs)).expandPaths env fs = (o.override c).expandPaths env fs := by
  have hpath := sound.expandPath_expandPath env
  have hroot := sound.expandRoot_expandRoot env
  unfold CommandLine.Options.override Configuration.expandPaths
  dsimp only
  rw [getD_made hpath, getD_made hroot, or_made hpath]

/-- Making the paths of a configuration definite twice is the same as doing it once, also where options are put in
between. It replaces the three roots and nothing else; those that are not empty become absolute, so that the device-tree
root is not rejected then. -/
theorem Configuration.expandPaths_definite {fs : FileSystem} (sound : fs.Sound) (env : Environment)
    (c : Configuration) :
    let expanded := c.expandPaths env fs
    expanded.expandPaths env fs = expanded ∧
    (∀ o : CommandLine.Options, (o.override expanded).expandPaths env fs = (o.override c).expandPaths env fs) ∧
    expanded = c.withRoots expanded.discovery.devUsbRoot expanded.discovery.devicesRoot
      expanded.discovery.snapshotRoot ∧
    List.Forall₂ RawPath.MadeDefinite c.roots expanded.roots ∧
    (c.discovery.devicesRoot ≠ [] → ∀ path, expanded.validate ≠ .error (.devicesRoot path)) := by
  intro expanded
  have hpath : ∀ p : RawPath, p.MadeDefinite (expandPath env fs p) := fun p =>
    ⟨fun hp => by rw [hp]; rfl, fun hp => (sound.isDefinite_expandPath env hp).isAbsolute⟩
  have hroot : ∀ p : RawPath, p.MadeDefinite (expandRoot env fs p) := fun p =>
    ⟨fun hp => by rw [hp]; rfl, fun hp => (sound.isDefinite_expandRoot env hp).isAbsolute⟩
  refine ⟨expandPaths_override sound env {} c, fun o => expandPaths_override sound env o c, rfl, ?_, ?_⟩
  · refine .cons (hpath c.discovery.devUsbRoot) (.cons (hroot c.discovery.devicesRoot) ?_)
    have hsnapshot : expanded.discovery.snapshotRoot = c.discovery.snapshotRoot.map (expandPath env fs) := rfl
    rw [hsnapshot]
    cases c.discovery.snapshotRoot with
    | none => exact .nil
    | some root => exact .cons (hpath root) .nil
  · intro hp path hrejected
    have habsolute : expanded.discovery.devicesRoot.isAbsolute = true := (hroot c.discovery.devicesRoot).2 hp
    rw [isAbsolute_of_validate hrejected] at habsolute
    cases habsolute

/-- A root in the home directory behind two links, one with a second slash in front, and an empty one: doing it once
gives the true path of the first, the absolute form of the second, and the empty path, and doing it again the same. -/
theorem linked_roots_definite :
    let env : Environment := { home := RawPath.ofString "/home/user" }
    let c : Configuration :=
      { discovery :=
        { devUsbRoot := RawPath.ofString "//dev/./usb/"
          devicesRoot := RawPath.ofString "~/dev//"
          snapshotRoot := some [] } }
    let expanded := c.expandPaths env linkedFiles
    linkedFiles.Sound ∧ c.discovery.devicesRoot ≠ [] ∧
    expanded.roots = [RawPath.ofString "//dev/usb/", RawPath.ofString "/real/devices", []] ∧
    (expanded.expandPaths env linkedFiles).roots = expanded.roots ∧
    expanded.validate ≠ .error (.devicesRoot expanded.discovery.devicesRoot) := by
  intro env c expanded
  have hnamed : c.discovery.devicesRoot ≠ [] := by decide
  obtain ⟨htwice, -, -, -, haccepted⟩ := Configuration.expandPaths_definite linkedFiles_sound env c
  exact ⟨linkedFiles_sound, hnamed, by decide +kernel, congrArg Configuration.roots htwice, haccepted hnamed _⟩

end UsbInventory
