/-
The spelling of the device-tree root. However the root is written, making a configuration definite replaces it by the
true path of the directory that it names, so that passes do not depend on the spelling, and exactly the witnesses that
resolve to this directory or to something below it are inside.
-/
import UsbInventory.Backend.Basic
import UsbInventory.Proofs.Files.WorkingDirectory
import UsbInventory.Proofs.Pass.Counters
import UsbInventory.Proofs.Pass.Cutting
import UsbInventory.Proofs.Pass.Inspection
import UsbInventory.Settings.Expansion

namespace UsbInventory

open RawPath

/-! ## Below the root -/

/-- A path lies below another if it adds steps down to it. -/
def RawPath.LiesBelow (p root : RawPath) : Prop :=
  ∃ names, names ≠ [] ∧ (∀ name ∈ names, IsStep name) ∧ p = names.foldl join root

/-- Between canonical paths, something is left below a base exactly if the path is the base or lies below it. -/
theorem RawPath.stripBase?_isSome_iff {p root : RawPath} (hp : p.IsCanonical) (hroot : root.IsCanonical) :
    (p.stripBase? root).isSome = true ↔ p = root ∨ p.LiesBelow root := by
  obtain ⟨names, rfl, hnames⟩ := hp
  obtain ⟨above, rfl, habove⟩ := hroot
  have hbase := components_canonical (isStep_of_mem habove)
  constructor
  · intro h
    obtain ⟨left, hleft⟩ := Option.isSome_iff_exists.1 h
    obtain ⟨below, rfl, -⟩ := of_stripBase? hbase (isStep_of_mem hnames) hleft
    have hbelow : ∀ name ∈ below, IsStep name := fun name hn => hnames name (List.mem_append_right above hn)
    by_cases hne : below = []
    · exact .inl (by rw [hne, List.append_nil])
    · exact .inr ⟨below, hne, hbelow, (foldl_join_pathOf (isStep_of_mem habove) (isStep_of_mem hbelow)).symm⟩
  · rintro (h | ⟨below, -, hbelow, h⟩)
    · rw [h, stripBase?_self hbase]
      rfl
    · rw [h, foldl_join_pathOf (isStep_of_mem habove) (isStep_of_mem hbelow),
        stripBase?_canonical hbase (isStep_of_mem hbelow)]
      rfl

/-! ## The definite root -/

/-- A configuration with another device-tree root. -/
def Configuration.withDevicesRoot (c : Configuration) (root : RawPath) : Configuration :=
  { c with discovery := { c.discovery with devicesRoot := root } }

namespace FileSystem.Sound

variable {fs : FileSystem}

/-- The absolute form is resolved, and not the spelling itself; it leads to the same directory. -/
theorem expandRoot_eq (h : fs.Sound) {env : Environment} {spelling root : RawPath}
    (hs : fs.canonicalize (env.expandHome spelling) = .ok root) : expandRoot env fs spelling = root := by
  have habsolute : fs.canonicalize (expandPath env fs spelling) = .ok root := h.canonicalize_absolute hs
  rw [expandRoot, habsolute]

theorem expandPaths_withDevicesRoot (h : fs.Sound) {env : Environment} {spelling root : RawPath}
    (hs : fs.canonicalize (env.expandHome spelling) = .ok root) (c : Configuration) :
    (c.withDevicesRoot spelling).expandPaths env fs = (c.expandPaths env fs).withDevicesRoot root := by
  unfold Configuration.expandPaths Configuration.withDevicesRoot
  rw [h.expandRoot_eq hs]

theorem canonical (h : fs.Sound) : fs.directories.Canonical :=
  h.named.canonical fun name hn => ⟨(h.names name hn).ne_dot, (h.names name hn).ascends⟩

end FileSystem.Sound

/-- Two spellings of the device-tree root that name the same directory give the same definite configuration and the same
passes, and the witnesses inside are those that resolve to the directory or to something below it. -/
theorem root_spelling_immaterial {fs : FileSystem} (sound : fs.Sound) (env : Environment) (c : Configuration)
    {spelling spelling' root : RawPath} (names : fs.canonicalize (env.expandHome spelling) = .ok root)
    (names' : fs.canonicalize (env.expandHome spelling') = .ok root) :
    let settings := ((c.withDevicesRoot spelling).expandPaths env fs).discovery
    let settings' := ((c.withDevicesRoot spelling').expandPaths env fs).discovery
    (∀ directories tree, Enumeration.ofWalk settings directories tree = Enumeration.ofWalk settings' directories tree) ∧
    (c.withDevicesRoot spelling).expandPaths env fs = (c.withDevicesRoot spelling').expandPaths env fs ∧
    ∀ witness p, fs.canonicalize witness = .ok p →
      (Witness.nodeOf p settings.devicesRoot ≠ .error (.outsideDeviceTree p settings.devicesRoot) ↔
        p = root ∨ p.LiesBelow root) := by
  intro settings settings'
  have hconfiguration : (c.withDevicesRoot spelling).expandPaths env fs =
      (c.withDevicesRoot spelling').expandPaths env fs := by
    rw [sound.expandPaths_withDevicesRoot names, sound.expandPaths_withDevicesRoot names']
  have hsettings : settings = settings' := congrArg Configuration.discovery hconfiguration
  have hroot : settings.devicesRoot = root := sound.expandRoot_eq names
  refine ⟨fun directories tree => by rw [hsettings], hconfiguration, fun witness p hp => ?_⟩
  have hcanonical : p.IsCanonical := sound.canonical witness p hp
  have hbase : root.IsCanonical := sound.canonical (env.expandHome spelling) root names
  rw [hroot, ne_eq, Witness.nodeOf_outside_iff, ← stripBase?_isSome_iff hcanonical hbase, ← ne_eq,
    Option.ne_none_iff_isSome]

/-- A device tree behind a link, a working directory with a link to that, and two instances: one whose witness leads
into the device tree, and one whose witness leads elsewhere. -/
def linkedFiles : FileSystem :=
  let instanceOf (target : String) : Entry :=
    .directory [(RawPath.ofString "devstat", .link (RawPath.ofString target))]
  let group : Entry := .directory
    [(RawPath.ofString "0", instanceOf "/tree/device@2:x"), (RawPath.ofString "1", instanceOf "/real")]
  let devices : Entry := .directory [(RawPath.ofString "device@2:x", .file [])]
  { root := .directory
      [(RawPath.ofString "real", .directory [(RawPath.ofString "devices", devices)]),
        (RawPath.ofString "tree", .link (RawPath.ofString "real/../real/devices")),
        (RawPath.ofString "dev", .directory [(RawPath.ofString "usb", .directory [(RawPath.ofString "a12.1", group)])]),
        (RawPath.ofString "home", .directory
          [(RawPath.ofString "user", .directory [(RawPath.ofString "dev", .link (RawPath.ofString "/tree/."))])])]
    workDir := [RawPath.ofString "home", RawPath.ofString "user"] }

theorem linkedFiles_sound : linkedFiles.Sound where
  named := by decide +kernel
  work := ⟨_, rfl⟩
  names := by decide +kernel

/-- One spelling goes through the home directory and two links, the other goes up from the working directory and ends in
a slash; only one of the two witnesses is inside the directory that both name. -/
theorem linked_root_spelling_immaterial :
    let env : Environment := { home := RawPath.ofString "/home/user" }
    let spelling := RawPath.ofString "~/dev//"
    let spelling' := RawPath.ofString "../..//real/./devices/"
    let root := RawPath.ofString "/real/devices"
    let settings := (({} : Configuration).withDevicesRoot spelling |>.expandPaths env linkedFiles).discovery
    let settings' := (({} : Configuration).withDevicesRoot spelling' |>.expandPaths env linkedFiles).discovery
    settings.devicesRoot = root ∧
    Enumeration.ofWalk settings linkedFiles.directories sampleTree =
      Enumeration.ofWalk settings' linkedFiles.directories sampleTree ∧
    RawPath.LiesBelow (RawPath.ofString "/real/devices/device@2:x") root ∧
    ¬ (RawPath.ofString "/real" = root ∨ RawPath.LiesBelow (RawPath.ofString "/real") root) := by
  intro env spelling spelling' root settings settings'
  have names : linkedFiles.canonicalize (env.expandHome spelling) = .ok root := ok_of_toOption (by decide +kernel)
  have names' : linkedFiles.canonicalize (env.expandHome spelling') = .ok root := ok_of_toOption (by decide +kernel)
  have hinside : linkedFiles.canonicalize (RawPath.ofString "/dev/usb/a12.1/0/devstat") =
      .ok (RawPath.ofString "/real/devices/device@2:x") := ok_of_toOption (by decide +kernel)
  have houtside : linkedFiles.canonicalize (RawPath.ofString "/dev/usb/a12.1/1/devstat") =
      .ok (RawPath.ofString "/real") := ok_of_toOption (by decide +kernel)
  obtain ⟨hpasses, -, hwitness⟩ := root_spelling_immaterial linkedFiles_sound env {} names names'
  have hroot : settings.devicesRoot = root := by decide +kernel
  refine ⟨hroot, hpasses linkedFiles.directories sampleTree, ?_, ?_⟩
  · refine ((hwitness _ _ hinside).1 ?_).resolve_left (by decide +kernel)
    rw [ne_eq, Witness.nodeOf_outside_iff]
    decide +kernel
  · rw [← hwitness _ _ houtside, not_not, Witness.nodeOf_outside_iff]
    decide +kernel

end UsbInventory
