/-
A device namespace that mirrors the bus. If every attached device has an instance in the group of its ids, with a
witness that leads to its node, and the node says what it should of the device, then a pass over the namespace
registers what a pass over the bus does. The order may differ: the namespace lists the devices group by group, and
the groups and the instances in any order.

The namespace is taken as a walk sees it, through listings, resolved witnesses and properties (`Mirrors`).
-/
import Mathlib.Data.List.Perm.Basic
import UsbInventory.Proofs.Pass.Naming
import UsbInventory.Proofs.Pass.Registration

namespace UsbInventory

/-! ## Lists by keys -/

/-- The path of the witness of a device. -/
def witnessPath (settings : DiscoverySettings) (instanceOf : AttachedDevice → RawPath) (d : AttachedDevice) : RawPath :=
  ((settings.devUsbRoot.join (RawPath.ofString d.groupName)).join (instanceOf d)).join
    (RawPath.ofString settings.witnessFile)

/-- A file system whose device namespace and property snapshot describe some devices, with the given names for their
instances and minor devices. -/
structure Mirrors (settings : DiscoverySettings) (snapshot : RawPath) (fs : FileSystem) (devices : List AttachedDevice)
    (instanceOf : AttachedDevice → RawPath) (minorOf : AttachedDevice → String) : Prop where
  named : fs.Named
  unfiltered : settings.filters = []
  witnessFile : BoundedPath.isComponent (RawPath.ofString settings.witnessFile) = true
  /-- The entries of the root that match the pattern are the groups of the devices. -/
  groups : ∃ pattern names, Pattern.parse settings.groupPattern = .ok pattern ∧
    fs.readDir settings.devUsbRoot = .ok names ∧ names.Nodup ∧
    ∀ name, (name ∈ names ∧ ∃ text, RawPath.text? name = some text ∧ pattern.isMatch text.toList = true) ↔
      ∃ d ∈ devices, name = RawPath.ofString d.groupName
  /-- A group holds one instance of each of its devices, besides hidden entries. -/
  instances : ∀ d ∈ devices, ∃ names,
    fs.readDir (settings.devUsbRoot.join (RawPath.ofString d.groupName)) = .ok names ∧
    (names.filter fun name => !RawPath.isHidden name).Perm
      ((devices.filter fun d' => d'.groupName = d.groupName).map instanceOf)
  capacity : ∀ d ∈ devices, (witnessPath settings instanceOf d).length < settings.pathCapacity
  minors : ∀ d ∈ devices, '/' ∉ (minorOf d).toList
  /-- The witness of a device leads to a minor device of its node, below the root of the device tree. -/
  witnesses : ∃ above, settings.devicesRoot.components = .root :: above.map .name ∧
    ∀ d ∈ devices, fs.canonicalize (witnessPath settings instanceOf d) =
      .ok (FileSystem.pathOf (above ++ [RawPath.ofString d.busName, RawPath.ofString (d.minorName (minorOf d))]))
  /-- The snapshot has the node of every device, with the properties that the device has. -/
  nodes : ∀ d ∈ devices, ∃ node, Snapshot.openNode fs snapshot d.nodePath = .ok node ∧ d.PropertiesIn node.lookup

/-- The walk over the namespace, once its pattern is read. -/
def mirrorWalk (settings : DiscoverySettings) (snapshot : RawPath) (fs : FileSystem) (pattern : Pattern) : Walk :=
  ⟨settings, pattern, [], fs.directories, Snapshot.tree fs snapshot⟩

namespace Mirrors

variable {settings : DiscoverySettings} {snapshot : RawPath} {fs : FileSystem} {devices : List AttachedDevice}
  {instanceOf : AttachedDevice → RawPath} {minorOf : AttachedDevice → String}

theorem identity?_eq (h : Mirrors settings snapshot fs devices instanceOf minorOf) (pattern : Pattern)
    {d : AttachedDevice} (hd : d ∈ devices) (configured : 1 ≤ d.numConfigs.toNat) :
    (mirrorWalk settings snapshot fs pattern).identity? d.nodePath = some d.identity := by
  obtain ⟨node, hopen, hproperties⟩ := h.nodes d hd
  have hinspect := d.inspect_eq settings.numConfigsPolicy hproperties configured
  unfold Walk.identity? Resolution.resolve
  dsimp only [mirrorWalk, Snapshot.tree]
  rw [hopen]
  dsimp only
  rw [hinspect]
  rfl

end Mirrors

end UsbInventory
