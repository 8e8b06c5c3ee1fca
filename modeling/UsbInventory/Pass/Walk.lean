/-
The walk of the device namespace. The root holds groups named by vendor and product ids, each group
holds instances, and each instance a witness that leads into the device tree. Only an unreadable root
and a pattern that cannot be read end a pass; anything else is reported at its place and the walk goes
on.
-/
import UsbInventory.Pattern.Size
import UsbInventory.Pass.Failure
import UsbInventory.Pass.Report

namespace UsbInventory

/-- What a walk needs: the settings, the group pattern and the filters read from them, and the world
that it walks through. -/
structure Walk where
  settings : DiscoverySettings
  pattern : Pattern
  filters : List DeviceFilter
  directories : Directories
  tree : DeviceTree

namespace Walk

/-! ## Filters -/

/-- The filters of the settings that can be read. -/
def usableFilters (texts : List String) : List DeviceFilter :=
  texts.filterMap fun text => (DeviceFilter.parse text).toOption

/-- The errors of the filters that cannot be read. -/
def badFilters (texts : List String) : List FilterError :=
  texts.filterMap fun text =>
    match DeviceFilter.parse text with
    | .ok _ => none
    | .error e => some e

/-- Whether the filters admit a group. -/
def admits (filters : List DeviceFilter) (group : List Char) : Bool :=
  filters.isEmpty ||
    match groupIds? group with
    | some (vendor, product) => DeviceFilter.allowed filters vendor product
    | none => false

/-! ## Instances -/

/-- The witness of an instance, followed to its node path. -/
def candidate (w : Walk) (group : BoundedPath) (name : RawPath) :
    Except (Option RawPath × CandidateError) (RawPath × NodeCut) :=
  match Witness.pathOf w.settings group name with
  | .error e => .error (none, .compose e)
  | .ok witness =>
    match w.directories.canonicalize witness.path with
    | .error e => .error (none, .resolve witness.path e)
    | .ok resolved =>
      match Witness.nodeOf resolved w.settings.devicesRoot with
      | .error e => .error (some resolved, e)
      | .ok cut => .ok (resolved, cut)

/-- Visits one entry of a group. -/
def visitInstance (w : Walk) (group : BoundedPath) (name : RawPath) : InstanceReport :=
  if RawPath.isHidden name then ⟨name, .hidden⟩
  else
    match w.candidate group name with
    | .error (resolved, e) => ⟨name, .skipped resolved e⟩
    | .ok (resolved, cut) =>
      ⟨name, .candidate resolved cut
        (Resolution.resolve w.tree w.settings.numConfigsPolicy cut.node)⟩

/-! ## Groups -/

/-- The text of a name that matches the group pattern. -/
def groupName? (w : Walk) (name : RawPath) : Option String :=
  (RawPath.text? name).filter fun text => w.pattern.isMatch text.toList

/-- Visits one entry of the root. -/
def visitGroup (w : Walk) (name : RawPath) : GroupReport :=
  match w.groupName? name with
  | none => ⟨name, .unmatched⟩
  | some text =>
    if !admits w.filters text.toList then ⟨name, .filtered text⟩
    else
      match Witness.groupPath w.settings name with
      | .error e => ⟨name, .unfit text e⟩
      | .ok group =>
        match w.directories.entries group.path with
        | .error e => ⟨name, .unopenable text group.path e⟩
        | .ok entries => ⟨name, .walked text group.path (entries.map (Except.map (w.visitInstance group)))⟩

/-- Visits every entry of the root. -/
def run (w : Walk) : Except DiscoveryError WalkReport :=
  match w.directories.entries w.settings.devUsbRoot with
  | .error e => .error (.rootUnreadable w.settings.devUsbRoot e)
  | .ok entries => .ok ⟨w.settings.devUsbRoot, entries.map (Except.map w.visitGroup)⟩

/-! ## Passes -/

/-- The walk that settings ask for. The pattern is read before the filters. -/
def ofSettings (settings : DiscoverySettings) (directories : Directories) (tree : DeviceTree) :
    Except DiscoveryError Walk :=
  match Pattern.parse settings.groupPattern with
  | .error e => .error (.badPattern settings.groupPattern e)
  | .ok pattern => .ok ⟨settings, pattern, usableFilters settings.filters, directories, tree⟩

end Walk

/-- What a pass over the device namespace sees. -/
def survey (settings : DiscoverySettings) (directories : Directories) (tree : DeviceTree) :
    Except DiscoveryError WalkReport :=
  match Walk.ofSettings settings directories tree with
  | .error e => .error e
  | .ok w => w.run

end UsbInventory
