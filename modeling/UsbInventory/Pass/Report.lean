/-
What a walk of the device namespace saw. The report keeps, for every entry of the root in listing order,
what became of it, and for every open group the same for its entries; an entry that could not be read is
kept as its cause. The devices found, the counters and the log of a pass are read off the report.
-/
import UsbInventory.Identity.Summary
import UsbInventory.Pass.Resolution
import UsbInventory.Pass.Witness

namespace UsbInventory

/-! ## Instances -/

/-- What became of an entry of a group. -/
inductive InstanceOutcome where
  | hidden
  /-- The instance leads to no node; its witness may have led somewhere. -/
  | skipped (resolved : Option RawPath) (reason : CandidateError)
  /-- The instance leads to a node. -/
  | candidate (resolved : RawPath) (cut : NodeCut) (resolution : Resolution)

/-- An entry of a group. -/
structure InstanceReport where
  name : RawPath
  outcome : InstanceOutcome

namespace InstanceReport

/-- The identity that an instance gave. -/
def device? (r : InstanceReport) : Option DeviceIdentity :=
  match r.outcome with
  | .candidate _ _ resolution => resolution.result.toOption
  | _ => none

/-- Counts an instance. -/
def tally (s : PassSummary) (r : InstanceReport) : PassSummary :=
  match r.outcome with
  | .hidden => s
  | .skipped _ _ =>
    { s with instances := s.instances + 1, instancesSkipped := s.instancesSkipped + 1 }
  | .candidate _ _ resolution =>
    match resolution.result with
    | .ok _ => { s with instances := s.instances + 1, devices := s.devices + 1 }
    | .error _ => { s with instances := s.instances + 1, discarded := s.discarded + 1 }

end InstanceReport

/-! ## Groups -/

/-- What became of an entry of the root. -/
inductive GroupOutcome where
  /-- The name is not a group name. -/
  | unmatched
  /-- No filter admits the ids of the name. -/
  | filtered (name : String)
  /-- The path of the group does not fit. -/
  | unfit (name : String) (reason : PathError)
  | unopenable (name : String) (path : RawPath) (reason : FileError)
  | walked (name : String) (path : RawPath) (entries : List (Except FileError InstanceReport))

/-- An entry of the root. -/
structure GroupReport where
  name : RawPath
  outcome : GroupOutcome

namespace GroupReport

/-- The entries seen in a group, as far as they could be read. -/
def instances (r : GroupReport) : List InstanceReport :=
  match r.outcome with
  | .walked _ _ entries => Directories.readable entries
  | _ => []

/-- The identities that a group gave, in order. -/
def devices (r : GroupReport) : List DeviceIdentity := r.instances.filterMap (·.device?)

/-- Counts a group and its instances. -/
def tally (s : PassSummary) (r : GroupReport) : PassSummary :=
  match r.outcome with
  | .unmatched | .filtered _ => s
  | .unfit _ _ | .unopenable _ _ _ =>
    { s with groups := s.groups + 1, groupsSkipped := s.groupsSkipped + 1 }
  | .walked _ _ _ => r.instances.foldl InstanceReport.tally { s with groups := s.groups + 1 }

end GroupReport

/-! ## Passes -/

/-- What a walk saw. -/
structure WalkReport where
  root : RawPath
  entries : List (Except FileError GroupReport)

namespace WalkReport

/-- The entries of the root, as far as they could be read. -/
def groups (r : WalkReport) : List GroupReport := Directories.readable r.entries

/-- The identities found, in the order in which they are registered. -/
def devices (r : WalkReport) : List DeviceIdentity := r.groups.flatMap (·.devices)

/-- The counters of the pass. -/
def summary (r : WalkReport) : PassSummary := r.groups.foldl GroupReport.tally {}

end WalkReport

end UsbInventory
