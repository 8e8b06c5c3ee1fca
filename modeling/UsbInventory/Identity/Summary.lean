/-
The counters of a discovery pass.
-/

namespace UsbInventory

/-- What a pass counted. -/
structure PassSummary where
  /-- Groups that match the pattern and are admitted by the filters. -/
  groups : UInt32 := 0
  /-- Such groups that could not be opened. -/
  groupsSkipped : UInt32 := 0
  /-- Instances seen in open groups. -/
  instances : UInt32 := 0
  /-- Instances that lead to no node path. -/
  instancesSkipped : UInt32 := 0
  /-- Nodes that make no identity. -/
  discarded : UInt32 := 0
  /-- Identities handed to the registry. -/
  devices : UInt32 := 0
  deriving DecidableEq, Repr, Inhabited

namespace PassSummary

/-- The node paths that were looked at. -/
def candidates (s : PassSummary) : UInt32 := s.devices + s.discarded

/-- The counters by name, in the order in which they are shown. -/
def counters (s : PassSummary) : List (String × UInt32) :=
  [("groups", s.groups), ("groups_skipped", s.groupsSkipped), ("instances", s.instances),
    ("instances_skipped", s.instancesSkipped), ("discarded", s.discarded), ("devices", s.devices)]

/-- The counters as one line of log text. -/
def debugText (s : PassSummary) : String :=
  let counters := s.counters.map fun (name, count) => s!"{name}: {count}"
  "PassSummary \x7b " ++ ", ".intercalate counters ++ " \x7d"

end PassSummary

end UsbInventory
