/-
What a pass says in the log.
-/
import UsbInventory.Pass.Walk

namespace UsbInventory

open Log (Event)

/-- Where the walk speaks. -/
def walkTarget : String := "enumerator::discovery::walker"

/-- Where the pass as a whole speaks. -/
def passTarget : String := "enumerator::discovery"

/-- An event of the walk. -/
def walkEvent (level : Log.Level) (message : String) : Event :=
  { level := level, target := walkTarget, message := message }

namespace CandidateError

/-- A witness that leads elsewhere is a matter of configuration; anything else is an error. -/
def level : CandidateError → Log.Level
  | outsideDeviceTree _ _ => .warn
  | _ => .error

end CandidateError

namespace IdentityError

/-- A node that cannot be opened, or has no address, is an error; unfit properties are not. -/
def level : IdentityError → Log.Level
  | nodeUnavailable _ _ | noUnitAddress _ => .error
  | _ => .warn

end IdentityError

/-! ## Reports -/

/-- What the log says about an entry of a directory, if `events` says it for one that could be read. -/
def entryEvents {α : Type} (directory : RawPath) (events : α → List Event) : Except FileError α → List Event
  | .ok entry => events entry
  | .error cause =>
    [walkEvent .warn s!"Failed to read entry of {directory.display}: {cause.message}, skipping"]

/-- What the log says about the path that a witness leads to. -/
def resolvedEvents (resolved : RawPath) : List Event :=
  [walkEvent .debug s!"device path \"{resolved.display}\""]

/-- What the log says about a node path. -/
def cutEvents (cut : NodeCut) : List Event :=
  if cut.atColon then []
  else [walkEvent .warn s!"no colon in device node path {cut.node.text}"]

/-- What the log says about an instance. -/
def InstanceReport.events (group : RawPath) (r : InstanceReport) : List Event :=
  let found :=
    walkEvent .info s!"found ugen device {group.display}/{RawPath.display r.name}"
  match r.outcome with
  | .hidden => []
  | .skipped resolved reason =>
    found :: (resolved.elim [] resolvedEvents ++
      [walkEvent reason.level s!"{reason.message}, skipping"])
  | .candidate resolved cut resolution =>
    found :: (resolvedEvents resolved ++ cutEvents cut ++ resolution.events ++
      match resolution.result with
      | .ok _ => []
      | .error e =>
        [{ level := e.level, target := passTarget, message := s!"{e.message}, discarding" }])

/-- What the log says about a group. -/
def GroupReport.events (r : GroupReport) : List Event :=
  let found := fun (name : String) => walkEvent .debug s!"found {name}"
  match r.outcome with
  | .unmatched =>
    if RawPath.isHidden r.name then [] else [walkEvent .trace s!"skipping {RawPath.display r.name}"]
  | .filtered name => [found name, walkEvent .debug s!"Group {name} ignored by filter"]
  | .unfit name reason =>
    [found name, walkEvent .error s!"Group path for {name}: {reason.message}, skipping"]
  | .unopenable name path reason =>
    [found name,
      walkEvent .error s!"opendir(\"{path.display}\") failed: {reason.message}, skipping"]
  | .walked name path entries =>
    [found name, walkEvent .debug s!"start browsing {path.display}"] ++
      entries.flatMap (entryEvents path (·.events path)) ++ [walkEvent .debug s!"stop browsing {path.display}"]

/-- What the log says about a whole walk. -/
def WalkReport.events (r : WalkReport) : List Event :=
  let s := r.summary
  walkEvent .debug s!"start browsing {r.root.display}" ::
    (r.entries.flatMap (entryEvents r.root (·.events)) ++
      [walkEvent .debug s!"stop browsing {r.root.display}",
        { level := .info, target := passTarget, message := "discovery pass complete",
          fields := [("groups", toString s.groups), ("instances", toString s.instances),
            ("devices", toString s.devices), ("discarded", toString s.discarded)] }])

/-! ## Passes -/

/-- What the log says about filters that cannot be read. -/
def filterEvents (settings : DiscoverySettings) : List Event :=
  (Walk.badFilters settings.filters).map fun e =>
    walkEvent .warn s!"Ignoring device filter: {e.message}"

/-- What the log says about a pass. A bad pattern is found before the filters are read. -/
def passEvents (settings : DiscoverySettings) : Except DiscoveryError WalkReport → List Event
  | .ok r => filterEvents settings ++ r.events
  | .error (.rootUnreadable path cause) =>
    filterEvents settings ++
      [walkEvent .error s!"opendir(\"{path.display}\") failed: {cause.message}"]
  | .error (.badPattern pattern _) =>
    [walkEvent .error ("Failed to compile group pattern " ++ Text.quoted pattern)]
  | .error (.backend _) => []

end UsbInventory
