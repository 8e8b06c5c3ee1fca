/-
Backends: where devices come from. One walks the device namespace and reads properties from a snapshot,
the other looks at the bus. Both tell the registry about a pass in the same way.
-/
import UsbInventory.Bus.Basic
import UsbInventory.DeviceTree.Snapshot
import UsbInventory.Pass.Discovery
import UsbInventory.Pass.Log

namespace UsbInventory

/-- What backends look at. -/
structure World where
  files : FileSystem
  bus : Bus := {}
  deriving Inhabited

/-- The view of a file system that a walk has. Every entry of a directory can be read. -/
def FileSystem.directories (fs : FileSystem) : Directories :=
  ⟨fun path => (fs.readDir path).map (List.map Except.ok), fs.canonicalize⟩

/-- A backend that is ready for passes. -/
inductive Backend where
  /-- The walk, with properties read from the snapshot in a directory. -/
  | walk (settings : DiscoverySettings) (snapshot : RawPath)
  /-- The bus, with the filters in force. -/
  | bus (filters : List DeviceFilter)

/-! ## Creation -/

/-- Why a backend could not be created. -/
inductive BackendFailure where
  | busSetup (status : BusStatus)
  | filter (cause : FilterError)
  /-- The live device tree is not available here. -/
  | noDeviceTree
  deriving DecidableEq

namespace BackendFailure

/-- The messages of the failure, outermost first. -/
def chain : BackendFailure → List String
  | busSetup status => ["Failed to create libusb context", BusStatus.text status]
  | filter cause => [cause.message]
  | noDeviceTree =>
    ["The devinfo backend needs libdevinfo (illumos/Solaris); set snapshot_root to use a property " ++
      "snapshot"]

end BackendFailure

namespace Backend

/-- Creates the backend that a configuration asks for. A bus that cannot be used comes before a bad
filter. -/
def create (c : Configuration) (bus : Bus) : Except BackendFailure Backend :=
  match c.backendKind with
  | .libusb =>
    if bus.setup ≠ 0 then .error (.busSetup bus.setup)
    else
      match DeviceFilter.parseAll c.discovery.filters with
      | .ok filters => .ok (.bus filters)
      | .error e => .error (.filter e)
  | _ =>
    match c.discovery.snapshotRoot with
    | some root => .ok (.walk c.discovery root)
    | none => .error .noDeviceTree

def name : Backend → String
  | walk _ _ => "devinfo"
  | bus _ => "libusb"

/-- What the log says about a new backend. -/
def creationEvents (b : Backend) : List Log.Event :=
  [{ level := .info, target := "enumerator::backend", message := s!"Using {b.name} backend" }]

end Backend

/-! ## Passes -/

/-- One pass: what it told the registry, its outcome, and what it said in the log. -/
structure Enumeration where
  calls : List RegistryCall
  result : Except DiscoveryError PassSummary
  events : List Log.Event

namespace Enumeration

/-- A walk as a pass. -/
def ofWalk (settings : DiscoverySettings) (directories : Directories) (tree : DeviceTree) :
    Enumeration :=
  let (calls, result) := discover RegistryCall.record settings directories tree []
  ⟨calls, result, passEvents settings (survey settings directories tree)⟩

/-- A look at the bus as a pass. -/
def ofBus (filters : List DeviceFilter) (bus : Bus) : Enumeration :=
  let (calls, result) := bus.enumerate filters RegistryCall.record []
  ⟨calls, result, bus.events filters⟩

end Enumeration

namespace Backend

/-- Runs one pass. -/
def enumerate (b : Backend) (world : World) : Enumeration :=
  match b with
  | walk settings snapshot =>
    let pass :=
      Enumeration.ofWalk settings world.files.directories (Snapshot.tree world.files snapshot)
    let start : Log.Event :=
      { level := .debug, target := "enumerator::backend::devinfo",
        message := s!"enumerating {settings.devUsbRoot.display}" }
    { pass with events := start :: pass.events }
  | bus filters => Enumeration.ofBus filters world.bus

end Backend

end UsbInventory
