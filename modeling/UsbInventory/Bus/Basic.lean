/-
The devices attached to the bus, and the pass over them. A pass takes the list of devices, reads the
descriptor of each, and registers those that the filters admit. The node path of such a device names
its bus and its address.
-/
import UsbInventory.Filter
import UsbInventory.Identity.Device
import UsbInventory.Identity.Summary
import UsbInventory.Log.Event
import UsbInventory.Pass.Failure
import UsbInventory.Pass.Registry

namespace UsbInventory

/-! ## Status codes -/

/-- The status of a bus operation: zero, or the code of a failure. -/
abbrev BusStatus := Int

/-- The wording of a failed bus operation. -/
def BusStatus.text : BusStatus → String
  | -1 => "Input/Output Error"
  | -2 => "Invalid parameter"
  | -3 => "Access denied (insufficient permissions)"
  | -4 => "No such device (it may have been disconnected)"
  | -5 => "Entity not found"
  | -6 => "Resource busy"
  | -7 => "Operation timed out"
  | -8 => "Overflow"
  | -9 => "Pipe error"
  | -10 => "System call interrupted (perhaps due to signal)"
  | -11 => "Insufficient memory"
  | -12 => "Operation not supported or unimplemented on this platform"
  | _ => "Other error"

/-! ## Devices -/

/-- A device on the bus. -/
structure AttachedDevice where
  bus : UInt8
  address : UInt8
  /-- The number that stands for the speed. -/
  speedCode : Int
  vendor : UInt16
  product : UInt16
  numConfigs : UInt8
  /-- The status of reading its descriptor. -/
  descriptor : BusStatus
  deriving DecidableEq, Repr

/-- The bus: how it answers, and what is attached to it. -/
structure Bus where
  /-- The status of preparing to use the bus. -/
  setup : BusStatus := 0
  /-- The status of listing the devices. -/
  listing : BusStatus := 0
  devices : List AttachedDevice := []
  deriving DecidableEq, Repr, Inhabited

/-- The speed that a number stands for; unknown numbers count as full speed. -/
def DeviceSpeed.ofCode : Int → DeviceSpeed
  | 1 => .low
  | 2 => .full
  | 3 => .high
  | 4 | 5 => .super
  | _ => .full

namespace AttachedDevice

/-- The node path of a device. -/
def nodePath (d : AttachedDevice) : NodePath :=
  ⟨'/' :: (s!"usb@{d.bus.toNat}/device@{d.address.toNat}").toList, rfl⟩

/-- The identity of a device, as its descriptor gives it. -/
def identity (d : AttachedDevice) : DeviceIdentity :=
  DeviceIdentity.ofParts d.bus d.address d.numConfigs (DeviceSpeed.ofCode d.speedCode) d.nodePath

/-- What became of an attached device. -/
inductive Outcome where
  | unreadable (status : BusStatus)
  | filtered
  | identified (device : DeviceIdentity)

/-- Looks at a device: its descriptor first, then the filters. -/
def outcome (filters : List DeviceFilter) (d : AttachedDevice) : Outcome :=
  if d.descriptor ≠ 0 then .unreadable d.descriptor
  else if !DeviceFilter.allowed filters d.vendor d.product then .filtered
  else .identified d.identity

/-- The identity of a device that is registered. -/
def identity? (filters : List DeviceFilter) (d : AttachedDevice) : Option DeviceIdentity :=
  match d.outcome filters with
  | .identified device => some device
  | _ => none

/-- Passes one device: counts it, and registers its identity if it has one. -/
def pass {σ : Type} (filters : List DeviceFilter) (tell : σ → RegistryCall → σ) (p : Progress σ)
    (d : AttachedDevice) : Progress σ :=
  (p.count fun s => { s with instances := s.instances + 1 }).settle tell (d.identity? filters)

end AttachedDevice

/-! ## Passes -/

namespace Bus

/-- Runs one pass over the bus, for a registry that changes by `tell`: the registry afterwards, and how the
pass ended. -/
def enumerate {σ : Type} (filters : List DeviceFilter) (tell : σ → RegistryCall → σ) (bus : Bus)
    (registry : σ) : σ × Except DiscoveryError PassSummary :=
  if bus.listing ≠ 0 then (registry, .error (.backend (BusStatus.text bus.listing)))
  else
    let p := bus.devices.foldl (AttachedDevice.pass filters tell) { sink := registry }
    (tell p.sink (.endOfPass p.summary), .ok p.summary)

/-! ## Log -/

def logTarget : String := "enumerator::backend::libusb"

/-- What the log says about a device. -/
def deviceEvents (filters : List DeviceFilter) (d : AttachedDevice) : List Log.Event :=
  let bus := d.bus
  let address := d.address
  match d.outcome filters with
  | .unreadable status =>
    let cause := BusStatus.text status
    [{ level := .warn, target := logTarget,
       message := s!"Failed to read descriptor of bus={bus}, addr={address}: {cause}" }]
  | .filtered =>
    let vendor := Text.hex d.vendor.toNat
    let product := Text.hex d.product.toNat
    [{ level := .debug, target := logTarget,
       message :=
         s!"Device ignored by filter: bus={bus}, addr={address}, vid=0x{vendor}, pid=0x{product}" }]
  | .identified _ => []

/-- What the log says about a pass over the bus. -/
def events (filters : List DeviceFilter) (bus : Bus) : List Log.Event :=
  if bus.listing ≠ 0 then [] else bus.devices.flatMap (deviceEvents filters)

end Bus

end UsbInventory
