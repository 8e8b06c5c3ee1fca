/-
From a node to a device identity. A node says its bus in one property and its number of
configurations in another; its speed is the first speed property that is present, and its address is
the number that its unit address begins with. `resolve` keeps every step it took: the node opened, the
properties read in order, and the node closed.
-/
import UsbInventory.DeviceTree.Basic
import UsbInventory.Identity.Device
import UsbInventory.Identity.Error
import UsbInventory.Number.Leading
import UsbInventory.Settings.Basic

namespace UsbInventory

namespace Property

def busNumber : String := "assigned-address"
def numConfigs : String := "usb-num-configs"

/-- The speed properties; the first one present decides. -/
def speeds : List (String × DeviceSpeed) :=
  [("low-speed", .low), ("full-speed", .full), ("high-speed", .high), ("super-speed", .super)]

end Property

/-! ## Speed -/

/-- Reads speed properties up to the first one present. -/
def readSpeed (node : DeviceNode) : List (String × DeviceSpeed) → List Reading × DeviceSpeed
  | [] => ([], .full)
  | (property, speed) :: rest =>
    let reading := Reading.take node property
    if reading.outcome.isPresent then ([reading], speed)
    else
      let (readings, found) := readSpeed node rest
      (reading :: readings, found)

/-- The speed of a node, with the properties read for it. -/
def classifySpeed (node : DeviceNode) : List Reading × DeviceSpeed := readSpeed node Property.speeds

/-! ## Resolution -/

/-- A step of a resolution. -/
inductive ResolutionStep where
  | opened
  | read (reading : Reading)
  /-- One configuration was assumed. -/
  | assumedOne
  | closed
  deriving DecidableEq

/-- What came of a node, and the steps that led there. -/
structure Resolution where
  path : NodePath
  steps : List ResolutionStep
  result : Except IdentityError DeviceIdentity

/-- A number as a byte, if it is one and not below `low`. -/
def fitByte (field : String) (value low : Int) : Except IdentityError UInt8 :=
  if value < low ∨ 255 < value then .error (.outOfRange field value low 255)
  else .ok (UInt8.ofNat value.toNat)

namespace Resolution

/-- The address that a node path ends with. -/
def address? (path : NodePath) : Option Int := path.unitAddress?.map Leading.value

/-- Builds the identity from what was read. -/
def identity (path : NodePath) (bus numConfigs : Int) (speed : DeviceSpeed) :
    Except IdentityError DeviceIdentity :=
  match address? path with
  | none => .error (.noUnitAddress path.text)
  | some address => do
    let bus ← fitByte "bus_number" bus 0
    let address ← fitByte "device_address" address 0
    let numConfigs ← fitByte "num_configs" numConfigs 1
    return DeviceIdentity.ofParts bus address numConfigs speed path

/-- Reads an open node. -/
def inspect (policy : NumConfigsPolicy) (node : DeviceNode) (path : NodePath) :
    List ResolutionStep × Except IdentityError DeviceIdentity :=
  let bus := Reading.take node Property.busNumber
  match bus.outcome.value? with
  | none => ([.read bus], .error (.missingProperty Property.busNumber path.text))
  | some busNumber =>
    let configs := Reading.take node Property.numConfigs
    match configs.outcome.value?, policy with
    | some numConfigs, _ =>
      let (readings, speed) := classifySpeed node
      (.read bus :: .read configs :: readings.map .read, identity path busNumber numConfigs speed)
    | none, .defaultOne =>
      let (readings, speed) := classifySpeed node
      (.read bus :: .read configs :: .assumedOne :: readings.map .read,
        identity path busNumber 1 speed)
    | none, .required =>
      ([.read bus, .read configs], .error (.missingProperty Property.numConfigs path.text))

/-- Resolves a node: opens it, reads it and closes it again, whatever came of it. -/
def resolve (tree : DeviceTree) (policy : NumConfigsPolicy) (path : NodePath) : Resolution :=
  match tree.openNode path with
  | .error cause => ⟨path, [], .error (.nodeUnavailable path.text cause)⟩
  | .ok node =>
    let (steps, result) := inspect policy node path
    ⟨path, .opened :: (steps ++ [.closed]), result⟩

/-! ## Views -/

/-- The properties read, in order. -/
def readings (r : Resolution) : List Reading :=
  r.steps.filterMap fun
    | .read reading => some reading
    | _ => none

def logTarget : String := "enumerator::discovery::resolver"

/-- What the log says about a step. -/
def stepEvents (path : NodePath) : ResolutionStep → List Log.Event
  | .read reading => reading.events
  | .assumedOne =>
    [{ level := .debug, target := logTarget,
       message := s!"no usable {Property.numConfigs} on {path.text}, assuming 1" }]
  | .opened | .closed => []

/-- What the log says about the identity. -/
def resultEvents : Except IdentityError DeviceIdentity → List Log.Event
  | .ok d =>
    [{ level := .debug, target := logTarget,
       message := s!"busnum {d.bus} devaddr {d.address} session_id {d.session.display}" }]
  | .error _ => []

def events (r : Resolution) : List Log.Event :=
  { level := .info, target := logTarget, message := s!"device node \"{r.path.text}\"" } ::
    (r.steps.flatMap (stepEvents r.path) ++ resultEvents r.result)

end Resolution

end UsbInventory
