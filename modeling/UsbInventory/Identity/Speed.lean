/-
The speeds of USB devices.
-/

namespace UsbInventory

/-- The speed of a device; a device that does not tell counts as full speed. -/
inductive DeviceSpeed where
  | low | full | high | super
  deriving DecidableEq, Repr, Inhabited

namespace DeviceSpeed

def all : List DeviceSpeed := [low, full, high, super]

def name : DeviceSpeed → String
  | low => "low"
  | full => "full"
  | high => "high"
  | super => "super"

def ofName? (s : String) : Option DeviceSpeed := all.find? (·.name == s)

end DeviceSpeed

end UsbInventory
