/-
The identity of a discovered USB device. The session identifier is not stored: it is a function of
bus and address. The number of configurations is never zero.
-/
import UsbInventory.Identity.Session
import UsbInventory.Identity.Speed
import UsbInventory.Path.Node

namespace UsbInventory

/-- The identity of one device. -/
structure DeviceIdentity where
  bus : UInt8
  address : UInt8
  numConfigs : UInt8
  speed : DeviceSpeed
  nodePath : NodePath
  configured : 1 ≤ numConfigs
  deriving DecidableEq

namespace DeviceIdentity

/-- Builds an identity; a device always has its default configuration, so zero is raised to one. -/
def ofParts (bus address numConfigs : UInt8) (speed : DeviceSpeed) (nodePath : NodePath) :
    DeviceIdentity :=
  if h : 1 ≤ numConfigs then ⟨bus, address, numConfigs, speed, nodePath, h⟩
  else ⟨bus, address, 1, speed, nodePath, by decide⟩

def session (d : DeviceIdentity) : SessionId := SessionId.ofParts d.bus d.address

end DeviceIdentity

end UsbInventory
