/-
Session identifiers: the bus number in the high byte and the device address in the low byte.
-/
import UsbInventory.Text.Quoted

namespace UsbInventory

/-- The identifier of a device for the life of the process. -/
structure SessionId where
  value : UInt64
  deriving DecidableEq, Repr

namespace SessionId

/-- Packs a bus number and a device address. -/
def ofParts (bus address : UInt8) : SessionId := ⟨(bus.toUInt64 <<< 8) ||| address.toUInt64⟩

def bus (id : SessionId) : UInt8 := (id.value >>> 8).toUInt8

def address (id : SessionId) : UInt8 := id.value.toUInt8

/-- The identifier in hexadecimal, four digits at least. -/
def display (id : SessionId) : String := "0x" ++ Text.hexPadded 4 id.value.toNat

end SessionId

end UsbInventory
