/-
The JSON forms of identities and what they are made of.
-/
import UsbInventory.Identity.Device
import UsbInventory.Identity.Summary
import UsbInventory.Json.Reader
import UsbInventory.Json.Typed

namespace UsbInventory

namespace SessionId

def toJson (id : SessionId) : Json := Json.ofNat id.value.toNat

def ofJson? (v : Json) : Option SessionId :=
  (v.toNat? 18446744073709551615).map fun n => ⟨UInt64.ofNat n⟩

end SessionId

namespace DeviceSpeed

def toJson (s : DeviceSpeed) : Json := Json.ofString s.name

def ofJson? (v : Json) : Option DeviceSpeed := v.choiceName?.bind ofName?

end DeviceSpeed

namespace NodePath

def toJson (p : NodePath) : Json := .string (some p.chars)

def ofJson? (v : Json) : Option NodePath := v.toChars?.bind ofChars?

end NodePath

namespace PassSummary

def toJson (s : PassSummary) : Json :=
  Json.ofMembers (s.counters.map fun (name, n) => (name, Json.ofNat n.toNat))

/-- The names of the counters. -/
def names : List String := (counters {}).map (·.1)

/-- A counter is a number of 32 bits. -/
def counterOfJson? (v : Json) : Option UInt32 := (v.toNat? 4294967295).map UInt32.ofNat

def ofJson? (v : Json) : Option PassSummary := do
  match ← v.fields? names with
  | [groups, groupsSkipped, instances, instancesSkipped, discarded, devices] =>
    let read := Json.required counterOfJson?
    return {
      groups := ← read groups
      groupsSkipped := ← read groupsSkipped
      instances := ← read instances
      instancesSkipped := ← read instancesSkipped
      discarded := ← read discarded
      devices := ← read devices }
  | _ => none

end PassSummary

namespace DeviceIdentity

def toJson (d : DeviceIdentity) : Json :=
  Json.ofMembers
    [("session_id", d.session.toJson), ("bus_number", Json.ofNat d.bus.toNat),
      ("device_address", Json.ofNat d.address.toNat),
      ("num_configs", Json.ofNat d.numConfigs.toNat), ("speed", d.speed.toJson),
      ("node_path", d.nodePath.toJson)]

end DeviceIdentity

end UsbInventory
