/-
How identities are printed: one line for each, either for people or as a JSON object.
-/
import UsbInventory.Identity.Exchange
import UsbInventory.Settings.Basic

namespace UsbInventory

namespace DeviceIdentity

/-- The identity on a line for people. -/
def textLine (d : DeviceIdentity) : String :=
  let bus := Text.decimalPadded 3 d.bus.toNat
  let address := Text.decimalPadded 3 d.address.toNat
  s!"Bus {bus} Device {address} Session {d.session.display} Speed {d.speed.name}" ++
    s!" Configs {d.numConfigs.toNat} Node {d.nodePath.text}"

/-- The identity as a line in a format. -/
def line (d : DeviceIdentity) : OutputFormat → String
  | .text => d.textLine
  | .json => d.toJson.render

end DeviceIdentity

/-- The text that lists identities: every line is ended. -/
def OutputFormat.listing (format : OutputFormat) (devices : List DeviceIdentity) : String :=
  String.join (devices.map fun d => d.line format ++ "\n")

end UsbInventory
