/-
The JSON form of a configuration. Every field may be left out and has its default then.
-/
import UsbInventory.Json.Reader
import UsbInventory.Json.Typed
import UsbInventory.Settings.Basic

namespace UsbInventory

namespace BackendKind

def toJson (k : BackendKind) : Json := Json.ofString k.name

def ofJson? (v : Json) : Option BackendKind := v.choiceName?.bind ofName?

end BackendKind

namespace OutputFormat

def toJson (f : OutputFormat) : Json := Json.ofString f.name

def ofJson? (v : Json) : Option OutputFormat := v.choiceName?.bind ofName?

end OutputFormat

namespace NumConfigsPolicy

def toJson (p : NumConfigsPolicy) : Json := Json.ofString p.name

def ofJson? (v : Json) : Option NumConfigsPolicy := v.choiceName?.bind ofName?

end NumConfigsPolicy

namespace RawPath

/-- A path as a JSON string; only a path that is UTF-8 has one. -/
def toJson? (p : RawPath) : Option Json := (Text.Utf8.decode? p).map fun cs => .string (some cs)

def ofJson? (v : Json) : Option RawPath := v.toChars?.map Text.Utf8.encode

end RawPath

namespace GeneralSettings

def toJson (g : GeneralSettings) : Json :=
  Json.ofMembers
    [("log_level", Json.ofString g.logLevel), ("backend", g.backend.toJson),
      ("output", g.output.toJson)]

def ofJson? (v : Json) : Option GeneralSettings := do
  match ← v.fields? names with
  | [logLevel, backend, output] =>
    return {
      logLevel := ← Json.orElse "info" Json.toText? logLevel
      backend := ← Json.orElse default BackendKind.ofJson? backend
      output := ← Json.orElse default OutputFormat.ofJson? output }
  | _ => none

end GeneralSettings

namespace DiscoverySettings

def toJson? (d : DiscoverySettings) : Option Json := do
  let devUsbRoot ← RawPath.toJson? d.devUsbRoot
  let devicesRoot ← RawPath.toJson? d.devicesRoot
  let snapshotRoot ← match d.snapshotRoot with
    | none => some .null
    | some root => RawPath.toJson? root
  return Json.ofMembers
    [("dev_usb_root", devUsbRoot), ("devices_root", devicesRoot),
      ("witness_file", Json.ofString d.witnessFile),
      ("group_pattern", Json.ofString d.groupPattern),
      ("path_capacity", Json.ofNat d.pathCapacity),
      ("num_configs_policy", d.numConfigsPolicy.toJson),
      ("filters", .array (d.filters.map Json.ofString)), ("snapshot_root", snapshotRoot)]

def ofJson? (v : Json) : Option DiscoverySettings := do
  match ← v.fields? names with
  | [devUsbRoot, devicesRoot, witnessFile, groupPattern, pathCapacity, policy, filters, snapshot] =>
    let standard : DiscoverySettings := {}
    return {
      devUsbRoot := ← Json.orElse standard.devUsbRoot RawPath.ofJson? devUsbRoot
      devicesRoot := ← Json.orElse standard.devicesRoot RawPath.ofJson? devicesRoot
      witnessFile := ← Json.orElse standard.witnessFile Json.toText? witnessFile
      groupPattern := ← Json.orElse standard.groupPattern Json.toText? groupPattern
      pathCapacity := ← Json.orElse standard.pathCapacity (Json.toNat? maxCapacity) pathCapacity
      numConfigsPolicy := ← Json.orElse default NumConfigsPolicy.ofJson? policy
      filters := ← Json.orElse [] (Json.toList? Json.toText?) filters
      snapshotRoot := ← Json.orElse none (Json.nullable RawPath.ofJson?) snapshot }
  | _ => none

end DiscoverySettings

namespace Configuration

/-- The JSON form; a configuration with a path that is not UTF-8 has none. -/
def toJson? (c : Configuration) : Option Json := do
  return Json.ofMembers
    [("general", c.general.toJson), ("discovery", ← c.discovery.toJson?)]

def ofJson? (v : Json) : Option Configuration := do
  match ← v.fields? names with
  | [general, discovery] =>
    return {
      general := ← Json.orElse {} GeneralSettings.ofJson? general
      discovery := ← Json.orElse {} DiscoverySettings.ofJson? discovery }
  | _ => none

end Configuration

end UsbInventory
