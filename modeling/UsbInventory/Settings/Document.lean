/-
The configuration as a TOML document. Sections and fields may be left out; a record may also be written
as an array of its fields, and a choice as a table with its name as only key. Writing fails for what
TOML cannot say: paths that are not UTF-8 and integers beyond 64 bits.
-/
import UsbInventory.Settings.Basic
import UsbInventory.Toml.Printer
import UsbInventory.Toml.Reader

namespace UsbInventory

/-! ## Reading -/

namespace Toml

def toText? : Toml → Option String
  | string text => some (String.ofList text)
  | _ => none

def toPath? : Toml → Option RawPath
  | string text => some (Text.Utf8.encode text)
  | _ => none

def toNat? : Toml → Option Nat
  | integer n => if 0 ≤ n then some n.toNat else none
  | _ => none

def toTexts? : Toml → Option (List String)
  | array items => items.mapM toText?
  | _ => none

/-- Whether a value holds nothing. -/
def isVoid : Toml → Bool
  | array items => items.isEmpty
  | table _ entries => entries.isEmpty
  | _ => false

/-- The name of a choice. -/
def choiceName? : Toml → Option String
  | string text => some (String.ofList text)
  | table _ [(key, v)] => if v.isVoid then some (String.ofList key) else none
  | _ => none

/-- The items of a value that can stand for a record's fields in order. -/
def fieldItems? : Toml → Option (List Toml)
  | array items => some items
  | tables items => some (items.map (table .header))
  | _ => none

/-- The values of the fields `names` of a record, `none` where a field is absent. A date says nothing
about any field. -/
def fields? (names : List String) (v : Toml) : Option (List (Option Toml)) :=
  match v with
  | table _ entries => some (names.map fun name => find? name.toList entries)
  | date => some (names.map fun _ => none)
  | v => v.fieldItems?.map fun items => (List.range names.length).map fun i => items[i]?

/-- A field that may be absent. -/
def orElse {α : Type} (default : α) (read : Toml → Option α) : Option Toml → Option α
  | none => some default
  | some v => read v

end Toml

namespace GeneralSettings

def ofToml? (v : Toml) : Option GeneralSettings := do
  match ← v.fields? names with
  | [logLevel, backend, output] =>
    return {
      logLevel := ← Toml.orElse "info" Toml.toText? logLevel
      backend := ← Toml.orElse default (fun v => v.choiceName?.bind BackendKind.ofName?) backend
      output := ← Toml.orElse default (fun v => v.choiceName?.bind OutputFormat.ofName?) output }
  | _ => none

end GeneralSettings

namespace DiscoverySettings

def ofToml? (v : Toml) : Option DiscoverySettings := do
  match ← v.fields? names with
  | [devUsbRoot, devicesRoot, witnessFile, groupPattern, pathCapacity, policy, filters, snapshot] =>
    let standard : DiscoverySettings := {}
    return {
      devUsbRoot := ← Toml.orElse standard.devUsbRoot Toml.toPath? devUsbRoot
      devicesRoot := ← Toml.orElse standard.devicesRoot Toml.toPath? devicesRoot
      witnessFile := ← Toml.orElse standard.witnessFile Toml.toText? witnessFile
      groupPattern := ← Toml.orElse standard.groupPattern Toml.toText? groupPattern
      pathCapacity := ← Toml.orElse standard.pathCapacity Toml.toNat? pathCapacity
      numConfigsPolicy :=
        ← Toml.orElse default (fun v => v.choiceName?.bind NumConfigsPolicy.ofName?) policy
      filters := ← Toml.orElse [] Toml.toTexts? filters
      snapshotRoot := ← Toml.orElse none (fun v => v.toPath?.map some) snapshot }
  | _ => none

end DiscoverySettings

namespace Configuration

/-- The configuration that a document writes. -/
def ofDocument? (text : List Char) : Option Configuration := do
  let v ← Toml.parse text
  match ← v.fields? names with
  | [general, discovery] =>
    return {
      general := ← Toml.orElse {} GeneralSettings.ofToml? general
      discovery := ← Toml.orElse {} DiscoverySettings.ofToml? discovery }
  | _ => none

end Configuration

/-! ## Writing -/

/-- Why a configuration cannot be written. -/
inductive Unwritable where
  | integer
  | path
  deriving DecidableEq, Repr

def Unwritable.message : Unwritable → String
  | integer => "out-of-range value for u64 type"
  | path => "path contains invalid UTF-8 characters"

namespace Configuration

/-- A path as it is written. -/
def writtenPath (p : RawPath) : Except Unwritable Toml.Written :=
  match Text.Utf8.decode? p with
  | some cs => .ok (.string cs)
  | none => .error .path

/-- An integer as it is written. -/
def writtenNat (n : Nat) : Except Unwritable Toml.Written :=
  if n ≤ Toml.maxInteger then .ok (.integer n) else .error .integer

/-- The document that writes a configuration. The first field that cannot be written decides the
error. -/
def toDocument (c : Configuration) : Except Unwritable (List Char) := do
  let written := fun (s : String) => Toml.Written.string s.toList
  let d := c.discovery
  let devUsbRoot ← writtenPath d.devUsbRoot
  let devicesRoot ← writtenPath d.devicesRoot
  let pathCapacity ← writtenNat d.pathCapacity
  let snapshotRoot : List (String × Toml.Written) ← match d.snapshotRoot with
    | none => pure []
    | some root => (writtenPath root).map fun written => [("snapshot_root", written)]
  let general :=
    Toml.section_ "general"
      [("log_level", written c.general.logLevel), ("backend", written c.general.backend.name),
        ("output", written c.general.output.name)]
  let discovery :=
    Toml.section_ "discovery"
      ([("dev_usb_root", devUsbRoot), ("devices_root", devicesRoot),
        ("witness_file", written d.witnessFile), ("group_pattern", written d.groupPattern),
        ("path_capacity", pathCapacity), ("num_configs_policy", written d.numConfigsPolicy.name),
        ("filters", .strings (d.filters.map String.toList))] ++ snapshotRoot)
  return general ++ '\n' :: discovery

end Configuration

end UsbInventory
