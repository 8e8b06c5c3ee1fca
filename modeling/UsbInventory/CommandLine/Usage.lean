/-
The texts about the command line: the help in full and as a summary, the version, and what is said about
wrong arguments.
-/
import UsbInventory.CommandLine.Options

namespace UsbInventory.CommandLine

def programName : String := "usb-enum"

def programVersion : String := "0.1.0"

def versionLine : String := programName ++ " " ++ programVersion

/-! ## Options -/

/-- How an option that takes a value is written. -/
def Setting.spelling : Setting → String
  | .config => "--config <PATH>"
  | .logLevel => "--log-level <LEVEL>"
  | .backend => "--backend <BACKEND>"
  | .devUsbRoot => "--dev-usb-root <DIR>"
  | .devicesRoot => "--devices-root <DIR>"
  | .snapshot => "--snapshot <DIR>"

/-- How an option without a value is written. -/
def Switch.spelling : Switch → String
  | .saveConfig => "--save-config"
  | .json => "--json"
  | .help => "--help"
  | .version => "--version"

def Kind.spelling : Kind → String
  | .setting s => s.spelling
  | .switch s => s.spelling

/-- What an option is for. -/
def Kind.purpose : Kind → String
  | .setting .config => "Path to configuration file"
  | .setting .logLevel => "Log level (trace, debug, info, warn, error)"
  | .setting .backend => "Enumeration backend"
  | .setting .devUsbRoot => "Namespace root to walk"
  | .setting .devicesRoot => "Device-tree root that witness links resolve into"
  | .setting .snapshot => "Read node properties from a snapshot directory"
  | .switch .saveConfig => "Save default configuration to default location and exit"
  | .switch .json => "Print identities as JSON lines"
  | .switch .help => "Print help"
  | .switch .version => "Print version"

/-- What a backend is. -/
def backendPurpose : BackendKind → String
  | .auto => "Device tree on illumos/Solaris or when a snapshot is configured, libusb elsewhere"
  | .devinfo => "`/dev/usb` walk with device-tree property queries"
  | .libusb => "Portable libusb enumeration"

/-- A text filled up with spaces. -/
def padded (width : Nat) (text : String) : String :=
  text ++ String.ofList (List.replicate (width - text.length) ' ')

/-- The spelling of an option with its letter in front, if it has one. -/
def Kind.column (kind : Kind) : String :=
  let letter := match shortNames.find? fun (_, k) => k == kind with
    | some (letter, _) => String.ofList ['-', letter, ',', ' ']
    | none => "    "
  "  " ++ letter ++ kind.spelling

/-- The options in the order of the help. -/
def listedOptions : List Kind := longNames.map (·.2)

/-! ## Help -/

def usageLine : String := "Usage: " ++ programName ++ " [OPTIONS]"

def about : List String :=
  ["Walks /dev/usb/<vid>.<pid>/<instance>, resolves each instance to its",
    "/devices node and prints the identity derived from the node's properties.",
    "",
    "EXAMPLES:",
    "    # List devices with the default configuration",
    "    usb-enum",
    "",
    "    # JSON output, one object per line",
    "    usb-enum --json",
    "",
    "    # Offline run against a captured tree",
    "    usb-enum --dev-usb-root ./dev/usb --devices-root ./devices --snapshot ./props",
    "",
    "CONFIGURATION:",
    "    The configuration is looked up in the following order:",
    "    1. Path specified with --config",
    "    2. ~/.config/devtree-usb/enumerator.toml",
    "    3. /etc/devtree-usb/enumerator.toml",
    "    4. Built-in defaults"]

/-- One line of the summary. -/
def summaryLine (kind : Kind) : String :=
  let names := ", ".intercalate (BackendKind.all.map (·.name))
  let more := match kind with
    | .setting .backend => s!" [possible values: {names}]"
    | .switch .help => " (see more with '--help')"
    | _ => ""
  padded 28 kind.column ++ kind.purpose ++ more

/-- The lines about one option in the full help. -/
def fullLines (kind : Kind) : List String :=
  let more := match kind with
    | .switch .help => " (see a summary with '-h')"
    | _ => ""
  let value := fun (k : BackendKind) =>
    "          - " ++ padded 9 (k.name ++ ":") ++ backendPurpose k
  let values := match kind with
    | .setting .backend => "" :: "          Possible values:" :: BackendKind.all.map value
    | _ => []
  kind.column :: ("          " ++ kind.purpose ++ more) :: values

/-- The lines of the help. -/
def helpLines (full : Bool) : List String :=
  if full then
    let options := listedOptions.map fullLines
    about ++ ["", "", usageLine, "", "Options:"] ++ [""].intercalate options
  else
    ["List USB devices from the device tree", "", usageLine, "", "Options:"] ++
      listedOptions.map summaryLine

/-! ## Wrong arguments -/

namespace UsageError

/-- What is wrong. -/
def lines : UsageError → List String
  | unexpected argument =>
    [s!"error: unexpected argument '{argument.display}' found", "", usageLine]
  | repeatedSetting s =>
    [s!"error: the argument '{s.spelling}' cannot be used multiple times", "", usageLine]
  | repeatedSwitch s =>
    [s!"error: the argument '{s.spelling}' cannot be used multiple times", "", usageLine]
  | missingValue s => [s!"error: a value is required for '{s.spelling}' but none was supplied"]
  | badValue s value =>
    let names := ", ".intercalate (BackendKind.all.map (·.name))
    [s!"error: invalid value '{value.display}' for '{s.spelling}'",
      s!"  [possible values: {names}]"]
  | notUtf8 =>
    ["error: invalid UTF-8 was detected in one or more arguments", "", usageLine]
  | unneededValue s value =>
    [s!"error: unexpected value '{value.display}' for '{s.spelling}' found; no more were expected",
      "", usageLine]

/-- All that is said about wrong arguments. -/
def report (e : UsageError) : List String := e.lines ++ ["", "For more information, try '--help'."]

end UsageError

end UsbInventory.CommandLine
