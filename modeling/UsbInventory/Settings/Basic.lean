/-
The configuration: what is asked for, its defaults, and the rules that a usable configuration obeys.
-/
import UsbInventory.Filter
import UsbInventory.Log.Event
import UsbInventory.Path.Basic

namespace UsbInventory

/-! ## Choices -/

/-- Which backend enumerates. -/
inductive BackendKind where
  /-- The device tree where a snapshot is configured, else the bus. -/
  | auto
  /-- The walk of the device namespace with properties from the device tree. -/
  | devinfo
  /-- The devices on the bus. -/
  | libusb
  deriving DecidableEq, Repr, Inhabited

/-- How identities are printed. -/
inductive OutputFormat where
  | text
  /-- One JSON object per line. -/
  | json
  deriving DecidableEq, Repr, Inhabited

/-- What is done with a node that does not say how many configurations it has. -/
inductive NumConfigsPolicy where
  /-- The node is discarded. -/
  | required
  /-- One configuration is assumed. -/
  | defaultOne
  deriving DecidableEq, Repr, Inhabited

namespace BackendKind

def all : List BackendKind := [auto, devinfo, libusb]

def name : BackendKind → String
  | auto => "auto"
  | devinfo => "devinfo"
  | libusb => "libusb"

def ofName? (s : String) : Option BackendKind := all.find? (·.name == s)

end BackendKind

namespace OutputFormat

def all : List OutputFormat := [text, json]

def name : OutputFormat → String
  | text => "text"
  | json => "json"

def ofName? (s : String) : Option OutputFormat := all.find? (·.name == s)

end OutputFormat

namespace NumConfigsPolicy

def all : List NumConfigsPolicy := [required, defaultOne]

def name : NumConfigsPolicy → String
  | required => "required"
  | defaultOne => "default-one"

def ofName? (s : String) : Option NumConfigsPolicy := all.find? (·.name == s)

end NumConfigsPolicy

/-! ## Settings -/

/-- Groups are named by two hexadecimal ids with a dot between them. -/
def defaultGroupPattern : String := "^[0-9a-f]+\\.[0-9a-f]+$"

structure GeneralSettings where
  logLevel : String := "info"
  backend : BackendKind := .auto
  output : OutputFormat := .text
  deriving DecidableEq, Repr, Inhabited

/-- What a walk of the device namespace needs to know. -/
structure DiscoverySettings where
  /-- The directory that holds the groups. -/
  devUsbRoot : RawPath := RawPath.ofString "/dev/usb"
  /-- The directory that every witness must lead into. -/
  devicesRoot : RawPath := RawPath.ofString "/devices"
  /-- The file that is looked for in every instance. -/
  witnessFile : String := "devstat"
  groupPattern : String := defaultGroupPattern
  /-- The capacity of composed paths in bytes, final NUL included. -/
  pathCapacity : Nat := 1024
  numConfigsPolicy : NumConfigsPolicy := .required
  /-- Filters on group names; none admit all. -/
  filters : List String := []
  /-- The directory from which properties are read. -/
  snapshotRoot : Option RawPath := none
  deriving DecidableEq, Repr, Inhabited

structure Configuration where
  general : GeneralSettings := {}
  discovery : DiscoverySettings := {}
  deriving DecidableEq, Repr, Inhabited

/-- The names of the fields of the general section, in order. -/
def GeneralSettings.names : List String := ["log_level", "backend", "output"]

/-- The names of the fields of the discovery section, in order. -/
def DiscoverySettings.names : List String :=
  ["dev_usb_root", "devices_root", "witness_file", "group_pattern", "path_capacity",
    "num_configs_policy", "filters", "snapshot_root"]

/-- The names of the sections, in order. -/
def Configuration.names : List String := ["general", "discovery"]

/-- The greatest capacity that a machine word can say. -/
def maxCapacity : Nat := 18446744073709551615

/-! ## Validation -/

/-- Why a configuration cannot be used. -/
inductive InvalidSetting where
  | logLevel (level : String)
  | witnessFile (name : String)
  | pathCapacity
  | devicesRoot (path : RawPath)
  | filter (cause : FilterError)
  deriving DecidableEq

namespace InvalidSetting

/-- The log levels that may be configured, as a message lists them. -/
def levelNames : List String := ["trace", "debug", "info", "warn", "error"]

def message : InvalidSetting → String
  | logLevel level =>
    s!"Invalid log level '{level}', must be one of: " ++ ", ".intercalate levelNames
  | witnessFile name => s!"Invalid witness_file '{name}', must be a single file name"
  | pathCapacity => "path_capacity must be greater than 0"
  | devicesRoot path => s!"devices_root '{path.display}' must be an absolute path"
  | filter cause => cause.message

end InvalidSetting

namespace Configuration

/-- Checks a configuration; the first rule that is broken decides the error. -/
def validate (c : Configuration) : Except InvalidSetting Unit :=
  let d := c.discovery
  if !InvalidSetting.levelNames.contains c.general.logLevel then
    .error (.logLevel c.general.logLevel)
  else if d.witnessFile.isEmpty || d.witnessFile.toList.contains '/' then
    .error (.witnessFile d.witnessFile)
  else if d.pathCapacity = 0 then .error .pathCapacity
  else if !d.devicesRoot.isAbsolute then .error (.devicesRoot d.devicesRoot)
  else
    match DeviceFilter.parseAll d.filters with
    | .ok _ => .ok ()
    | .error e => .error (.filter e)

/-- The backend that a configuration stands for. -/
def backendKind (c : Configuration) : BackendKind :=
  match c.general.backend with
  | .auto => if c.discovery.snapshotRoot.isSome then .devinfo else .libusb
  | kind => kind

end Configuration

end UsbInventory
