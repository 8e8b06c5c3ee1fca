/-
The command line of the program. Arguments are read from left to right, and the first one that is wrong
or that asks for a text alone decides; options that are read before it have no effect then.
-/
import UsbInventory.Path.Basic
import UsbInventory.Settings.Basic

namespace UsbInventory.CommandLine

/-- What the options ask for. -/
structure Options where
  config : Option RawPath := none
  saveConfig : Bool := false
  logLevel : Option String := none
  backend : Option BackendKind := none
  json : Bool := false
  devUsbRoot : Option RawPath := none
  devicesRoot : Option RawPath := none
  snapshot : Option RawPath := none
  deriving DecidableEq, Repr

/-- An option that takes a value. -/
inductive Setting where
  | config
  | logLevel
  | backend
  | devUsbRoot
  | devicesRoot
  | snapshot
  deriving DecidableEq, Repr

/-- An option that takes none. -/
inductive Switch where
  | saveConfig
  | json
  | help
  | version
  deriving DecidableEq, Repr

/-- Why the arguments are wrong. -/
inductive UsageError where
  | unexpected (argument : RawPath)
  | repeatedSetting (setting : Setting)
  | repeatedSwitch (switch : Switch)
  | missingValue (setting : Setting)
  | badValue (setting : Setting) (value : RawPath)
  | notUtf8
  | unneededValue (switch : Switch) (value : RawPath)
  deriving DecidableEq, Repr

/-- What a command line asks for. -/
inductive Request where
  | run (options : Options)
  /-- The text about the options, in full or as a summary. -/
  | help (full : Bool)
  | version
  | misuse (cause : UsageError)
  deriving DecidableEq, Repr

/-! ## Names -/

/-- An option of either kind. -/
inductive Kind where
  | setting (setting : Setting)
  | switch (switch : Switch)
  deriving DecidableEq, Repr

def longNames : List (String × Kind) :=
  [("config", .setting .config), ("save-config", .switch .saveConfig),
    ("log-level", .setting .logLevel), ("backend", .setting .backend), ("json", .switch .json),
    ("dev-usb-root", .setting .devUsbRoot), ("devices-root", .setting .devicesRoot),
    ("snapshot", .setting .snapshot), ("help", .switch .help), ("version", .switch .version)]

def shortNames : List (Char × Kind) :=
  [('c', .setting .config), ('l', .setting .logLevel), ('b', .setting .backend),
    ('h', .switch .help), ('V', .switch .version)]

def ofLongName? (name : RawPath) : Option Kind :=
  (longNames.find? fun (spelling, _) => RawPath.ofString spelling == name).map (·.2)

def ofShortName? (name : UInt8) : Option Kind :=
  (shortNames.find? fun (letter, _) => letter.toNat == name.toNat).map (·.2)

/-! ## Values -/

/-- A path is any value but the empty one. -/
def pathValue (setting : Setting) (value : RawPath) : Except UsageError RawPath :=
  if value.isEmpty then .error (.missingValue setting) else .ok value

/-- A text is any value in UTF-8. -/
def textValue (value : RawPath) : Except UsageError String :=
  match RawPath.text? value with
  | some text => .ok text
  | none => .error .notUtf8

def backendValue (value : RawPath) : Except UsageError BackendKind := do
  match BackendKind.ofName? (← textValue value) with
  | some kind => .ok kind
  | none => .error (.badValue .backend value)

namespace Options

/-- Whether a setting was already given. -/
def has (o : Options) : Setting → Bool
  | .config => o.config.isSome
  | .logLevel => o.logLevel.isSome
  | .backend => o.backend.isSome
  | .devUsbRoot => o.devUsbRoot.isSome
  | .devicesRoot => o.devicesRoot.isSome
  | .snapshot => o.snapshot.isSome

/-- Gives a setting its value; it can be given once. -/
def set (o : Options) (setting : Setting) (value : RawPath) : Except UsageError Options := do
  if o.has setting then throw (.repeatedSetting setting)
  match setting with
  | .config => return { o with config := some (← pathValue setting value) }
  | .logLevel => return { o with logLevel := some (← textValue value) }
  | .backend => return { o with backend := some (← backendValue value) }
  | .devUsbRoot => return { o with devUsbRoot := some (← pathValue setting value) }
  | .devicesRoot => return { o with devicesRoot := some (← pathValue setting value) }
  | .snapshot => return { o with snapshot := some (← pathValue setting value) }

end Options

/-! ## Arguments -/

def hyphen : UInt8 := 0x2D

def equals : UInt8 := 0x3D

/-- What a single argument turns out to be. -/
inductive Argument where
  /-- A setting with its value. -/
  | assigned (setting : Setting) (value : RawPath)
  /-- A setting whose value is the next argument. -/
  | awaiting (setting : Setting)
  /-- A switch, which may be written as a letter. -/
  | switched (switch : Switch) (letter : Bool)
  /-- The end of the options. -/
  | separator
  | wrong (cause : UsageError)
  deriving DecidableEq, Repr

namespace Argument

/-- An argument that starts with two hyphens. -/
def ofLong (argument body : RawPath) : Argument :=
  let name := body.takeWhile (· != equals)
  let value := match body.dropWhile (· != equals) with
    | [] => none
    | _ :: value => some value
  match ofLongName? name, value with
  | some (.setting s), some value => assigned s value
  | some (.setting s), none => awaiting s
  | some (.switch s), some value => wrong (.unneededValue s value)
  | some (.switch s), none => switched s false
  | none, _ => wrong (.unexpected argument)

/-- An argument that starts with one hyphen: a letter, and the value of that option if it takes one. The
switches among the letters ask for a text alone, so that nothing after them is read. -/
def ofShort (argument : RawPath) (letter : UInt8) (rest : RawPath) : Argument :=
  match ofShortName? letter, rest with
  | some (.setting s), [] => awaiting s
  | some (.setting s), c :: value => assigned s (if c == equals then value else rest)
  | some (.switch s), _ => switched s true
  | none, _ => wrong (.unexpected argument)

def ofBytes (argument : RawPath) : Argument :=
  match argument with
  | [a, b] => if a == hyphen && b == hyphen then separator else short argument
  | a :: b :: rest =>
    if a == hyphen && b == hyphen then ofLong argument rest else short argument
  | _ => wrong (.unexpected argument)
where
  short : RawPath → Argument
    | a :: letter :: rest =>
      if a == hyphen then ofShort argument letter rest else wrong (.unexpected argument)
    | _ => wrong (.unexpected argument)

/-- Whether an argument can be the value of the option before it. -/
def isValue (argument : RawPath) : Bool := argument.head? != some hyphen || argument == [hyphen]

end Argument

/-- Reads the arguments, given the options read so far. -/
def read (o : Options) : List RawPath → Request
  | [] => .run o
  | argument :: rest =>
    match Argument.ofBytes argument with
    | .wrong cause => .misuse cause
    | .separator =>
      match rest with
      | [] => .run o
      | next :: _ => .misuse (.unexpected next)
    | .switched .help letter => .help (!letter)
    | .switched .version _ => .version
    | .switched .saveConfig _ =>
      if o.saveConfig then .misuse (.repeatedSwitch .saveConfig)
      else read { o with saveConfig := true } rest
    | .switched .json _ =>
      if o.json then .misuse (.repeatedSwitch .json) else read { o with json := true } rest
    | .assigned setting value =>
      match o.set setting value with
      | .ok o => read o rest
      | .error cause => .misuse cause
    | .awaiting setting =>
      match rest with
      | [] => .misuse (.missingValue setting)
      | value :: rest =>
        if Argument.isValue value then
          match o.set setting value with
          | .ok o => read o rest
          | .error cause => .misuse cause
        else .misuse (.missingValue setting)

/-- What a command line asks for. -/
def Request.ofArguments (arguments : List RawPath) : Request := read {} arguments

end UsbInventory.CommandLine
