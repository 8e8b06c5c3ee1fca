/-
Configurations in files. A configuration that is loaded has definite paths and is valid; where no path
is named, the file of the user comes before the one of the system. A configuration that cannot be
written leaves the file system as it was.
-/
import UsbInventory.Files.Edit
import UsbInventory.Settings.Document
import UsbInventory.Settings.Expansion

namespace UsbInventory

/-! ## Places -/

namespace Environment

/-- The directory for configurations: the one that is named, if it is absolute, or else a directory in
the home directory. -/
def configDir (env : Environment) : RawPath :=
  match env.configHome with
  | some dir => if dir.isAbsolute then dir else env.home.join (RawPath.ofString ".config")
  | none => env.home.join (RawPath.ofString ".config")

/-- The configuration file of the user. -/
def userFile (env : Environment) : RawPath :=
  (env.configDir.join (RawPath.ofString "devtree-usb")).join (RawPath.ofString "enumerator.toml")

end Environment

/-- The configuration file of the system. -/
def systemFile : RawPath := RawPath.ofString "/etc/devtree-usb/enumerator.toml"

/-! ## Loading -/

/-- Why no configuration could be loaded. -/
inductive LoadError where
  | noFile
  | unreadable (path : RawPath) (cause : FileError)
  | malformed (path : RawPath)
  | invalid (cause : InvalidSetting)
  deriving DecidableEq

namespace LoadError

/-- The messages of the failure, outermost first. What exactly is malformed in a document is not
told. -/
def chain : LoadError → List String
  | noFile => ["No configuration file found, using defaults"]
  | unreadable path cause => [s!"Failed to read config file: {path.display}", cause.message]
  | malformed path => [s!"Failed to parse config file: {path.display}", "Invalid configuration"]
  | invalid cause => [cause.message]

end LoadError

namespace Configuration

/-- The configuration in a file, with definite paths. -/
def loadFile (env : Environment) (fs : FileSystem) (path : RawPath) :
    Except LoadError Configuration :=
  match fs.textContent path with
  | .error e => .error (.unreadable path e)
  | .ok text =>
    match ofDocument? text.toList with
    | none => .error (.malformed path)
    | some c =>
      let c := c.expandPaths env fs
      match c.validate with
      | .ok _ => .ok c
      | .error e => .error (.invalid e)

/-- The configuration in a named file, or else in the first of the usual files that exists. -/
def load (env : Environment) (fs : FileSystem) (path : Option RawPath) :
    Except LoadError Configuration :=
  match path with
  | some path => loadFile env fs path
  | none =>
    match [env.userFile, systemFile].find? fs.pathExists with
    | some path => loadFile env fs path
    | none => .error .noFile

/-- The configuration in the usual files, or the standard one if there is none that can be used. -/
def loadOrDefault (env : Environment) (fs : FileSystem) : Configuration :=
  match load env fs none with
  | .ok c => c
  | .error _ => {}

end Configuration

/-! ## Saving -/

/-- Why a configuration could not be saved. -/
inductive SaveError where
  | unwritable (cause : Unwritable)
  | directory (path : RawPath) (cause : FileError)
  | file (path : RawPath) (cause : FileError)
  deriving DecidableEq

namespace SaveError

/-- The messages of the failure, outermost first. -/
def chain : SaveError → List String
  | unwritable cause => ["Failed to serialize configuration", cause.message]
  | directory path cause => [s!"Failed to create config directory: {path.display}", cause.message]
  | file path cause => [s!"Failed to write config file: {path.display}", cause.message]

end SaveError

namespace Configuration

/-- Writes a configuration to a file, making the directories above it. The file system is given back in
any case: directories that were made stay if the file itself cannot be written. -/
def save (c : Configuration) (fs : FileSystem) (path : RawPath) :
    FileSystem × Except SaveError Unit :=
  match c.toDocument with
  | .error e => (fs, .error (.unwritable e))
  | .ok text =>
    let above := RawPath.parent? path
    let (made, failed) := match above with
      | none => (fs, none)
      | some above =>
        let (made, result) := fs.makeDirAll above
        (made, match result with
          | .ok _ => none
          | .error e => some (above, e))
    match failed with
    | some (above, e) => (made, .error (.directory above e))
    | none =>
      match made.writeFile path (Text.Utf8.encode text) with
      | .ok written => (written, .ok ())
      | .error e => (made, .error (.file path e))

end Configuration

end UsbInventory
