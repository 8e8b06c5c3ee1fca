/-
Making the paths of a configuration definite: a leading `~` stands for the home directory, relative
paths are put below the working directory, and the device-tree root is replaced by its true path where
it exists, since witnesses are compared with it. Doing this twice is the same as doing it once.
-/
import UsbInventory.Files.Basic
import UsbInventory.Settings.Basic

namespace UsbInventory

/-- What a program is told by its surroundings. -/
structure Environment where
  /-- The home directory. -/
  home : RawPath
  /-- The directory for configurations, where one is named. -/
  configHome : Option RawPath := none
  /-- The directives that choose what is logged, where they are given. -/
  logDirectives : Option RawPath := none
  deriving Inhabited

namespace Environment

/-- A path with a leading `~` replaced by the home directory. The mark counts where it stands alone or
before a slash, in a path that is UTF-8. -/
def expandHome (env : Environment) (p : RawPath) : RawPath :=
  match p with
  | mark :: rest =>
    if mark = 0x7E ∧ (rest.isEmpty ∨ RawPath.isAbsolute rest) ∧ (RawPath.text? p).isSome ∧
        (RawPath.text? env.home).isSome ∧ !env.home.isEmpty then env.home ++ rest
    else p
  | [] => []

end Environment

/-- The path of the working directory. -/
def FileSystem.workPath (fs : FileSystem) : RawPath := FileSystem.pathOf fs.workDir

/-- A path of a configuration made absolute. -/
def expandPath (env : Environment) (fs : FileSystem) (p : RawPath) : RawPath :=
  RawPath.absolute fs.workPath (env.expandHome p)

/-- The path of the device-tree root made absolute, and free of links where it exists. -/
def expandRoot (env : Environment) (fs : FileSystem) (p : RawPath) : RawPath :=
  let expanded := expandPath env fs p
  match fs.canonicalize expanded with
  | .ok found => found
  | .error _ => expanded

/-- A configuration with definite paths. -/
def Configuration.expandPaths (env : Environment) (fs : FileSystem) (c : Configuration) :
    Configuration :=
  { c with
    discovery :=
      { c.discovery with
        devUsbRoot := expandPath env fs c.discovery.devUsbRoot
        devicesRoot := expandRoot env fs c.discovery.devicesRoot
        snapshotRoot := c.discovery.snapshotRoot.map (expandPath env fs) } }

end UsbInventory
