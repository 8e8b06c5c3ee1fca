/-
The command line program. It takes the part of the file system that a run can look at, runs the program on
it, prints what the run leaves, and writes the files that the run made. There is no bus to look at here.
-/
import UsbInventory.CommandLine.Run

open UsbInventory UsbInventory.CommandLine

namespace UsbInventory.Capture

/-- What was taken so far, and the places that need not be visited again. -/
structure Taken where
  files : FileSystem
  seen : List String := []

/-- How much of a file is taken. -/
inductive Depth where
  | name
  | content

/-- Puts a link where a path leads to another place than it says. -/
def addLink (files : FileSystem) (path place : String) : FileSystem :=
  if path == place then files
  else
    let at_ := RawPath.ofString path
    let files := match RawPath.parent? at_ with
      | some above => (files.makeDirAll above).1
      | none => files
    (files.makeLink at_ (RawPath.ofString place)).toOption.getD files

/-- Takes a file or a directory, and what is in it down to a number of levels. -/
def take (depth : Depth) : Nat → String → Taken → IO Taken
  | levels, path, taken => do
    let place ← try pure (← IO.FS.realPath path) catch _ => return taken
    let taken := { taken with files := addLink taken.files path place.toString }
    if taken.seen.contains place.toString then return taken
    let at_ := RawPath.ofString place.toString
    let taken := { taken with seen := place.toString :: taken.seen }
    if ← place.isDir then
      let taken := { taken with files := (taken.files.makeDirAll at_).1 }
      match levels with
      | 0 => return { taken with seen := taken.seen.tail }
      | levels + 1 =>
        let mut all := taken
        for entry in ← place.readDir do
          all ← take depth levels (place.toString ++ "/" ++ entry.fileName) all
        return all
    else
      let bytes ← match depth with
        | .name => pure []
        | .content => try pure (← IO.FS.readBinFile place).toList catch _ => pure []
      let files := match RawPath.parent? at_ with
        | some above => (taken.files.makeDirAll above).1
        | none => taken.files
      return { taken with files := (files.writeFile at_ bytes).toOption.getD files }
termination_by levels => levels

/-- Takes a path, if it can be named here. -/
def takePath (depth : Depth) (levels : Nat) (path : RawPath) (taken : Taken) : IO Taken :=
  match RawPath.text? path with
  | some text => take depth levels text taken
  | none => pure taken

/-- A path and all the directories above it, the highest first. -/
def withAbove : Nat → RawPath → List RawPath
  | 0, path => [path]
  | fuel + 1, path =>
    match RawPath.parent? path with
    | some above => withAbove fuel above ++ [path]
    | none => [path]

/-- Takes what the choice of a configuration can look at. -/
def takeSettings (env : Environment) (options : Options) (taken : Taken) : IO Taken := do
  let named := options.config.toList
  let mut all := taken
  for path in named ++ [systemFile] ++ withAbove 64 env.userFile do
    all ← takePath .content 0 path all
  return all

/-- Takes what a scan can look at. -/
def takeRoots (c : Configuration) (taken : Taken) : IO Taken := do
  let d := c.discovery
  let taken ← takePath .name 0 d.devicesRoot taken
  let taken ← takePath .name 3 d.devUsbRoot taken
  match d.snapshotRoot with
  | some root => takePath .content 64 root taken
  | none => return taken

end UsbInventory.Capture

namespace UsbInventory.CommandLine

open Capture

/-- A bus that cannot be used. -/
def unsupportedBus : Bus := { setup := -12 }

/-- The variable that holds log directives. -/
def logVariable : String := "RUST_LOG"

def readEnvironment : IO Environment := do
  let get := fun name => do return (← IO.getEnv name).map RawPath.ofString
  return {
    home := (← get "HOME").getD []
    configHome := ← get "XDG_CONFIG_HOME"
    logDirectives := ← get logVariable }

/-- Takes what a run with some arguments can look at. -/
def takeWorld (env : Environment) (arguments : List RawPath) : IO FileSystem := do
  let here := RawPath.ofString (← IO.currentDir).toString
  let made := (FileSystem.empty.makeDirAll here).1
  let start : FileSystem := { made with workDir := FileSystem.steps here }
  match Request.ofArguments arguments with
  | .run options =>
    let taken ← takeSettings env options { files := start }
    match options.loaded env taken.files with
    | .ok c =>
      let c := (options.override c).expandPaths env taken.files
      return (← takeRoots c taken).files
    | .error _ => return taken.files
  | _ => return start

/-- Writes what a run put into the file system. -/
def writeBack (before after : FileSystem) : IO Unit := do
  for (at_, entry) in after.entries do
    let path := RawPath.display (FileSystem.pathOf at_)
    match entry, before.find? at_ with
    | .directory _, some _ => pure ()
    | .directory _, none => IO.FS.createDirAll path
    | .file bytes, some (.file old) => if bytes ≠ old then IO.FS.writeBinFile path bytes.toByteArray
    | .file bytes, _ => IO.FS.writeBinFile path bytes.toByteArray
    | .link _, _ => pure ()

def write (output : Output) : IO Unit :=
  match output with
  | .listing text => IO.print text
  | .logged event => IO.eprintln event.targetedLine
  | .told line => IO.eprintln line

end UsbInventory.CommandLine

def main (arguments : List String) : IO UInt32 := do
  let arguments := arguments.map RawPath.ofString
  let env ← readEnvironment
  let files ← takeWorld env arguments
  let ending := CommandLine.run env ⟨files, unsupportedBus⟩ arguments
  writeBack files ending.files
  ending.output.forM write
  return UInt32.ofNat ending.code
