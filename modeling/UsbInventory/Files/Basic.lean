/-
A file system as a value: a tree of entries and a working directory. A path is followed from the working
directory name by name; links are replaced by their targets, and no path may lead through more than forty
of them.
-/
import UsbInventory.Files.Entry
import UsbInventory.Files.Error

namespace UsbInventory

/-- A file system: its root directory, and where the working directory is. -/
structure FileSystem where
  root : Entry
  workDir : Location
  deriving Inhabited

namespace FileSystem

/-- A file system with only the root directory. -/
def empty : FileSystem := ⟨.directory [], []⟩

/-- The entry at a location. -/
def find? (fs : FileSystem) (at_ : Location) : Option Entry := fs.root.find? at_

/-- Everything but the root directory, with its location. -/
def entries (fs : FileSystem) : List (Location × Entry) := fs.root.contents []

def rootPlace (fs : FileSystem) : Place := ⟨fs.root, []⟩

/-- The place of the working directory. -/
def workPlace (fs : FileSystem) : Place :=
  fs.workDir.foldl (fun p name => (p.enter? name).getD p) fs.rootPlace

/-! ## Limits -/

/-- The longest name, in bytes. -/
def maxName : Nat := 255

/-- The size of the system's path buffer, final NUL included. -/
def maxPath : Nat := 4096

/-- The number of links that one path may lead through. -/
def maxLinks : Nat := 40

/-- A path that can be handed to the system at all. -/
def checkText (p : RawPath) : Except FileError Unit :=
  if p.contains 0 then .error .nulInPath
  else if p.isEmpty then .error (.system SystemError.noEntry)
  else .ok ()

/-- The checks that come before the system follows a path. -/
def checkPath (p : RawPath) : Except FileError Unit := do
  checkText p
  if maxPath ≤ p.length then throw (.system SystemError.nameTooLong)

/-! ## Following a path -/

/-- The names in a path. -/
def namesOf (p : RawPath) : List RawPath := p.pieces.filter (!·.isEmpty)

/-- The steps that a path asks for: its names, and a final `.` if it ends in a slash. -/
def steps (p : RawPath) : List RawPath :=
  if p.endsWithSlash then namesOf p ++ [[RawPath.dot]] else namesOf p

/-- Where a path starts that is met in a directory. -/
def startIn (fs : FileSystem) (dir : Place) (p : RawPath) : Place :=
  if p.isAbsolute then fs.rootPlace else dir

/-- Where a path starts. -/
def start (fs : FileSystem) (p : RawPath) : Place := fs.startIn fs.workPlace p

/-- How far steps lead without following a link. -/
inductive Reach where
  | arrived (p : Place)
  | failed (e : FileError)
  /-- A link in directory `dir`, with the steps that remain after it. -/
  | link (dir : Place) (target : RawPath) (rest : List RawPath)

/-- Takes steps up to the first link. If `limited`, the path of every place on the way has to fit into
the path buffer, and that of a place that has to be a directory with a slash after it. -/
def reach (limited : Bool) (at_ : Place) : List RawPath → Reach
  | [] => .arrived at_
  | name :: rest =>
    match at_.entry with
    | .directory es =>
      let exceeds := fun extra => limited && maxPath ≤ at_.pathLength + extra
      if name = [RawPath.dot] ∨ name = [RawPath.dot, RawPath.dot] then
        if exceeds 1 then .failed (.system SystemError.nameTooLong)
        else reach limited (if name = [RawPath.dot] then at_ else at_.up) rest
      else if maxName < name.length || exceeds (name.length + 1) then
        .failed (.system SystemError.nameTooLong)
      else
        match es.lookup name with
        | none => .failed (.system SystemError.noEntry)
        | some (.link target) => .link at_ target rest
        | some e => reach limited ⟨e, (name, es) :: at_.above⟩ rest
    | _ => .failed (.system SystemError.notDirectory)

/-- Takes steps, following at most `links` links. -/
def follow (fs : FileSystem) (limited : Bool) (links : Nat) (at_ : Place) (todo : List RawPath) :
    Except FileError Place :=
  match reach limited at_ todo with
  | .arrived found => .ok found
  | .failed e => .error e
  | .link dir target rest =>
    match links with
    | 0 => .error (.system SystemError.tooManyLinks)
    | links + 1 => follow fs limited links (fs.startIn dir target) (steps target ++ rest)

/-- The place that a path leads to. -/
def locate (fs : FileSystem) (p : RawPath) : Except FileError Place := do
  checkPath p
  follow fs false maxLinks (fs.start p) (steps p)

/-- The path of a location: absolute, free of links, `.`, `..` and repeated slashes. -/
def pathOf (at_ : Location) : RawPath :=
  if at_.isEmpty then [RawPath.slash] else at_.flatMap (RawPath.slash :: ·)

/-! ## Looking -/

/-- The entry that a path leads to. -/
def look (fs : FileSystem) (p : RawPath) : Except FileError Entry := (fs.locate p).map Place.entry

/-- Whether a path leads to anything. -/
def pathExists (fs : FileSystem) (p : RawPath) : Bool := (fs.locate p).toBool

/-- Whether a path leads to a directory. -/
def isDirectory (fs : FileSystem) (p : RawPath) : Bool :=
  match fs.look p with
  | .ok (.directory _) => true
  | _ => false

/-- The names in the directory that a path leads to. -/
def readDir (fs : FileSystem) (p : RawPath) : Except FileError (List RawPath) := do
  match ← fs.look p with
  | .directory es => return es.map (·.1)
  | _ => throw (.system SystemError.notDirectory)

/-- The absolute path, free of links, of what a path leads to. The path may be longer than the path
buffer, but none of the paths on the way may be. -/
def canonicalize (fs : FileSystem) (p : RawPath) : Except FileError RawPath := do
  checkText p
  return pathOf (← follow fs true maxLinks (fs.start p) (steps p)).location

/-- The bytes of the file that a path leads to. -/
def content (fs : FileSystem) (p : RawPath) : Except FileError (List UInt8) := do
  match ← fs.look p with
  | .file content => return content
  | _ => throw (.system SystemError.isDirectory)

/-- The text of the file that a path leads to. -/
def textContent (fs : FileSystem) (p : RawPath) : Except FileError String := do
  match RawPath.text? (← fs.content p) with
  | some text => return text
  | none => throw .notText

end FileSystem

end UsbInventory
