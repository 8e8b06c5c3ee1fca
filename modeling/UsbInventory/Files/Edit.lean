/-
Changes to a file system: making directories, writing files, removing trees. A write through a link
reaches the file that the link leads to, and makes it if only its directory exists.
-/
import UsbInventory.Files.Basic

namespace UsbInventory

/-- Where a new entry would stand: a name in a directory. -/
structure Slot where
  dir : List (RawPath × Entry)
  above : List (RawPath × List (RawPath × Entry))
  name : RawPath

namespace Slot

/-- The entry that stands there already. -/
def entry? (s : Slot) : Option Entry := s.dir.lookup s.name

/-- The root directory after an entry was put there. -/
def fill (s : Slot) (e : Entry) : Entry :=
  Place.rebuild (.directory (Entry.put s.name e s.dir)) s.above

/-- The root directory without what stands there. -/
def clear (s : Slot) : Entry :=
  Place.rebuild (.directory (s.dir.filter fun old => old.1 ≠ s.name)) s.above

/-- The last name of a path in the directory that the names before it lead to; `noName` is the error
where the path ends in `.`, `..` or is the root. -/
def of (dir : Place) (last : Option RawPath) (noName : Int) : Except FileError Slot :=
  match dir.entry with
  | .directory es =>
    match last with
    | none => .error (.system noName)
    | some name =>
      if name = [RawPath.dot] ∨ name = [RawPath.dot, RawPath.dot] then .error (.system noName)
      else if FileSystem.maxName < name.length then .error (.system SystemError.nameTooLong)
      else .ok ⟨es, dir.above, name⟩
  | _ => .error (.system SystemError.notDirectory)

end Slot

namespace FileSystem

/-- The slot of a path whose last name is not followed. -/
def slot (fs : FileSystem) (p : RawPath) (noName : Int) : Except FileError Slot := do
  checkPath p
  let names := namesOf p
  let dir ← follow fs false maxLinks (fs.start p) names.dropLast
  Slot.of dir names.getLast? noName

/-- Makes one directory. -/
def makeDir (fs : FileSystem) (p : RawPath) : Except FileError FileSystem := do
  let s ← fs.slot p SystemError.alreadyExists
  if s.entry?.isSome then throw (.system SystemError.alreadyExists)
  return { fs with root := s.fill (.directory []) }

/-- Makes a directory, or accepts the one that is already there. -/
def ensureDir (fs : FileSystem) (p : RawPath) : FileSystem × Except FileError Unit :=
  match fs.makeDir p with
  | .ok made => (made, .ok ())
  | .error e => (fs, if fs.isDirectory p then .ok () else .error e)

/-- Makes the first of the given directories; where the one above it is missing, the others are made
first. Directories that were made stay, whatever comes of the rest. -/
def makeDirs (fs : FileSystem) : List RawPath → FileSystem × Except FileError Unit
  | [] => (fs, .ok ())
  | p :: above =>
    if p.isEmpty then (fs, .ok ())
    else
      match fs.makeDir p with
      | .ok made => (made, .ok ())
      | .error e =>
        if e = .system SystemError.noEntry then
          match makeDirs fs above with
          | (made, .ok _) => made.ensureDir p
          | (made, .error e) => (made, .error e)
        else fs.ensureDir p

/-- A path followed by its parents, nearest first; at most `depth` of them. -/
def withParents : Nat → RawPath → List RawPath
  | 0, p => [p]
  | depth + 1, p =>
    match p.parent? with
    | some above => p :: withParents depth above
    | none => [p]

/-- Makes a directory and all missing ones above it. -/
def makeDirAll (fs : FileSystem) (p : RawPath) : FileSystem × Except FileError Unit :=
  fs.makeDirs (withParents p.length p)

/-- The slot that a write to the given names reaches, following at most `links` links in all; `slashed`
tells whether a slash follows the last name. -/
def writeSlot (fs : FileSystem) (links : Nat) (at_ : Place) (names : List RawPath) (slashed : Bool) :
    Except FileError Slot :=
  match reach false at_ names.dropLast with
  | .failed e => .error e
  | .link dir target rest =>
    match links with
    | 0 => .error (.system SystemError.tooManyLinks)
    | links + 1 =>
      fs.writeSlot links (fs.startIn dir target) (steps target ++ rest ++ names.getLast?.toList) slashed
  | .arrived dir => do
    let s ← Slot.of dir names.getLast? SystemError.isDirectory
    if slashed then throw (.system SystemError.isDirectory)
    match s.entry? with
    | some (.link target) =>
      match links with
      | 0 => throw (.system SystemError.tooManyLinks)
      | links + 1 =>
        let dir : Place := ⟨.directory s.dir, s.above⟩
        fs.writeSlot links (fs.startIn dir target) (namesOf target) target.endsWithSlash
    | some (.directory _) => throw (.system SystemError.isDirectory)
    | _ => return s

/-- Writes a file, making it if it is not there. -/
def writeFile (fs : FileSystem) (p : RawPath) (content : List UInt8) :
    Except FileError FileSystem := do
  checkPath p
  let s ← fs.writeSlot maxLinks (fs.start p) (namesOf p) p.endsWithSlash
  return { fs with root := s.fill (.file content) }

/-- Makes a link. -/
def makeLink (fs : FileSystem) (p target : RawPath) : Except FileError FileSystem := do
  checkPath target
  let s ← fs.slot p SystemError.alreadyExists
  if s.entry?.isSome then throw (.system SystemError.alreadyExists)
  return { fs with root := s.fill (.link target) }

/-- Removes a file, a link or a directory with all it holds. -/
def remove (fs : FileSystem) (p : RawPath) : Except FileError FileSystem := do
  let s ← fs.slot p SystemError.invalidArgument
  if s.entry?.isNone then throw (.system SystemError.noEntry)
  return { fs with root := s.clear }

end FileSystem

end UsbInventory
