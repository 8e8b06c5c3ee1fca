/-
Witnesses: every instance of a group holds a file that is a link into the device tree. Following the
link, taking what lies below the device-tree root and cutting it before its first colon gives the path
of the instance's node.
-/
import UsbInventory.Identity.Error
import UsbInventory.Path.Bounded
import UsbInventory.Path.Node
import UsbInventory.Settings.Basic

namespace UsbInventory

/-- What a walk asks of a file system: the entries of a directory, and the true path of a file. -/
structure Directories where
  /-- The names in a directory, in listing order; an entry that cannot be read has a cause in place of its name. -/
  entries : RawPath → Except FileError (List (Except FileError RawPath))
  canonicalize : RawPath → Except FileError RawPath

namespace Directories

/-- What is left of some entries when those that cannot be read are passed over. -/
def readable {α : Type} (entries : List (Except FileError α)) : List α := entries.filterMap Except.toOption

/-- The names in a directory, as far as they can be read. -/
def readDir (d : Directories) (path : RawPath) : Except FileError (List RawPath) := (d.entries path).map readable

end Directories

/-- Why an instance leads to no node. -/
inductive CandidateError where
  | compose (cause : PathError)
  | resolve (path : RawPath) (cause : FileError)
  | outsideDeviceTree (path root : RawPath)
  | notUtf8 (path : RawPath)
  | invalidNode (cause : IdentityError)
  deriving DecidableEq

def CandidateError.message : CandidateError → String
  | compose cause => "Cannot compose witness path: " ++ cause.message
  | resolve path cause => s!"Cannot resolve {path.display}: " ++ cause.message
  | outsideDeviceTree path root => s!"{path.display} is not under {root.display}"
  | notUtf8 path => s!"Device path {path.display} is not valid UTF-8"
  | invalidNode cause => cause.message

/-- A node path cut from a witness, and whether there was a colon to cut at. -/
structure NodeCut where
  node : NodePath
  atColon : Bool
  deriving DecidableEq

namespace Witness

/-- The node path that a resolved witness stands for. -/
def nodeOf (resolved root : RawPath) : Except CandidateError NodeCut :=
  match resolved.stripBase? root with
  | none => .error (.outsideDeviceTree resolved root)
  | some below =>
    match Text.Utf8.decode? below with
    | none => .error (.notUtf8 resolved)
    | some cs =>
      let whole := '/' :: cs
      match NodePath.ofChars? (whole.takeWhile (· != ':')) with
      | some node => .ok ⟨node, whole.contains ':'⟩
      | none => .error (.invalidNode (.invalidNodePath (String.ofList whole)))

/-- The path of the witness of an instance. -/
def pathOf (settings : DiscoverySettings) (group : BoundedPath) (name : RawPath) :
    Except PathError BoundedPath := do
  (← group.join name).join (RawPath.ofString settings.witnessFile)

/-- The path of a group. -/
def groupPath (settings : DiscoverySettings) (name : RawPath) : Except PathError BoundedPath := do
  (← BoundedPath.ofPath settings.devUsbRoot settings.pathCapacity).join name

end Witness

end UsbInventory
