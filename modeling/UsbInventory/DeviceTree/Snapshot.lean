/-
Device trees kept as directories. The node `/a/b` is the directory `a/b` below the root of the
snapshot, and each of its properties is a file there with integers between blanks, decimal or
hexadecimal. One word that is no integer makes the whole property unreadable.
-/
import UsbInventory.DeviceTree.Basic
import UsbInventory.Files.Basic
import UsbInventory.Text.Blank

namespace UsbInventory.Snapshot

/-! ## Property files -/

/-- A 32-bit pattern read as a two's complement number. -/
def ofPattern (n : Nat) : Int := if n < 2147483648 then n else (n : Int) - 4294967296

/-- Reads one word of a property file: `0x` or `0X` begins a 32-bit pattern in hexadecimal, anything
else is a signed decimal number of 32 bits. -/
def parseWord : List Char → Except Numeral.Fault Int
  | '0' :: 'x' :: digits => (Numeral.unsigned 16 0xFFFFFFFF digits).map ofPattern
  | '0' :: 'X' :: digits => (Numeral.unsigned 16 0xFFFFFFFF digits).map ofPattern
  | cs => Numeral.signed 10 0x7FFFFFFF cs

/-- Reads the words of a property file; the first bad one decides the error. -/
def parseWords : List (List Char) → Except FileError (List Int)
  | [] => .ok []
  | word :: rest =>
    match parseWord word with
    | .error fault => .error (.badInteger (String.ofList word) fault)
    | .ok v => (parseWords rest).map (v :: ·)

/-- Reads the text of a property file. -/
def parseValues (cs : List Char) : Except FileError (List Int) := parseWords (Text.words cs)

/-! ## Nodes -/

/-- Whether a text can be the name of a property: it is not empty and has no slash. -/
def isPropertyName (name : String) : Bool := !name.isEmpty && !name.toList.contains '/'

/-- Looks up a property of the node kept in the directory `dir`. -/
def lookupIn (fs : FileSystem) (dir : RawPath) (name : String) : PropLookup :=
  if !isPropertyName name then .absent (.badPropertyName name)
  else
    match fs.textContent (dir.join (RawPath.ofString name)) with
    | .error e => .absent e
    | .ok text =>
      match parseValues text.toList with
      | .ok vs => .values vs
      | .error e => .absent e

/-- The directory of a node. -/
def nodeDir (root : RawPath) (path : NodePath) : RawPath :=
  root.join (Text.Utf8.encode (path.chars.dropWhile (· == '/')))

/-- Opens the node at a path. -/
def openNode (fs : FileSystem) (root : RawPath) (path : NodePath) : Except FileError DeviceNode := do
  let dir := nodeDir root path
  match ← fs.look dir with
  | .directory _ => return ⟨lookupIn fs dir⟩
  | _ => throw (.notNodeDirectory dir)

/-- The device tree below a directory. -/
def tree (fs : FileSystem) (root : RawPath) : DeviceTree := ⟨openNode fs root⟩

end UsbInventory.Snapshot
