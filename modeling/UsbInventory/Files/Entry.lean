/-
What a file system holds: directories with their entries, files with their bytes, and symbolic links.
A place is an entry together with the way to it from the root, so that what is above it and what is
beside it can be reached and changed from there.
-/
import UsbInventory.Path.Basic

namespace UsbInventory

/-- The names from the root to an entry. -/
abbrev Location := List RawPath

/-- What stands under a name in a directory. The entries of a directory are in the order in which they
were made, which is the order in which it lists them. -/
inductive Entry where
  | directory (entries : List (RawPath × Entry))
  | file (content : List UInt8)
  | link (target : RawPath)
  deriving Inhabited

namespace Entry

/-- Puts an entry under a name, in the place of one that is there. -/
def put (name : RawPath) (e : Entry) : List (RawPath × Entry) → List (RawPath × Entry)
  | [] => [(name, e)]
  | old :: rest => if old.1 = name then (name, e) :: rest else old :: put name e rest

/-- The entry at a location below an entry. -/
def find? (e : Entry) : Location → Option Entry
  | [] => some e
  | name :: rest =>
    match e with
    | directory es => (es.lookup name).bind fun inner => inner.find? rest
    | _ => none

mutual

/-- Everything below an entry with its location, where the way to the entry is given last name first. A
directory comes before what is in it. -/
def contents (way : Location) : Entry → List (Location × Entry)
  | directory es => contentsOf way es
  | _ => []

/-- Some entries of a directory, and everything below them. -/
def contentsOf (way : Location) : List (RawPath × Entry) → List (Location × Entry)
  | [] => []
  | (name, e) :: rest =>
    ((name :: way).reverse, e) :: (contents (name :: way) e ++ contentsOf way rest)

end

end Entry

/-- An entry, and the directories on the way to it, nearest first: the name that was taken in each of
them, and its entries. -/
structure Place where
  entry : Entry
  above : List (RawPath × List (RawPath × Entry)) := []
  deriving Inhabited

namespace Place

/-- The place under a name in a directory. -/
def enter? (p : Place) (name : RawPath) : Option Place :=
  match p.entry with
  | .directory es => (es.lookup name).map fun e => ⟨e, (name, es) :: p.above⟩
  | _ => none

/-- The place of the directory above; the root is above itself. -/
def up (p : Place) : Place :=
  match p.above with
  | [] => p
  | (_, es) :: above => ⟨.directory es, above⟩

def location (p : Place) : Location := (p.above.map (·.1)).reverse

/-- The length of the path of a place; the root counts as nothing. -/
def pathLength (p : Place) : Nat := p.above.foldl (fun n (name, _) => n + 1 + name.length) 0

/-- The root directory when the entry at the end of a way has become another. -/
def rebuild (e : Entry) : List (RawPath × List (RawPath × Entry)) → Entry
  | [] => e
  | (name, es) :: above => rebuild (.directory (Entry.put name e es)) above

end Place

end UsbInventory
