/-
The values of TOML documents. A table remembers how it came to be, since that decides what may be added
to it later; floats and dates are told apart from other values, but what they say is not kept.
-/

namespace UsbInventory

/-- How a table came to be. -/
inductive TableOrigin where
  /-- By a header of its own, or as the whole document. -/
  | header
  /-- On the way to the header of a table inside it. -/
  | implied
  /-- On the way to a key inside it. -/
  | dotted
  /-- Between braces. -/
  | braces
  deriving DecidableEq, Repr

/-- A TOML value. -/
inductive Toml where
  | string (text : List Char)
  | integer (n : Int)
  | float
  | boolean (b : Bool)
  | date
  | array (items : List Toml)
  | table (origin : TableOrigin) (entries : List (List Char × Toml))
  /-- Tables under one key, each begun by a header in double brackets. -/
  | tables (items : List (List (List Char × Toml)))
  deriving Inhabited

namespace Toml

/-- The entries of a table, in the order of their keys' first mention. -/
abbrev Entries := List (List Char × Toml)

/-- The value under a key. -/
def find? (key : List Char) (es : Entries) : Option Toml := (es.find? (·.1 == key)).map (·.2)

/-- Puts a value under a key, in the place of one that is there. -/
def put (key : List Char) (v : Toml) (es : Entries) : Entries :=
  if es.any (·.1 == key) then es.map fun e => if e.1 == key then (key, v) else e
  else es ++ [(key, v)]

/-! ## Adding to tables -/

/-- Adds a value under a key with the tables that a dotted key leads through. Those tables may not have
a header of their own, and the last of them has to have been opened by a dotted key. `dotted` tells
whether the table at hand was opened by one, or none is asked for. -/
def insertDotted (dotted : Bool) (key : List Char) (v : Toml) :
    List (List Char) → Entries → Option Entries
  | [], es => if dotted && (find? key es).isNone then some (es ++ [(key, v)]) else none
  | k :: path, es =>
    match find? k es with
    | none => (insertDotted true key v path []).map fun inner => es ++ [(k, .table .dotted inner)]
    | some (.table .dotted inner) =>
      (insertDotted true key v path inner).map fun inner => put k (.table .dotted inner) es
    | some (.table .implied inner) =>
      (insertDotted false key v path inner).map fun inner => put k (.table .implied inner) es
    | some (.tables items) =>
      match items.getLast? with
      | some last =>
        (insertDotted false key v path last).map fun inner =>
          put k (.tables (items.dropLast ++ [inner])) es
      | none => none
    | some _ => none

/-- Changes the table that a path of header keys leads to. Tables that are missing are implied; an array
of tables stands for its last table. -/
def within (change : Entries → Option Entries) : List (List Char) → Entries → Option Entries
  | [], es => change es
  | k :: path, es =>
    match find? k es with
    | none => (within change path []).map fun inner => es ++ [(k, .table .implied inner)]
    | some (.table .braces _) => none
    | some (.table origin inner) =>
      (within change path inner).map fun inner => put k (.table origin inner) es
    | some (.tables items) =>
      match items.getLast? with
      | some last =>
        (within change path last).map fun inner => put k (.tables (items.dropLast ++ [inner])) es
      | none => none
    | some _ => none

end Toml

end UsbInventory
