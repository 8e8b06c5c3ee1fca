/-
JSON values and their compact text. A number is kept as it is written, so no digit is lost. A string
that spells half of a surrogate pair has no text; it is kept as such, since it may stand in a place
that nobody reads.
-/
import UsbInventory.Text.Quoted

namespace UsbInventory

/-- A JSON value. Members of an object keep their order, and a key may occur more than once. -/
inductive Json where
  | null
  | bool (b : Bool)
  | number (written : List Char)
  /-- A string; `none` if it spells half of a surrogate pair. -/
  | string (text : Option (List Char))
  | array (items : List Json)
  | object (members : List (Option (List Char) × Json))
  deriving Inhabited

namespace Json

def ofNat (n : Nat) : Json := .number (toString n).toList

def ofInt (n : Int) : Json := .number (toString n).toList

def ofString (s : String) : Json := .string (some s.toList)

/-- An object with the given members. -/
def ofMembers (members : List (String × Json)) : Json :=
  .object (members.map fun (key, value) => (some key.toList, value))

/-! ## Printing -/

/-- One character inside a string. -/
def escapeChar (c : Char) : List Char :=
  if c = '"' then ['\\', '"']
  else if c = '\\' then ['\\', '\\']
  else if c = '\x08' then ['\\', 'b']
  else if c = '\x0c' then ['\\', 'f']
  else if c = '\n' then ['\\', 'n']
  else if c = '\r' then ['\\', 'r']
  else if c = '\t' then ['\\', 't']
  else if c.toNat < 0x20 then
    ['\\', 'u', '0', '0', Text.digitChar (c.toNat / 16), Text.digitChar (c.toNat % 16)]
  else [c]

/-- A string between quotes. Half a surrogate pair has no text and is left out. -/
def renderString (text : Option (List Char)) : List Char :=
  '"' :: ((text.getD []).flatMap escapeChar ++ ['"'])

mutual

/-- The compact text of a value. -/
def chars : Json → List Char
  | null => ['n', 'u', 'l', 'l']
  | bool true => ['t', 'r', 'u', 'e']
  | bool false => ['f', 'a', 'l', 's', 'e']
  | number written => written
  | string text => renderString text
  | array items => '[' :: (itemChars items ++ [']'])
  | object members => '\x7b' :: (memberChars members ++ ['\x7d'])

/-- The items of an array with commas between them. -/
def itemChars : List Json → List Char
  | [] => []
  | [v] => v.chars
  | v :: rest => v.chars ++ ',' :: itemChars rest

/-- The members of an object with commas between them. -/
def memberChars : List (Option (List Char) × Json) → List Char
  | [] => []
  | [(key, v)] => renderString key ++ ':' :: v.chars
  | (key, v) :: rest => renderString key ++ ':' :: (v.chars ++ ',' :: memberChars rest)

end

/-- The compact text of a value. -/
def render (v : Json) : String := String.ofList v.chars

end Json

end UsbInventory
