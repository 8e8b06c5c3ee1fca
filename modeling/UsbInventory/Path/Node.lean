/-
Paths of device-tree nodes: absolute texts, without the suffix that names a minor device. The unit
address of a node is what follows the last `@` of its path.
-/

namespace UsbInventory

/-- The absolute path of a node in the device tree. -/
structure NodePath where
  chars : List Char
  absolute : chars.head? = some '/'
  deriving DecidableEq

namespace NodePath

/-- The node path with the given text, if the text is absolute. -/
def ofChars? (cs : List Char) : Option NodePath :=
  if h : cs.head? = some '/' then some ⟨cs, h⟩ else none

/-- The node path with the given text, if the text is absolute. -/
def ofString? (s : String) : Option NodePath := ofChars? s.toList

/-- The path as a text. -/
def text (p : NodePath) : String := String.ofList p.chars

/-- What follows the last occurrence of `mark`. -/
def afterLast? (mark : Char) : List Char → Option (List Char)
  | [] => none
  | c :: rest =>
    match afterLast? mark rest with
    | some found => some found
    | none => if c = mark then some rest else none

/-- The text after the last `@`. -/
def unitAddress? (p : NodePath) : Option (List Char) := afterLast? '@' p.chars

end NodePath

end UsbInventory
