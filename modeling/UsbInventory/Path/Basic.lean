/-
Paths as the operating system keeps them: byte strings in which only `/` has a meaning. This module
holds the lexical operations; none of them looks at a file system. A path reads as a text only when
its bytes are UTF-8 (`text?`); `display` is what a message shows, with U+FFFD for malformed bytes.
-/
import UsbInventory.Text.Utf8

namespace UsbInventory

/-- A path, or one name in it, as bytes. -/
abbrev RawPath := List UInt8

namespace RawPath

/-- The byte of `/`. -/
def slash : UInt8 := 0x2F

/-- The byte of `.`. -/
def dot : UInt8 := 0x2E

/-- The path whose bytes are the UTF-8 form of a text. -/
def ofString (s : String) : RawPath := Text.Utf8.encode s.toList

/-- The text of a path that is UTF-8. -/
def text? (p : RawPath) : Option String := (Text.Utf8.decode? p).map String.ofList

/-- A path as a message shows it. -/
def display (p : RawPath) : String := String.ofList (Text.Utf8.decodeLossy p)

/-- A path is absolute when it begins with `/`. -/
def isAbsolute (p : RawPath) : Bool := p.head? == some slash

/-- Whether a path ends in `/`. -/
def endsWithSlash (p : RawPath) : Bool := p.getLast? == some slash

/-- Whether a name is hidden from listings: it begins with `.`. -/
def isHidden (name : RawPath) : Bool := name.head? == some dot

/-- Appends to a path: an absolute second path replaces the first, and a `/` is put between the two
unless the first is empty or ends in one. -/
def join (p q : RawPath) : RawPath :=
  if q.isAbsolute then q
  else if p.isEmpty || p.endsWithSlash then p ++ q
  else p ++ slash :: q

/-! ## Components -/

/-- The pieces between slashes; there is always at least one, and pieces may be empty. -/
def pieces : RawPath → List RawPath
  | [] => [[]]
  | b :: rest =>
    if b = slash then [] :: pieces rest
    else
      match pieces rest with
      | [] => [[b]]
      | piece :: more => (b :: piece) :: more

/-- A piece that names something: not empty and not `.`. -/
def isProper (piece : RawPath) : Bool := !piece.isEmpty && piece != [dot]

/-- One component of a path. A leading `.` counts only in a path that is not absolute. -/
inductive Component where
  | root
  | here
  | name (bytes : RawPath)
  deriving DecidableEq, Repr

/-- What a path begins with before its names. -/
def opening (p : RawPath) : List Component :=
  if p.isAbsolute then [.root]
  else if p.pieces.head? = some [dot] then [.here]
  else []

/-- The components of a path: repeated slashes, inner `.` and trailing slashes leave no trace;
`..` is a name like any other. -/
def components (p : RawPath) : List Component :=
  p.opening ++ (p.pieces.filter isProper).map .name

/-- Drops the bytes of everything before the next proper piece: slashes and `.` pieces. -/
def dropIdle : List RawPath → List RawPath
  | [] => []
  | piece :: rest => if isProper piece then piece :: rest else dropIdle rest

/-- Pieces written as a path again. -/
def ofPieces : List RawPath → RawPath
  | [] => []
  | [piece] => piece
  | piece :: rest => piece ++ slash :: ofPieces rest

/-- Pieces without idle ones at the end. -/
def dropIdleEnd (ps : List RawPath) : List RawPath :=
  (dropIdle ps.reverse).reverse

/-- Drops pieces up to and including the `n`-th proper one. -/
def dropProper : Nat → List RawPath → List RawPath
  | 0, ps => ps
  | _ + 1, [] => []
  | n + 1, piece :: rest => if isProper piece then dropProper n rest else dropProper (n + 1) rest

/-- What remains of `p` below `base`, if the components of `base` open those of `p`. The remainder
keeps its inner spelling; idle pieces at its two ends are dropped. A base without components leaves
the opening of `p` in place. -/
def stripBase? (p base : RawPath) : Option RawPath :=
  if base.components.isPrefixOf p.components then
    if base.components.isEmpty then
      let trimmed := ofPieces (dropIdleEnd p.pieces)
      some <|
        if p.isAbsolute then (if trimmed.isEmpty then [slash] else trimmed)
        else if p.pieces.head? = some [dot] then (if trimmed.isEmpty then [dot] else trimmed)
        else trimmed
    else
      let names := base.components.length - base.opening.length
      some (ofPieces (dropIdle (dropIdleEnd (dropProper names p.pieces))))
  else none

/-! ## Parent and absolute form -/

/-- The path without its last component; `none` for the root and for a path without components. -/
def parent? (p : RawPath) : Option RawPath :=
  let kept := dropIdleEnd p.pieces
  if kept.isEmpty then
    if p.opening = [.here] then some [] else none
  else
    let above := ofPieces (dropIdleEnd kept.dropLast)
    if !above.isEmpty then some above
    else if p.isAbsolute then some [slash]
    else if p.opening = [.here] then some [dot]
    else some []

/-- The lexical absolute form of a path: a relative path is put below `cwd`, `.` and repeated slashes
go, `..` and a trailing slash stay, and so do exactly two leading slashes. The empty path has no
absolute form and is kept. -/
def absolute (cwd p : RawPath) : RawPath :=
  if p.isEmpty then []
  else
    let start :=
      if !p.isAbsolute then cwd
      else if p.take 2 = [slash, slash] ∧ p.take 3 ≠ [slash, slash, slash] then [slash, slash]
      else [slash]
    let full := (p.pieces.filter isProper).foldl join start
    if p.endsWithSlash then full.join [] else full

end RawPath

end UsbInventory
