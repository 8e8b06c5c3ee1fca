/-
The flags of patterns, and what a backslash begins: characters given by number, classes of characters,
and anchors. Where a pattern is verbose, blanks and comments may stand between the parts of an escape.
-/
import UsbInventory.Number.Numeral
import UsbInventory.Pattern.Basic
import UsbInventory.Pattern.ClassName
import UsbInventory.Pattern.Error

namespace UsbInventory.Pattern

open Text (CodeSet)

/-- The flags in force at a place of a pattern. -/
structure Flags where
  caseless : Bool := false
  multiLine : Bool := false
  dotAll : Bool := false
  pairedEnds : Bool := false
  verbose : Bool := false
  unicode : Bool := true
  deriving DecidableEq, Repr

namespace Reader

/-! ## Blanks and digits -/

/-- Drops blanks and comments, which run to the end of their line. -/
def dropRemarks : Bool → List Char → List Char
  | _, [] => []
  | true, c :: rest => dropRemarks (c != '\n') rest
  | false, c :: rest =>
    if Text.isBlank c then dropRemarks false rest
    else if c = '#' then dropRemarks true rest
    else c :: rest

/-- Drops what a verbose pattern ignores. -/
def skip (f : Flags) (cs : List Char) : List Char := if f.verbose then dropRemarks false cs else cs

/-- Takes characters that satisfy `keep`, with what a verbose pattern ignores after each of them. Every
one takes a character, so `fuel` need not exceed the length of the text. -/
def takeSpaced (f : Flags) (keep : Char → Bool) : Nat → List Char → List Char × List Char
  | fuel + 1, c :: rest =>
    if keep c then
      let (more, rest) := takeSpaced f keep fuel (skip f rest)
      (c :: more, rest)
    else ([], c :: rest)
  | _, cs => ([], cs)

/-- Reads a count of repetitions, with blanks around it. -/
def readCount (f : Flags) (cs : List Char) : Except PatternError (Nat × List Char) :=
  let (digits, rest) := takeSpaced f Char.isDigit cs.length (cs.dropWhile Text.isBlank)
  let (_, rest) := takeSpaced f Text.isBlank rest.length rest
  if digits.isEmpty then .error .countEmpty
  else
    match Numeral.unsigned 10 4294967295 digits with
    | .ok n => .ok (n, rest)
    | .error _ => .error .countTooLarge

/-! ## Characters by number -/

/-- A digit of a hexadecimal number. -/
def isHexDigit (c : Char) : Bool :=
  c.isDigit || ('a' ≤ c && c ≤ 'f') || ('A' ≤ c && c ≤ 'F')

/-- The character with a number written in hexadecimal. -/
def hexChar (digits : List Char) : Except PatternError Char :=
  match Numeral.unsigned 16 0x10FFFF digits with
  | .ok n => if 0xD800 ≤ n ∧ n ≤ 0xDFFF then .error .hexInvalid else .ok (Char.ofNat n)
  | .error _ => .error .hexInvalid

/-- Reads a fixed number of hexadecimal digits. -/
def hexDigits (f : Flags) : Nat → List Char → Except PatternError (List Char × List Char)
  | 0, cs => .ok ([], cs)
  | _ + 1, [] => .error .escapeAtEnd
  | count + 1, c :: rest =>
    if isHexDigit c then do
      let (more, rest) ← hexDigits f count (skip f rest)
      return (c :: more, rest)
    else .error .hexInvalid

/-- Reads the digits of a character number: in braces, or `count` of them. Two bare digits name a byte,
and where Unicode is off only bytes below 0x80 are characters. -/
def readHex (f : Flags) (count : Nat) (cs : List Char) : Except PatternError (Char × List Char) :=
  match skip f cs with
  | '\x7b' :: rest =>
    let (digits, rest) := takeSpaced f isHexDigit rest.length (skip f rest)
    match rest with
    | [] => .error .hexUnclosed
    | '\x7d' :: rest => if digits.isEmpty then .error .hexEmpty else do return (← hexChar digits, rest)
    | _ => .error .hexInvalid
  | cs => do
    let (digits, rest) ← hexDigits f count cs
    let c ← hexChar digits
    if count = 2 ∧ !f.unicode ∧ 0x80 ≤ c.toNat then throw .beyondText
    return (c, rest)

/-! ## Classes -/

/-- A set and its complement; a complement reaches beyond text unless all of Unicode is meant. -/
def complementIf (f : Flags) (negated : Bool) (c : CodeSet) : Except PatternError CodeSet :=
  if !negated then .ok c
  else if f.unicode then .ok c.complement
  else .error .beyondText

/-- A set as the flags change it. Where Unicode is off, sets hold ASCII only, and so do their foldings. -/
def fold (f : Flags) (c : CodeSet) : CodeSet :=
  if !f.caseless then c
  else if f.unicode then c.caseClosure
  else c.caseClosure.inter ClassName.ascii

/-- What stands before and after the first occurrence of a mark. -/
def splitAtMark? (mark : List Char) : List Char → Option (List Char × List Char)
  | [] => none
  | c :: rest =>
    if mark.isPrefixOf (c :: rest) then some ([], (c :: rest).drop mark.length)
    else (splitAtMark? mark rest).map fun (before, after) => (c :: before, after)

/-- The set of a property given as `name`, `key=value`, `key:value` or `key!=value`, and whether its
complement is meant. -/
def propertyClass (cs : List Char) : Except PatternError (Bool × CodeSet) :=
  let found :=
    match splitAtMark? ['!', '='] cs with
    | some (key, value) => (true, Text.Property.valued? key value)
    | none =>
      match splitAtMark? [':'] cs <|> splitAtMark? ['='] cs with
      | some (key, value) => (false, Text.Property.valued? key value)
      | none => (false, Text.Property.named? cs)
  match found with
  | (negated, some c) => .ok (negated, c)
  | (_, none) => .error .propertyUnknown

/-- Reads a property after `\p` or `\P`: one letter, or a name in braces. -/
def readProperty (f : Flags) (negated : Bool) (cs : List Char) :
    Except PatternError (CodeSet × List Char) := do
  if !f.unicode then throw .beyondText
  let (name, rest) ←
    match skip f cs with
    | [] => throw .escapeAtEnd
    | '\x7b' :: rest =>
      match takeSpaced f (· != '\x7d') rest.length (skip f rest) with
      | (_, []) => throw .escapeAtEnd
      | (name, _ :: rest) => pure (name, rest)
    | c :: rest => pure ([c], rest)
  let (inner, c) ← propertyClass name
  return (← complementIf f (negated != inner) (fold f c), rest)

/-- The characters of words under the flags. -/
def wordClass (f : Flags) : CodeSet := if f.unicode then ClassName.word else ClassName.asciiWord

/-! ## Escapes -/

/-- What an escape stands for. -/
inductive Primitive where
  | literal (c : Char)
  | chars (c : CodeSet)
  | anchor (a : Anchor)

/-- Whether a character may be escaped to stand for itself. -/
def isEscapable (c : Char) : Bool :=
  c.toNat < 0x80 && !c.isAlphanum && c != '<' && c != '>'

/-- Reads what follows `\b`: a kind of boundary in braces, or nothing. Braces that hold no letter or
hyphen count repetitions and are left. -/
def readBoundary (f : Flags) (cs : List Char) : Except PatternError (Anchor × List Char) :=
  let plain := .ok (.wordBoundary (wordClass f), cs)
  match cs with
  | '\x7b' :: rest =>
    let isPart := fun c : Char => c.isAlpha || c == '-'
    match takeSpaced f isPart rest.length (skip f rest) with
    | ([], []) => .error .boundaryUnknown
    | ([], _) => plain
    | (name, '\x7d' :: rest) =>
      match String.ofList name with
      | "start" => .ok (.wordStart (wordClass f), rest)
      | "end" => .ok (.wordEnd (wordClass f), rest)
      | "start-half" => .ok (.wordStartHalf (wordClass f), rest)
      | "end-half" => .ok (.wordEndHalf (wordClass f), rest)
      | _ => .error .boundaryUnknown
    | _ => .error .boundaryUnknown
  | _ => plain

/-- Reads an escape after its backslash. -/
def readEscape (f : Flags) : List Char → Except PatternError (Primitive × List Char)
  | [] => .error .escapeAtEnd
  | c :: rest =>
    let shorthand := fun (wide narrow : CodeSet) (negated : Bool) => do
      return (Primitive.chars (← complementIf f negated (if f.unicode then wide else narrow)), rest)
    if isEscapable c then .ok (.literal c, rest)
    else
      match c with
      | 'x' => do let (d, rest) ← readHex f 2 rest; return (.literal d, rest)
      | 'u' => do let (d, rest) ← readHex f 4 rest; return (.literal d, rest)
      | 'U' => do let (d, rest) ← readHex f 8 rest; return (.literal d, rest)
      | 'p' => do let (d, rest) ← readProperty f false rest; return (.chars d, rest)
      | 'P' => do let (d, rest) ← readProperty f true rest; return (.chars d, rest)
      | 'd' => shorthand ClassName.digit ClassName.asciiDigit false
      | 'D' => shorthand ClassName.digit ClassName.asciiDigit true
      | 's' => shorthand ClassName.blank ClassName.asciiBlank false
      | 'S' => shorthand ClassName.blank ClassName.asciiBlank true
      | 'w' => shorthand ClassName.word ClassName.asciiWord false
      | 'W' => shorthand ClassName.word ClassName.asciiWord true
      | 'a' => .ok (.literal '\x07', rest)
      | 'f' => .ok (.literal '\x0c', rest)
      | 't' => .ok (.literal '\t', rest)
      | 'n' => .ok (.literal '\n', rest)
      | 'r' => .ok (.literal '\r', rest)
      | 'v' => .ok (.literal '\x0b', rest)
      | 'A' => .ok (.anchor .textStart, rest)
      | 'z' => .ok (.anchor .textEnd, rest)
      | 'B' => .ok (.anchor (.notWordBoundary (wordClass f)), rest)
      | '<' => .ok (.anchor (.wordStart (wordClass f)), rest)
      | '>' => .ok (.anchor (.wordEnd (wordClass f)), rest)
      | 'b' => do let (a, rest) ← readBoundary f rest; return (.anchor a, rest)
      | c => .error (if c.isDigit then .backreference else .escapeUnknown)

/-- A literal character of a pattern. Where Unicode is off, only the case of ASCII letters is ignored. -/
def literal (f : Flags) (c : Char) : Pattern :=
  .chars (if f.unicode || c.toNat < 0x80 then fold f (.single c) else .single c)

/-- A literal member of a bracket, which has to be ASCII where Unicode is off. -/
def literalClass (f : Flags) (c : Char) : Except PatternError CodeSet :=
  if f.unicode || c.toNat < 0x80 then .ok (fold f (.single c)) else .error .beyondText

end Reader

end UsbInventory.Pattern
