/-
Reading JSON texts. Each reader takes the characters that are left and gives a value together with the
characters after it, or nothing if the text is not JSON.
-/
import UsbInventory.Json.Value
import UsbInventory.Number.Numeral

namespace UsbInventory.Json

def isSpace (c : Char) : Bool := c == ' ' || c == '\t' || c == '\n' || c == '\r'

def skipSpace (cs : List Char) : List Char := cs.dropWhile isSpace

/-! ## Strings -/

/-- The number that four hexadecimal digits write. -/
def fourDigits (a b c d : Char) : Option Nat := do
  let a ← Numeral.digitValue? a
  let b ← Numeral.digitValue? b
  let c ← Numeral.digitValue? c
  let d ← Numeral.digitValue? d
  return ((a * 16 + b) * 16 + c) * 16 + d

def isHighSurrogate (n : Nat) : Bool := 0xD800 ≤ n && n ≤ 0xDBFF

def isLowSurrogate (n : Nat) : Bool := 0xDC00 ≤ n && n ≤ 0xDFFF

/-- The character that an escape of one letter stands for. -/
def unescape : Char → Option Char
  | '"' => some '"'
  | '\\' => some '\\'
  | '/' => some '/'
  | 'b' => some '\x08'
  | 'f' => some '\x0c'
  | 'n' => some '\n'
  | 'r' => some '\r'
  | 't' => some '\t'
  | _ => none

/-- Puts a character in front of a text that has been read; after half a surrogate pair there is no
text. -/
def prepend (whole : Bool) (c : Char) (r : Option (Option (List Char) × List Char)) :
    Option (Option (List Char) × List Char) :=
  r.map fun (text, rest) => (if whole then text.map (c :: ·) else none, rest)

/-- Takes the text away from a string that has been read. -/
def broken (r : Option (Option (List Char) × List Char)) : Option (Option (List Char) × List Char) :=
  r.map fun (_, rest) => (none, rest)

/-- Reads a string after its opening quote. `high` is the first half of a surrogate pair that waits for
the second. -/
def readString (high : Option Nat) : List Char → Option (Option (List Char) × List Char)
  | [] => none
  | '"' :: rest => some (if high.isSome then none else some [], rest)
  | '\\' :: 'u' :: a :: b :: c :: d :: rest =>
    match fourDigits a b c d, high with
    | none, _ => none
    | some n, some h =>
      if isLowSurrogate n then
        prepend true (Char.ofNat (0x10000 + (h - 0xD800) * 0x400 + (n - 0xDC00)))
          (readString none rest)
      else broken (readString (if isHighSurrogate n then some n else none) rest)
    | some n, none =>
      if isHighSurrogate n then readString (some n) rest
      else if isLowSurrogate n then broken (readString none rest)
      else prepend true (Char.ofNat n) (readString none rest)
  | '\\' :: c :: rest =>
    match unescape c with
    | some x => prepend high.isNone x (readString none rest)
    | none => none
  | c :: rest =>
    if c.toNat < 0x20 || c == '\\' then none else prepend high.isNone c (readString none rest)

/-! ## Numbers -/

/-- Takes the digits at the start of a text; there has to be one. -/
def readDigits (cs : List Char) : Option (List Char × List Char) :=
  let digits := cs.takeWhile Char.isDigit
  if digits.isEmpty then none else some (digits, cs.dropWhile Char.isDigit)

/-- Reads the integer part of a number: zero, or digits that do not begin with zero. -/
def readInteger (cs : List Char) : Option (List Char × List Char) := do
  let (digits, rest) ← readDigits cs
  if digits.length > 1 && digits.head? == some '0' then none else some (digits, rest)

/-- Reads the fraction of a number, if there is one. -/
def readFraction : List Char → Option (List Char × List Char)
  | '.' :: rest => (readDigits rest).map fun (digits, rest) => ('.' :: digits, rest)
  | cs => some ([], cs)

/-- Reads the exponent of a number, if there is one. -/
def readExponent : List Char → Option (List Char × List Char)
  | [] => some ([], [])
  | c :: rest =>
    if c = 'e' ∨ c = 'E' then
      match rest with
      | '+' :: rest => (readDigits rest).map fun (digits, rest) => (c :: '+' :: digits, rest)
      | '-' :: rest => (readDigits rest).map fun (digits, rest) => (c :: '-' :: digits, rest)
      | rest => (readDigits rest).map fun (digits, rest) => (c :: digits, rest)
    else some ([], c :: rest)

/-- Reads a number without its sign. -/
def readUnsigned (cs : List Char) : Option (List Char × List Char) := do
  let (whole, cs) ← readInteger cs
  let (fraction, cs) ← readFraction cs
  let (exponent, cs) ← readExponent cs
  return (whole ++ fraction ++ exponent, cs)

/-- Reads a number as it is written. -/
def readNumber : List Char → Option (List Char × List Char)
  | '-' :: rest => (readUnsigned rest).map fun (written, rest) => ('-' :: written, rest)
  | cs => readUnsigned cs

/-! ## Values -/

mutual

/-- Reads a value; blanks may stand before it. Each call takes a character or ends the reading, so the
length of the text bounds the depth. -/
def readValue : Nat → List Char → Option (Json × List Char)
  | 0, _ => none
  | fuel + 1, cs =>
    match skipSpace cs with
    | [] => none
    | 'n' :: 'u' :: 'l' :: 'l' :: rest => some (.null, rest)
    | 't' :: 'r' :: 'u' :: 'e' :: rest => some (.bool true, rest)
    | 'f' :: 'a' :: 'l' :: 's' :: 'e' :: rest => some (.bool false, rest)
    | '"' :: rest => (readString none rest).map fun (text, rest) => (.string text, rest)
    | '[' :: rest =>
      match skipSpace rest with
      | ']' :: rest => some (.array [], rest)
      | rest => (readItems fuel rest).map fun (items, rest) => (.array items, rest)
    | '\x7b' :: rest =>
      match skipSpace rest with
      | '\x7d' :: rest => some (.object [], rest)
      | rest => (readMembers fuel rest).map fun (members, rest) => (.object members, rest)
    | rest => (readNumber rest).map fun (written, rest) => (.number written, rest)

/-- Reads the items of an array, one at least, and its closing bracket. -/
def readItems : Nat → List Char → Option (List Json × List Char)
  | 0, _ => none
  | fuel + 1, cs => do
    let (v, rest) ← readValue fuel cs
    match skipSpace rest with
    | ',' :: rest => (readItems fuel rest).map fun (items, rest) => (v :: items, rest)
    | ']' :: rest => some ([v], rest)
    | _ => none

/-- Reads the members of an object, one at least, and its closing brace. -/
def readMembers : Nat → List Char → Option (List (Option (List Char) × Json) × List Char)
  | 0, _ => none
  | fuel + 1, cs => do
    match skipSpace cs with
    | '"' :: rest =>
      let (key, rest) ← readString none rest
      match skipSpace rest with
      | ':' :: rest =>
        let (v, rest) ← readValue fuel rest
        match skipSpace rest with
        | ',' :: rest =>
          (readMembers fuel rest).map fun (members, rest) => ((key, v) :: members, rest)
        | '\x7d' :: rest => some ([(key, v)], rest)
        | _ => none
      | _ => none
    | _ => none

end

/-- The value that a text writes; nothing but blanks may follow it. -/
def parseChars (cs : List Char) : Option Json := do
  let (v, rest) ← readValue (2 * cs.length + 2) cs
  if (skipSpace rest).isEmpty then some v else none

/-- The value that a text writes. -/
def parse (text : String) : Option Json := parseChars text.toList

end UsbInventory.Json
