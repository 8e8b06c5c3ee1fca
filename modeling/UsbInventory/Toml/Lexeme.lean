/-
The smallest parts of TOML texts: blanks and ends of line, strings in their four forms, numbers, dates
and keys. Each reader takes the characters that are left and gives what it read together with the
characters after it, or nothing.
-/
import UsbInventory.Number.Numeral
import UsbInventory.Toml.Value

namespace UsbInventory.Toml

/-! ## Blanks and ends of line -/

def isBlank (c : Char) : Bool := c == ' ' || c == '\t'

def skipBlanks (cs : List Char) : List Char := cs.dropWhile isBlank

/-- A character that may stand in a comment or, quotes and backslashes apart, in a string. -/
def isPlain (c : Char) : Bool := c == '\t' || (0x20 ≤ c.toNat && c.toNat != 0x7F)

/-- The characters after an end of line. -/
def newline? : List Char → Option (List Char)
  | '\n' :: rest => some rest
  | '\r' :: '\n' :: rest => some rest
  | _ => none

/-- The characters after an end of line or at the end of the text. -/
def lineEnd? (cs : List Char) : Option (List Char) := if cs.isEmpty then some [] else newline? cs

/-- Drops a comment, if one begins here. -/
def skipComment : List Char → List Char
  | '#' :: rest => rest.dropWhile isPlain
  | cs => cs

/-- What follows the end of a line on which only blanks and a comment are left. -/
def restOfLine? (cs : List Char) : Option (List Char) := lineEnd? (skipComment (skipBlanks cs))

/-! ## Strings -/

/-- The number that hexadecimal digits write, if all of them are digits. -/
def hexValue? (digits : List Char) : Option Nat :=
  digits.foldlM (fun n c => (Numeral.digitValue? c).map (n * 16 + ·)) 0

/-- The character with a number, if it has one. -/
def scalar? (n : Nat) : Option Char :=
  if n < 0xD800 || (0xDFFF < n && n < 0x110000) then some (Char.ofNat n) else none

/-- The character that an escape of one letter stands for. -/
def unescape : Char → Option Char
  | 'b' => some '\x08'
  | 't' => some '\t'
  | 'n' => some '\n'
  | 'f' => some '\x0c'
  | 'r' => some '\r'
  | '"' => some '"'
  | '\\' => some '\\'
  | _ => none

/-- Puts characters in front of a text that has been read. -/
def prepend (front : List Char) (r : Option (List Char × List Char)) : Option (List Char × List Char) :=
  r.map fun (text, rest) => (front ++ text, rest)

/-- Puts an escaped character in front of a text that has been read. -/
def escaped (c : Option Char) (r : Option (List Char × List Char)) : Option (List Char × List Char) :=
  match c with
  | some c => prepend [c] r
  | none => none

/-- Reads a basic string on one line, after its quote. -/
def readBasic : List Char → Option (List Char × List Char)
  | [] => none
  | '"' :: rest => some ([], rest)
  | '\\' :: 'u' :: a :: b :: c :: d :: rest =>
    escaped ((hexValue? [a, b, c, d]).bind scalar?) (readBasic rest)
  | '\\' :: 'U' :: a :: b :: c :: d :: e :: f :: g :: h :: rest =>
    escaped ((hexValue? [a, b, c, d, e, f, g, h]).bind scalar?) (readBasic rest)
  | '\\' :: c :: rest => escaped (unescape c) (readBasic rest)
  | c :: rest => if isPlain c && c != '\\' then prepend [c] (readBasic rest) else none

/-- Reads a literal string on one line, after its quote. -/
def readLiteral : List Char → Option (List Char × List Char)
  | [] => none
  | '\'' :: rest => some ([], rest)
  | c :: rest => if isPlain c then prepend [c] (readLiteral rest) else none

/-- Reads a basic string over several lines, after its quotes. Up to two quotes may stand before the
three that end it. A backslash at the end of a line drops all blanks and ends of line up to the next
other character: `dropping` tells that this is going on. -/
def readBasicLines (dropping : Bool) : List Char → Option (List Char × List Char)
  | [] => none
  | '"' :: '"' :: '"' :: '"' :: '"' :: rest => some (['"', '"'], rest)
  | '"' :: '"' :: '"' :: '"' :: rest => some (['"'], rest)
  | '"' :: '"' :: '"' :: rest => some ([], rest)
  | '\n' :: rest =>
    if dropping then readBasicLines true rest else prepend ['\n'] (readBasicLines false rest)
  | '\r' :: '\n' :: rest =>
    if dropping then readBasicLines true rest else prepend ['\n'] (readBasicLines false rest)
  | '\\' :: 'u' :: a :: b :: c :: d :: rest =>
    escaped ((hexValue? [a, b, c, d]).bind scalar?) (readBasicLines false rest)
  | '\\' :: 'U' :: a :: b :: c :: d :: e :: f :: g :: h :: rest =>
    escaped ((hexValue? [a, b, c, d, e, f, g, h]).bind scalar?) (readBasicLines false rest)
  | '\\' :: c :: rest =>
    if (newline? (skipBlanks (c :: rest))).isSome then
      if c = '\r' ∨ isBlank c ∨ c = '\n' then readBasicLines true rest else none
    else escaped (unescape c) (readBasicLines false rest)
  | c :: rest =>
    if dropping && isBlank c then readBasicLines true rest
    else if isPlain c && c != '\\' then prepend [c] (readBasicLines false rest)
    else none

/-- Reads a literal string over several lines, after its quotes. -/
def readLiteralLines : List Char → Option (List Char × List Char)
  | [] => none
  | '\'' :: '\'' :: '\'' :: '\'' :: '\'' :: rest => some (['\'', '\''], rest)
  | '\'' :: '\'' :: '\'' :: '\'' :: rest => some (['\''], rest)
  | '\'' :: '\'' :: '\'' :: rest => some ([], rest)
  | '\n' :: rest => prepend ['\n'] (readLiteralLines rest)
  | '\r' :: '\n' :: rest => prepend ['\n'] (readLiteralLines rest)
  | c :: rest => if isPlain c then prepend [c] (readLiteralLines rest) else none

/-- An end of line right after the opening quotes does not count. -/
def skipFirstNewline (cs : List Char) : List Char := (newline? cs).getD cs

/-- Reads a string in any of its forms. -/
def readString : List Char → Option (List Char × List Char)
  | '"' :: '"' :: '"' :: rest => readBasicLines false (skipFirstNewline rest)
  | '"' :: rest => readBasic rest
  | '\'' :: '\'' :: '\'' :: rest => readLiteralLines (skipFirstNewline rest)
  | '\'' :: rest => readLiteral rest
  | _ => none

/-! ## Keys -/

def isBareKeyChar (c : Char) : Bool := c.isAlphanum || c == '-' || c == '_'

/-- Reads one part of a key. -/
def readKeyPart (cs : List Char) : Option (List Char × List Char) :=
  match cs with
  | '"' :: rest => readBasic rest
  | '\'' :: rest => readLiteral rest
  | cs =>
    let part := cs.takeWhile isBareKeyChar
    if part.isEmpty then none else some (part, cs.dropWhile isBareKeyChar)

/-- Reads the parts of a key, with dots between them and blanks around each. The length of the text
bounds their number. -/
def readKeyParts : Nat → List Char → Option (List (List Char) × List Char)
  | 0, _ => none
  | fuel + 1, cs =>
    match readKeyPart (skipBlanks cs) with
    | none => none
    | some (part, rest) =>
      match skipBlanks rest with
      | '.' :: rest => (readKeyParts fuel rest).map fun (parts, rest) => (part :: parts, rest)
      | rest => some ([part], rest)

/-- The number of parts at which a key is refused, and of brackets in brackets a value. -/
def maxDepth : Nat := 80

/-- Reads a key: the parts before the last, and the last. -/
def readKey (cs : List Char) : Option (List (List Char) × List Char × List Char) :=
  match readKeyParts (cs.length + 1) cs with
  | none => none
  | some (parts, rest) =>
    if maxDepth ≤ parts.length then none
    else parts.getLast?.map fun last => (parts.dropLast, last, rest)

/-! ## Dates -/

/-- Reads two digits that write a number within bounds. -/
def readTwo (low high : Nat) : List Char → Option (Nat × List Char)
  | a :: b :: rest =>
    if a.isDigit && b.isDigit then
      let n := (a.toNat - '0'.toNat) * 10 + (b.toNat - '0'.toNat)
      if low ≤ n && n ≤ high then some (n, rest) else none
    else none
  | _ => none

def isLeapYear (y : Nat) : Bool := (y % 4 == 0 && y % 100 != 0) || y % 400 == 0

/-- The number of days in a month. -/
def daysIn (y m : Nat) : Nat :=
  if m = 2 then (if isLeapYear y then 29 else 28)
  else if m = 4 ∨ m = 6 ∨ m = 9 ∨ m = 11 then 30
  else 31

/-- What follows a given character. -/
def expect (c : Char) : List Char → Option (List Char)
  | d :: rest => if c = d then some rest else none
  | [] => none

/-- Reads a date without time. -/
def skipDate? (cs : List Char) : Option (List Char) := do
  let (century, cs) ← readTwo 0 99 cs
  let (year, cs) ← readTwo 0 99 cs
  let (month, cs) ← readTwo 1 12 (← expect '-' cs)
  let (day, cs) ← readTwo 1 31 (← expect '-' cs)
  if day ≤ daysIn (century * 100 + year) month then some cs else none

/-- Reads a time of day. -/
def skipTime? (cs : List Char) : Option (List Char) := do
  let (_, cs) ← readTwo 0 23 cs
  let (_, cs) ← readTwo 0 59 (← expect ':' cs)
  let (_, cs) ← readTwo 0 60 (← expect ':' cs)
  match cs with
  | '.' :: rest =>
    if (rest.takeWhile Char.isDigit).isEmpty then some cs else some (rest.dropWhile Char.isDigit)
  | cs => some cs

/-- Reads the offset of a time, if there is one. -/
def skipOffset (cs : List Char) : List Char :=
  match cs with
  | 'Z' :: rest => rest
  | 'z' :: rest => rest
  | c :: rest =>
    if c = '+' ∨ c = '-' then
      let offset := do
        let (_, cs) ← readTwo 0 23 rest
        let (_, cs) ← readTwo 0 59 (← expect ':' cs)
        return cs
      offset.getD cs
    else cs
  | [] => cs

/-- Reads a date, a time, or both. -/
def skipDateTime? (cs : List Char) : Option (List Char) :=
  match skipDate? cs with
  | some (c :: rest) =>
    if c = 'T' ∨ c = 't' ∨ c = ' ' then
      match skipTime? rest with
      | some rest => some (skipOffset rest)
      | none => some (c :: rest)
    else some (c :: rest)
  | some [] => some []
  | none => skipTime? cs

/-! ## Numbers -/

/-- Reads digits after the first one, with single underscores between digits. -/
def readMoreDigits (isDigit : Char → Bool) : List Char → List Char × List Char
  | '_' :: d :: rest =>
    if isDigit d then
      let (digits, rest) := readMoreDigits isDigit rest
      (d :: digits, rest)
    else ([], '_' :: d :: rest)
  | c :: rest =>
    if isDigit c then
      let (digits, rest) := readMoreDigits isDigit rest
      (c :: digits, rest)
    else ([], c :: rest)
  | [] => ([], [])

/-- Reads digits, one at least. -/
def readSomeDigits (isDigit : Char → Bool) : List Char → Option (List Char × List Char)
  | c :: rest =>
    if isDigit c then
      let (digits, rest) := readMoreDigits isDigit rest
      some (c :: digits, rest)
    else none
  | [] => none

/-- Reads an optional sign. -/
def readSign : List Char → Bool × List Char
  | '-' :: rest => (true, rest)
  | '+' :: rest => (false, rest)
  | cs => (false, cs)

/-- Reads a decimal integer without its sign: zero, or digits that do not begin with zero. -/
def readDecimal : List Char → Option (List Char × List Char)
  | '0' :: rest => some (['0'], rest)
  | cs => readSomeDigits Char.isDigit cs

/-- The number that decimal digits write. -/
def decimalValue (digits : List Char) : Nat :=
  digits.foldl (fun n c => n * 10 + (c.toNat - '0'.toNat)) 0

/-- Whether the decimal `digits · 10 ^ exponent` is too great for a double: at least half a unit in the
last place above the greatest finite one. -/
def overflows (digits : List Char) (exponent : Int) : Bool :=
  let digits := digits.dropWhile (· == '0')
  let top := digits.length + exponent
  if digits.isEmpty || top < 309 then false
  else if 309 < top then true
  else
    let bound := Nat.pow 2 1024 - Nat.pow 2 970
    let value := decimalValue digits
    if 0 ≤ exponent then bound ≤ value * Nat.pow 10 exponent.toNat
    else bound * Nat.pow 10 (-exponent).toNat ≤ value

/-- Reads the exponent of a float, if there is one. -/
def readExponent (cs : List Char) : Option (Int × List Char) :=
  match cs with
  | c :: rest =>
    if c = 'e' ∨ c = 'E' then
      let (negative, rest) := readSign rest
      (readSomeDigits Char.isDigit rest).map fun (digits, rest) =>
        let n : Int := decimalValue digits
        (if negative then -n else n, rest)
    else none
  | [] => none

/-- Reads a float. -/
def readFloat (cs : List Char) : Option (Toml × List Char) :=
  let (negative, unsigned) := readSign cs
  match unsigned with
  | 'i' :: 'n' :: 'f' :: rest => some (.float, rest)
  | 'n' :: 'a' :: 'n' :: rest => some (.float, rest)
  | unsigned => do
    let (whole, rest) ← readDecimal unsigned
    let (fraction, exponent, rest) ← match rest with
      | '.' :: rest => do
        let (fraction, rest) ← readSomeDigits Char.isDigit rest
        match readExponent rest with
        | some (exponent, rest) => some (fraction, exponent, rest)
        | none => some (fraction, 0, rest)
      | rest => do
        let (exponent, rest) ← readExponent rest
        some ([], exponent, rest)
    if !negative && overflows (whole ++ fraction) (exponent - fraction.length) then none
    else some (.float, rest)

/-- The greatest integer. -/
def maxInteger : Nat := 9223372036854775807

/-- An integer within 64 bits. -/
def integer? (negative : Bool) (magnitude : Nat) : Option Toml :=
  if negative then (if magnitude ≤ maxInteger + 1 then some (.integer (-(magnitude : Int))) else none)
  else if magnitude ≤ maxInteger then some (.integer magnitude)
  else none

/-- The digits of a base. -/
def isBaseDigit (base : Nat) (c : Char) : Bool := (Numeral.digitValue? c).any (· < base)

/-- Reads an integer to a base other than ten, after its marker. -/
def readBased (base : Nat) (cs : List Char) : Option (Toml × List Char) := do
  let (digits, rest) ← readSomeDigits (isBaseDigit base) cs
  let n := digits.foldl (fun n c => n * base + (Numeral.digitValue? c).getD 0) 0
  return (← integer? false n, rest)

/-- Reads an integer. -/
def readInteger (cs : List Char) : Option (Toml × List Char) :=
  match cs with
  | '0' :: 'x' :: rest => readBased 16 rest
  | '0' :: 'o' :: rest => readBased 8 rest
  | '0' :: 'b' :: rest => readBased 2 rest
  | cs => do
    let (negative, unsigned) := readSign cs
    let (digits, rest) ← readDecimal unsigned
    return (← integer? negative (decimalValue digits), rest)

/-- Reads a date or a number. -/
def readNumeric (cs : List Char) : Option (Toml × List Char) :=
  match skipDateTime? cs with
  | some rest => some (.date, rest)
  | none =>
    match readFloat cs with
    | some found => some found
    | none => readInteger cs

end UsbInventory.Toml
