/-
Writing TOML. A string is written in the plainest of its forms that can hold it: between double quotes
if nothing in it needs an escape, else between single quotes, else over several lines, and with escapes
where nothing else will do.
-/
import UsbInventory.Text.Quoted
import UsbInventory.Toml.Value

namespace UsbInventory.Toml

/-! ## Strings -/

/-- What decides the form of a string. -/
structure StringTraits where
  /-- A control character other than a tab and an end of line. -/
  control : Bool
  backslash : Bool
  newline : Bool
  /-- The longest run of double quotes. -/
  doubleQuotes : Nat
  /-- The longest run of single quotes. -/
  singleQuotes : Nat

/-- The length of the longest run of a character, `run` being the one going on. -/
def longestRun (c : Char) (run : Nat) : List Char → Nat
  | [] => run
  | d :: rest => if d = c then longestRun c (run + 1) rest else max run (longestRun c 0 rest)

def isControl (c : Char) : Bool :=
  (c.toNat < 0x20 && c != '\t' && c != '\n') || c.toNat == 0x7F

def StringTraits.of (cs : List Char) : StringTraits :=
  { control := cs.any isControl
    backslash := cs.contains '\\'
    newline := cs.contains '\n'
    doubleQuotes := longestRun '"' 0 cs
    singleQuotes := longestRun '\'' 0 cs }

/-- The forms of strings. -/
inductive StringForm where
  | basic | literal | basicLines | literalLines
  deriving DecidableEq, Repr

/-- The plainest form that can hold a string. -/
def StringForm.of (t : StringTraits) : StringForm :=
  if !t.control && !t.backslash && t.doubleQuotes == 0 && !t.newline then .basic
  else if !t.control && t.singleQuotes == 0 && !t.newline then .literal
  else if !t.control && !t.backslash && t.doubleQuotes ≤ 2 then .basicLines
  else if !t.control && t.singleQuotes ≤ 2 then .literalLines
  else if t.newline then .basicLines
  else .basic

/-- A digit in hexadecimal, upper case. -/
def upperDigit (d : Nat) : Char := (Text.digitChar d).toUpper

/-- The text inside basic quotes. Up to `quotes` double quotes may stand in a row without an escape;
`run` counts those that do. Over several lines an end of line stands for itself. -/
def escapeBasic (lines : Bool) (quotes run : Nat) : List Char → List Char
  | [] => []
  | c :: rest =>
    if c = '"' then
      if run < quotes then c :: escapeBasic lines quotes (run + 1) rest
      else '\\' :: '"' :: escapeBasic lines quotes 0 rest
    else
      let more := escapeBasic lines quotes 0 rest
      if c = '\x08' then '\\' :: 'b' :: more
      else if c = '\t' then '\\' :: 't' :: more
      else if c = '\n' then (if lines then c :: more else '\\' :: 'n' :: more)
      else if c = '\x0c' then '\\' :: 'f' :: more
      else if c = '\r' then '\\' :: 'r' :: more
      else if c = '\\' then '\\' :: '\\' :: more
      else if isControl c then
        '\\' :: 'u' :: '0' :: '0' :: upperDigit (c.toNat / 16) :: upperDigit (c.toNat % 16) :: more
      else c :: more

/-- A string with its quotes. Forms over several lines begin with an end of line, which does not count,
if there is one in the text. -/
def stringChars (cs : List Char) : List Char :=
  let t := StringTraits.of cs
  let first := if t.newline then ['\n'] else []
  match StringForm.of t with
  | .basic => '"' :: (escapeBasic false 0 0 cs ++ ['"'])
  | .literal => '\'' :: (cs ++ ['\''])
  | .basicLines => ['"', '"', '"'] ++ first ++ escapeBasic true 2 0 cs ++ ['"', '"', '"']
  | .literalLines => ['\'', '\'', '\''] ++ first ++ cs ++ ['\'', '\'', '\'']

/-! ## Assignments -/

/-- The value of an assignment. -/
inductive Written where
  | string (text : List Char)
  | integer (n : Nat)
  | strings (items : List (List Char))

/-- An array of strings: on one line up to one item, else with each item on a line of its own. -/
def stringsChars : List (List Char) → List Char
  | [] => ['[', ']']
  | [item] => '[' :: (stringChars item ++ [']'])
  | items =>
    ['[', '\n'] ++ items.flatMap (fun item => [' ', ' ', ' ', ' '] ++ stringChars item ++ [',', '\n'])
      ++ [']']

def Written.chars : Written → List Char
  | string text => stringChars text
  | integer n => (toString n).toList
  | strings items => stringsChars items

/-- A line that gives a key its value. -/
def assignment (key : String) (v : Written) : List Char :=
  key.toList ++ [' ', '=', ' '] ++ v.chars ++ ['\n']

/-- A table with its header. -/
def section_ (name : String) (assignments : List (String × Written)) : List Char :=
  '[' :: (name.toList ++ [']', '\n'] ++ assignments.flatMap fun (key, v) => assignment key v)

end UsbInventory.Toml
