/-
The classes of characters that have names of their own in patterns: those of the escapes for digits,
blanks and words, and those that brackets name between `[:` and `:]`.
-/
import UsbInventory.Text.Property.Name

namespace UsbInventory.ClassName

open Text (CodeSet)

/-- The decimal digits of all scripts. -/
def digit : CodeSet := Text.Category.knownCodes .decimalNumber

/-- The blanks of all scripts. -/
def blank : CodeSet := Text.Property.whiteSpace

/-- The characters of words in all scripts. -/
def word : CodeSet := Text.Property.word

def ascii : CodeSet := .ofRange 0 0x7F

def asciiDigit : CodeSet := .range '0' '9'

def asciiBlank : CodeSet := (CodeSet.range '\t' '\r').union (.single ' ')

def asciiLower : CodeSet := .range 'a' 'z'

def asciiUpper : CodeSet := .range 'A' 'Z'

def asciiLetter : CodeSet := asciiLower.union asciiUpper

def asciiWord : CodeSet := .unions [asciiLetter, asciiDigit, .single '_']

/-- The class that a bracket names between `[:` and `:]`. -/
def ofBracketName? : String → Option CodeSet
  | "alnum" => some (asciiLetter.union asciiDigit)
  | "alpha" => some asciiLetter
  | "ascii" => some ascii
  | "blank" => some ((CodeSet.single '\t').union (.single ' '))
  | "cntrl" => some ((CodeSet.ofRange 0 0x1F).union (.single '\x7f'))
  | "digit" => some asciiDigit
  | "graph" => some (.range '!' '~')
  | "lower" => some asciiLower
  | "print" => some (.range ' ' '~')
  | "punct" => some ((CodeSet.range '!' '~').except (asciiLetter.union asciiDigit))
  | "space" => some asciiBlank
  | "upper" => some asciiUpper
  | "word" => some asciiWord
  | "xdigit" => some (.unions [asciiDigit, .range 'A' 'F', .range 'a' 'f'])
  | _ => none

end UsbInventory.ClassName
