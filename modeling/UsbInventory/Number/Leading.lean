/-
The integer that a text begins with: blanks are skipped, a sign may follow, and the digits up to the
first other character are the magnitude. A text without digits there has the value zero, and values
out of the range of 64 bits stop at its ends.
-/

namespace UsbInventory.Leading

/-- The blanks that may stand before the number. -/
def isSkipped (c : Char) : Bool :=
  c == ' ' || c == '\t' || c == '\n' || c == '\x0b' || c == '\x0c' || c == '\r'

/-- The greatest value. -/
def limit : Int := 9223372036854775807

/-- One more digit, stopping at the limit in the product and again in the sum. -/
def addDigit (acc : Int) (c : Char) : Int :=
  min (min (acc * 10) limit + (c.toNat - '0'.toNat : Nat)) limit

/-- The magnitude that a text begins with. -/
def magnitude (cs : List Char) : Int :=
  (cs.takeWhile Char.isDigit).foldl addDigit 0

/-- The integer that a text begins with. -/
def value (cs : List Char) : Int :=
  match cs.dropWhile isSkipped with
  | '-' :: rest => -magnitude rest
  | '+' :: rest => magnitude rest
  | rest => magnitude rest

end UsbInventory.Leading
