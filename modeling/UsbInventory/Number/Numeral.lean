/-
Numerals of bounded integers. A numeral is an optional sign and one or more digits; it is read from
the left and refused at the first character that is no digit or at the first digit that takes the
value past the bound, whichever comes first.
-/

namespace UsbInventory.Numeral

/-- Why a text is no numeral of its type. -/
inductive Fault where
  | empty
  | invalidDigit
  | tooLarge
  | tooSmall
  deriving DecidableEq, Repr

def Fault.message : Fault → String
  | .empty => "cannot parse integer from empty string"
  | .invalidDigit => "invalid digit found in string"
  | .tooLarge => "number too large to fit in target type"
  | .tooSmall => "number too small to fit in target type"

/-- The value of a digit of any base up to sixteen. -/
def digitValue? (c : Char) : Option Nat :=
  let n := c.toNat
  if '0'.toNat ≤ n ∧ n ≤ '9'.toNat then some (n - '0'.toNat)
  else if 'a'.toNat ≤ n ∧ n ≤ 'f'.toNat then some (n - 'a'.toNat + 10)
  else if 'A'.toNat ≤ n ∧ n ≤ 'F'.toNat then some (n - 'A'.toNat + 10)
  else none

/-- Reads digits after the value `acc`. No value on the way may exceed `bound`; `fault` names the
excess. -/
def readDigits (base bound : Nat) (fault : Fault) (acc : Nat) : List Char → Except Fault Nat
  | [] => .ok acc
  | c :: rest =>
    match digitValue? c with
    | some d =>
      if base ≤ d then .error .invalidDigit
      else if bound < acc * base + d then .error fault
      else readDigits base bound fault (acc * base + d) rest
    | none => .error .invalidDigit

/-- Reads a magnitude of at least one digit. -/
def readMagnitude (base bound : Nat) (fault : Fault) (cs : List Char) : Except Fault Nat :=
  if cs.isEmpty then .error .invalidDigit else readDigits base bound fault 0 cs

/-- Reads an unsigned numeral with values up to `bound`; a leading `+` is allowed. -/
def unsigned (base bound : Nat) : List Char → Except Fault Nat
  | [] => .error .empty
  | '+' :: rest => readMagnitude base bound .tooLarge rest
  | cs => readMagnitude base bound .tooLarge cs

/-- Reads a signed numeral with values from `-(bound + 1)` to `bound`. -/
def signed (base bound : Nat) : List Char → Except Fault Int
  | [] => .error .empty
  | '+' :: rest => (readMagnitude base bound .tooLarge rest).map Int.ofNat
  | '-' :: rest => (readMagnitude base (bound + 1) .tooSmall rest).map fun n => -(n : Int)
  | cs => (readMagnitude base bound .tooLarge cs).map Int.ofNat

end UsbInventory.Numeral
