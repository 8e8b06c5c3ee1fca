/-
Quoted texts in messages. A quoted text stands between double quotes; what could be mistaken for its
end or could not be seen is written as an escape: the quote and the backslash, control characters,
code points without a visible shape, and characters that would attach to the one before them.
-/
import UsbInventory.Text.Category

namespace UsbInventory.Text

/-- A digit of a number to a base up to sixteen, lower case. -/
def digitChar (d : Nat) : Char :=
  if d < 10 then Char.ofNat ('0'.toNat + d) else Char.ofNat ('a'.toNat + (d - 10))

/-- The hexadecimal digits of a number, lower case, without leading zeros. -/
def hexDigits (n : Nat) : List Char :=
  if n < 16 then [digitChar n] else hexDigits (n / 16) ++ [digitChar (n % 16)]

/-- A number in hexadecimal, lower case, without leading zeros. -/
def hex (n : Nat) : String := String.ofList (hexDigits n)

/-- A number in hexadecimal with at least `width` digits. -/
def hexPadded (width n : Nat) : String :=
  let digits := hexDigits n
  String.ofList (List.replicate (width - digits.length) '0' ++ digits)

/-- A number in decimal with at least `width` digits. -/
def decimalPadded (width n : Nat) : String :=
  let digits := (toString n).toList
  String.ofList (List.replicate (width - digits.length) '0' ++ digits)

/-- One character inside a quoted text. -/
def quoteChar (c : Char) : List Char :=
  if c = '\x00' then ['\\', '0']
  else if c = '\t' then ['\\', 't']
  else if c = '\r' then ['\\', 'r']
  else if c = '\n' then ['\\', 'n']
  else if c = '"' then ['\\', '"']
  else if c = '\\' then ['\\', '\\']
  else if isShown c then [c]
  else ['\\', 'u', '\x7b'] ++ hexDigits c.toNat ++ ['\x7d']

/-- A text between quotes. -/
def quoted (s : String) : String :=
  String.ofList ('"' :: (s.toList.flatMap quoteChar ++ ['"']))

end UsbInventory.Text
