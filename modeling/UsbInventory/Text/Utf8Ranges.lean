/-
The UTF-8 forms of a set of code points as sequences of byte ranges. A sequence stands for all the forms
whose bytes lie in its ranges, place by place; together they stand for the forms of all members, each of
them once and in order.
-/
import UsbInventory.Text.CodeSet

namespace UsbInventory.Text.Utf8Ranges

/-- A sequence of ranges of bytes, given by their first and last bytes. -/
abbrev ByteRanges := List (Nat × Nat)

/-- The following byte for a digit to the base 64. -/
def following (digit : Nat) : Nat := 0x80 + digit

/-- What numbers from 0 to 63 stand for in a following byte, in full. -/
def anyFollowing : Nat × Nat := (following 0, following 63)

/-- The sequences for the numbers from `first` to `last`, written with the bytes `byte` of their leading
digits and as many following bytes as there are `powers` of 64, given from the greatest on. -/
def sequences (byte : Nat → Nat) : List Nat → Nat → Nat → List ByteRanges
  | [], first, last => [[(byte first, byte last)]]
  | power :: powers, first, last =>
    let low := first / power
    let high := last / power
    let inside := fun digit first last =>
      (sequences following powers first last).map ((byte digit, byte digit) :: ·)
    if low = high then inside low (first % power) (last % power)
    else
      let startsWhole := first % power = 0
      let endsWhole := last % power = power - 1
      let before := if startsWhole then [] else inside low (first % power) (power - 1)
      let after := if endsWhole then [] else inside high 0 (last % power)
      let lowest := if startsWhole then low else low + 1
      let highest := if endsWhole then high else high - 1
      let between :=
        if lowest ≤ highest then
          [(byte lowest, byte highest) :: (power :: powers).map fun _ => anyFollowing]
        else []
      before ++ between ++ after

/-- The numbers that are written with the same number of bytes: the first and the last of them, what is
added to the leading digit, and the powers of 64 for the following bytes. -/
def lengths : List (Nat × Nat × Nat × List Nat) :=
  [ (0, 0x7F, 0, []), (0x80, 0x7FF, 0xC0, [64]), (0x800, 0xFFFF, 0xE0, [4096, 64]),
    (0x10000, 0x10FFFF, 0xF0, [262144, 4096, 64])]

/-- The sequences for a run of code points. -/
def ofRun (first last : Nat) : List ByteRanges :=
  lengths.flatMap fun (low, high, lead, powers) =>
    let first := max first low
    let last := min last high
    if first ≤ last then sequences (lead + ·) powers first last else []

/-- The sequences for a set of code points. -/
def ofSet (s : CodeSet) : List ByteRanges := s.runs.flatMap fun (first, last) => ofRun first last

end UsbInventory.Text.Utf8Ranges
