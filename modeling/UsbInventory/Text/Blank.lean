/-
White space as Unicode defines it, and the words of a text between runs of it.
-/

namespace UsbInventory.Text

/-- The characters with the property White_Space. -/
def isBlank (c : Char) : Bool :=
  let n := c.toNat
  (0x09 ≤ n && n ≤ 0x0D) || n == 0x20 || n == 0x85 || n == 0xA0 || n == 0x1680 ||
    (0x2000 ≤ n && n ≤ 0x200A) || n == 0x2028 || n == 0x2029 || n == 0x202F || n == 0x205F ||
    n == 0x3000

/-- A text without the blanks at its ends. -/
def trim (cs : List Char) : List Char :=
  ((cs.dropWhile isBlank).reverse.dropWhile isBlank).reverse

/-- The maximal runs of characters that satisfy `keep`, in order. -/
def runsOf (keep : Char → Bool) : List Char → List (List Char)
  | [] => []
  | c :: rest =>
    if keep c then
      match rest with
      | [] => [[c]]
      | d :: _ =>
        if keep d then
          match runsOf keep rest with
          | [] => [[c]]
          | run :: more => (c :: run) :: more
        else [c] :: runsOf keep rest
    else runsOf keep rest

/-- The words of a text: what stands between blanks. -/
def words (cs : List Char) : List (List Char) := runsOf (fun c => !isBlank c) cs

end UsbInventory.Text
