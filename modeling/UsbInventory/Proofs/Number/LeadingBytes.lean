/-
The integer that a text begins with, to the last digit. It is the number that the longest run of digits there writes,
after blanks and a sign, however long the run is; where that is more than a machine word holds, it is the greatest word.
A reader that goes over the bytes of the text and counts in machine words comes to it as well: it never cuts a
character, and none of its steps leaves the range of its words.
-/
import UsbInventory.Proofs.Number.Decimal
import UsbInventory.Proofs.Text.Utf8
import UsbInventory.Proofs.Text.Words

namespace UsbInventory.Leading

open Text (head_dropWhile)
open Text.Utf8

/-! ## The parts of a text -/

/-- The characters that may stand before an integer. -/
def blankChars : List Char := [' ', '\t', '\n', '\x0b', '\x0c', '\r']

/-- The parts of a text that begins with an integer: the longest run of blanks, at most one sign, the longest run of
digits, and what is left. -/
structure Parts (text blanks sign digits rest : List Char) : Prop where
  parted : text = blanks ++ (sign ++ (digits ++ rest))
  onlyBlanks : ∀ c ∈ blanks, c ∈ blankChars
  allBlanks : ∀ c ∈ (sign ++ (digits ++ rest)).head?, c ∉ blankChars
  oneSign : sign = [] ∨ sign = ['+'] ∨ sign = ['-']
  anySign : sign = [] → ∀ c ∈ (digits ++ rest).head?, c ≠ '+' ∧ c ≠ '-'
  onlyDigits : ∀ c ∈ digits, c.isDigit = true
  allDigits : ∀ c ∈ rest.head?, c.isDigit = false

theorem isSkipped_iff {c : Char} : isSkipped c = true ↔ c ∈ blankChars := by simp [isSkipped, blankChars, or_assoc]

section Runs

variable {p : Char → Bool}

theorem dropWhile_eq_of_head {cs : List Char} (h : ∀ c ∈ cs.head?, p c = false) : cs.dropWhile p = cs := by
  cases cs with
  | nil => rfl
  | cons c cs => exact List.dropWhile_cons_of_neg (by rw [h c rfl]; exact Bool.false_ne_true)

theorem takeWhile_eq_of_head {front rest : List Char} (hfront : ∀ c ∈ front, p c = true)
    (h : ∀ c ∈ rest.head?, p c = false) : (front ++ rest).takeWhile p = front := by
  rw [List.takeWhile_append_of_pos hfront]
  cases rest with
  | nil => exact List.append_nil front
  | cons c cs => rw [List.takeWhile_cons_of_neg (by rw [h c rfl]; exact Bool.false_ne_true), List.append_nil]

end Runs

/-- What follows the longest run of blanks and at most one sign is parted after its longest run of digits. -/
theorem parts_of_sign {text sign number : List Char} (left : text.dropWhile isSkipped = sign ++ number)
    (oneSign : sign = [] ∨ sign = ['+'] ∨ sign = ['-'])
    (anySign : sign = [] → ∀ c ∈ number.head?, c ≠ '+' ∧ c ≠ '-') :
    Parts text (text.takeWhile isSkipped) sign (number.takeWhile Char.isDigit) (number.dropWhile Char.isDigit) := by
  have hnumber : number.takeWhile Char.isDigit ++ number.dropWhile Char.isDigit = number :=
    List.takeWhile_append_dropWhile
  exact
    { parted := by rw [hnumber, ← left, List.takeWhile_append_dropWhile]
      onlyBlanks := fun c hc => isSkipped_iff.1 (List.mem_takeWhile_imp hc)
      allBlanks := by
        rw [hnumber, ← left]
        intro c hc
        rw [← isSkipped_iff, head_dropWhile text c hc]
        exact Bool.false_ne_true
      oneSign := oneSign
      anySign := by rwa [hnumber]
      onlyDigits := fun c hc => List.mem_takeWhile_imp hc
      allDigits := head_dropWhile number }

/-- Every text has such parts. -/
theorem exists_parts (text : List Char) : ∃ blanks sign digits rest, Parts text blanks sign digits rest := by
  by_cases hplus : (text.dropWhile isSkipped).head? = some '+'
  · obtain ⟨number, hnumber⟩ := List.head?_eq_some_iff.1 hplus
    exact ⟨_, _, _, _, @parts_of_sign text ['+'] number hnumber (.inr (.inl rfl)) nofun⟩
  · by_cases hminus : (text.dropWhile isSkipped).head? = some '-'
    · obtain ⟨number, hnumber⟩ := List.head?_eq_some_iff.1 hminus
      exact ⟨_, _, _, _, @parts_of_sign text ['-'] number hnumber (.inr (.inr rfl)) nofun⟩
    · refine ⟨_, _, _, _, @parts_of_sign text [] _ rfl (.inl rfl) fun _ c hc => ⟨?_, ?_⟩⟩
      · rintro rfl
        exact hplus hc
      · rintro rfl
        exact hminus hc

/-- What comes after the digits can be cut off. -/
theorem Parts.cut {text blanks sign digits rest : List Char} (h : Parts text blanks sign digits rest) :
    Parts (blanks ++ sign ++ digits) blanks sign digits [] := by
  have hhead : ∀ (front : List Char), ∀ c ∈ (front ++ []).head?, c ∈ (front ++ rest).head? := by
    intro front c hc
    rw [List.append_nil] at hc
    rw [List.head?_append, Option.mem_def.1 hc]
    rfl
  exact
    { parted := by rw [List.append_nil, List.append_assoc]
      onlyBlanks := h.onlyBlanks
      allBlanks := fun c hc => h.allBlanks c (by
        rw [← List.append_assoc] at hc ⊢
        exact hhead (sign ++ digits) c hc)
      oneSign := h.oneSign
      anySign := fun hsign c hc => h.anySign hsign c (hhead digits c hc)
      onlyDigits := h.onlyDigits
      allDigits := nofun }

/-! ## The integer -/

/-- An integer with a sign and a magnitude. -/
def signed (sign : List Char) (n : Nat) : Int := if sign = ['-'] then -n else n

theorem value_of_parts {text blanks sign digits rest : List Char} (h : Parts text blanks sign digits rest) :
    value text = signed sign (min (Nat.ofDigitChars 10 digits 0) 9223372036854775807) := by
  have hmagnitude : magnitude (digits ++ rest) = (min (Nat.ofDigitChars 10 digits 0) 9223372036854775807 : Nat) := by
    rw [magnitude_eq, takeWhile_eq_of_head h.onlyDigits h.allDigits]
    unfold limit
    omega
  have hleft : text.dropWhile isSkipped = sign ++ (digits ++ rest) := by
    rw [h.parted, List.dropWhile_append_of_pos fun c hc => isSkipped_iff.2 (h.onlyBlanks c hc)]
    exact dropWhile_eq_of_head fun c hc => Bool.eq_false_iff.2 (mt isSkipped_iff.1 (h.allBlanks c hc))
  unfold value
  rw [hleft]
  rcases h.oneSign with hsign | hsign | hsign
  · have hany := h.anySign hsign
    rw [hsign, List.nil_append]
    split
    · next hc => exact absurd rfl (hany '-' (by rw [hc]; rfl)).2
    · next hc => exact absurd rfl (hany '+' (by rw [hc]; rfl)).1
    · exact hmagnitude
  · rw [hsign]
    exact hmagnitude
  · rw [hsign]
    exact congrArg Neg.neg hmagnitude

/-! ## Machine words -/

/-- The machine word that is closest to an integer. -/
def saturate (i : Int) : Int64 := Int64.ofInt (max Int64.minValue.toInt (min i Int64.maxValue.toInt))

/-- Minus a word; the least one has no word for that. -/
def negate? (n : Int64) : Option Int64 := if n = Int64.minValue then none else some (-n)

/-- How far a byte is above another one, if it is not below it. -/
def distance? (low b : UInt8) : Option UInt8 := if b < low then none else some (b - low)

/-- Whether a byte goes on with a character that began before it. -/
def isContinuation (b : UInt8) : Bool := 0x80 ≤ b.toNat && b.toNat < 0xC0

/-- The bytes of a text from the second one on, unless that is within a character. -/
def tail? : List UInt8 → Option (List UInt8)
  | [] => none
  | [_] => some []
  | _ :: b :: bytes => if isContinuation b then none else some (b :: bytes)

def isDigitByte (b : UInt8) : Bool := 0x30 ≤ b.toNat && b.toNat ≤ 0x39

/-- One more digit: the product stops at the ends of the words, and so does the sum. -/
def addDigit? (acc : Int64) (b : UInt8) : Option Int64 := do
  let d ← distance? 0x30 b
  return saturate ((saturate (acc.toInt * 10)).toInt + d.toNat)

def magnitude? (bytes : List UInt8) : Option Int64 := (bytes.takeWhile isDigitByte).foldlM addDigit? 0

/-- The integer that a text begins with, read from its bytes and counted in machine words, if no step fails. -/
def read? (text : List Char) : Option Int64 :=
  let bytes := encode (text.dropWhile isSkipped)
  if bytes.head? = some 0x2D then ((tail? bytes).bind magnitude?).bind negate?
  else if bytes.head? = some 0x2B then (tail? bytes).bind magnitude?
  else magnitude? bytes

/-! ## Steps that do not fail -/

theorem toInt_saturate (i : Int) : (saturate i).toInt = max (-9223372036854775808) (min i 9223372036854775807) := by
  have hleast : Int64.minValue.toInt = -9223372036854775808 := rfl
  have hgreatest : Int64.maxValue.toInt = 9223372036854775807 := rfl
  rw [saturate, hleast, hgreatest]
  exact Int64.toInt_ofInt_of_le (by omega) (by omega)

theorem isDigit_iff {c : Char} : c.isDigit = true ↔ 0x30 ≤ c.toNat ∧ c.toNat ≤ 0x39 := by
  rw [Char.isDigit, Bool.and_eq_true, decide_eq_true_eq, decide_eq_true_eq, ge_iff_le, UInt32.le_iff_toNat_le,
    UInt32.le_iff_toNat_le]
  rfl

/-- A digit that is added to a magnitude gives a magnitude. -/
theorem addDigit?_digit {acc : Int64} (hacc : 0 ≤ acc.toInt) {c : Char} (hc : c.isDigit = true) :
    ∃ n, addDigit? acc (UInt8.ofNat c.toNat) = some n ∧ n.toInt = addDigit acc.toInt c ∧ 0 ≤ n.toInt := by
  obtain ⟨hlow, hhigh⟩ := isDigit_iff.1 hc
  have hsmall : c.toNat < 256 := by omega
  have hbyte : (UInt8.ofNat c.toNat).toNat = c.toNat := UInt8.toNat_ofNat_of_lt' hsmall
  have hdistance : distance? 0x30 (UInt8.ofNat c.toNat) = some (UInt8.ofNat c.toNat - 0x30) :=
    if_neg (by rw [UInt8.lt_iff_toNat_lt, hbyte]; exact Nat.not_lt.2 hlow)
  have hd : (UInt8.ofNat c.toNat - 0x30).toNat = c.toNat - '0'.toNat := by
    rw [UInt8.toNat_sub_of_le _ _ (by rw [UInt8.le_iff_toNat_le, hbyte]; exact hlow), hbyte]
    rfl
  refine ⟨_, by rw [addDigit?, hdistance]; rfl, ?_, ?_⟩
  · rw [toInt_saturate, toInt_saturate, hd]
    unfold addDigit limit
    omega
  · rw [toInt_saturate, toInt_saturate]
    omega

theorem foldlM_addDigit? : ∀ (digits : List Char) (acc : Int64), 0 ≤ acc.toInt → (∀ c ∈ digits, c.isDigit = true) →
    ∃ n, (digits.map fun c => UInt8.ofNat c.toNat).foldlM addDigit? acc = some n ∧
      n.toInt = digits.foldl addDigit acc.toInt ∧ 0 ≤ n.toInt
  | [], acc, hacc, _ => ⟨acc, rfl, rfl, hacc⟩
  | c :: digits, acc, hacc, h => by
    obtain ⟨next, hnext, heq, hpos⟩ := addDigit?_digit hacc (h c List.mem_cons_self)
    obtain ⟨n, hn, hfold, hn0⟩ := foldlM_addDigit? digits next hpos fun d hd => h d (List.mem_cons_of_mem c hd)
    refine ⟨n, ?_, ?_, hn0⟩
    · rw [List.map_cons, List.foldlM_cons, hnext]
      exact hn
    · rw [List.foldl_cons, ← heq]
      exact hfold

theorem isDigitByte_ofNat {c : Char} (h : c.toNat < 0x80) : isDigitByte (UInt8.ofNat c.toNat) = c.isDigit := by
  have hsmall : c.toNat < 256 := by omega
  rw [Bool.eq_iff_iff, isDigit_iff, isDigitByte, UInt8.toNat_ofNat_of_lt' hsmall, Bool.and_eq_true,
    decide_eq_true_eq, decide_eq_true_eq]

/-- Among the bytes of a text, those of its first digits are the first that are bytes of digits. -/
theorem takeWhile_encode (cs : List Char) :
    (encode cs).takeWhile isDigitByte = (cs.takeWhile Char.isDigit).map fun c => UInt8.ofNat c.toNat := by
  induction cs with
  | nil => rfl
  | cons c cs ih =>
    rw [encode_cons]
    by_cases hascii : c.toNat < 0x80
    · have hbyte := isDigitByte_ofNat hascii
      rw [encodeChar_ascii hascii, List.singleton_append, List.takeWhile_cons, List.takeWhile_cons, hbyte]
      cases c.isDigit with
      | true => exact congrArg _ ih
      | false => rfl
    · obtain ⟨b, rest, hb, hbig⟩ := encodeChar_beyond (Nat.le_of_not_lt hascii)
      have hbyte : isDigitByte b = false := by
        simp only [isDigitByte, Bool.and_eq_false_iff, decide_eq_false_iff_not]
        omega
      have hdigit : c.isDigit = false := by
        rw [Bool.eq_false_iff, ne_eq, isDigit_iff]
        omega
      rw [hb, List.cons_append, List.takeWhile_cons, List.takeWhile_cons, hbyte, hdigit]
      rfl

/-- The digits that a text begins with are counted as the words can. -/
theorem magnitude?_encode (cs : List Char) :
    ∃ n, magnitude? (encode cs) = some n ∧ n.toInt = magnitude cs ∧ 0 ≤ n.toInt := by
  unfold magnitude? magnitude
  rw [takeWhile_encode]
  exact foldlM_addDigit? _ 0 (Int.le_refl 0) fun c hc => List.mem_takeWhile_imp hc

/-- No character begins with a byte that goes on with another. -/
theorem encodeChar_begins (c : Char) : ∃ b rest, encodeChar c = b :: rest ∧ isContinuation b = false := by
  by_cases hascii : c.toNat < 0x80
  · have hsmall : c.toNat < 256 := by omega
    refine ⟨_, _, encodeChar_ascii hascii, ?_⟩
    rw [isContinuation, UInt8.toNat_ofNat_of_lt' hsmall, decide_eq_false (Nat.not_le.2 hascii), Bool.false_and]
  · obtain ⟨b, rest, hb, hbig⟩ := encodeChar_beyond (Nat.le_of_not_lt hascii)
    exact ⟨b, rest, hb, by rw [isContinuation, decide_eq_false (Nat.not_lt.2 hbig), Bool.and_false]⟩

/-- A text is cut after a character that is a byte of its own. -/
theorem tail?_encode {c : Char} (h : c.toNat < 0x80) (cs : List Char) :
    tail? (encode (c :: cs)) = some (encode cs) := by
  rw [encode_cons, encodeChar_ascii h]
  cases cs with
  | nil => rfl
  | cons d cs =>
    obtain ⟨b, rest, hb, hbegins⟩ := encodeChar_begins d
    rw [encode_cons, hb]
    exact if_neg (by rw [hbegins]; exact Bool.false_ne_true)

theorem negate?_magnitude {n : Int64} (h : 0 ≤ n.toInt) : ∃ m, negate? n = some m ∧ m.toInt = -n.toInt := by
  have hleast : n ≠ Int64.minValue := by
    rintro rfl
    exact absurd h (by decide)
  have hhigh := n.toInt_lt
  refine ⟨-n, if_neg hleast, ?_⟩
  rw [Int64.toInt_neg, Int.bmod_eq_of_le (by omega) (by omega)]

/-- The reader over bytes comes to the integer of the text, whatever the text is. -/
theorem read?_eq (text : List Char) : ∃ n, read? text = some n ∧ n.toInt = value text := by
  obtain ⟨left, hleft⟩ : ∃ left, text.dropWhile isSkipped = left := ⟨_, rfl⟩
  have hminus : (encode left).head? = some 0x2D ↔ left.head? = some '-' := @head?_encode '-' (by decide) left
  have hplus : (encode left).head? = some 0x2B ↔ left.head? = some '+' := @head?_encode '+' (by decide) left
  unfold read? value
  rw [hleft]
  dsimp only
  split
  · next hhead =>
    obtain ⟨rest, rfl⟩ := List.head?_eq_some_iff.1 (hminus.1 hhead)
    obtain ⟨n, hn, hmagnitude, hpos⟩ := magnitude?_encode rest
    obtain ⟨m, hm, hneg⟩ := negate?_magnitude hpos
    refine ⟨m, ?_, hneg.trans (congrArg Neg.neg hmagnitude)⟩
    rw [tail?_encode (by decide), Option.bind_some, hn, Option.bind_some, hm]
  · next hnotMinus =>
    split
    · next hhead =>
      obtain ⟨rest, rfl⟩ := List.head?_eq_some_iff.1 (hplus.1 hhead)
      obtain ⟨n, hn, hmagnitude, -⟩ := magnitude?_encode rest
      refine ⟨n, ?_, hmagnitude⟩
      rw [tail?_encode (by decide), Option.bind_some, hn]
    · next hnotPlus =>
      obtain ⟨n, hn, hmagnitude, -⟩ := magnitude?_encode left
      refine ⟨n, hn, ?_⟩
      split
      · exact absurd (hminus.2 rfl) hnotMinus
      · exact absurd (hplus.2 rfl) hnotPlus
      · exact hmagnitude

/-- The integer that a text begins with has the magnitude that all its digits write, or that of the greatest word where
this is less, and the sign before them. What comes after the digits can be cut off, and the reader over bytes comes to
the integer without a step that fails. -/
theorem value_exact (text : List Char) :
    (∃ blanks sign digits rest, Parts text blanks sign digits rest) ∧
    (∀ blanks sign digits rest, Parts text blanks sign digits rest →
      value text = signed sign (min (Nat.ofDigitChars 10 digits 0) 9223372036854775807) ∧
      value (blanks ++ sign ++ digits) = value text) ∧
    ∃ n : Int64, read? text = some n ∧ n.toInt = value text := by
  refine ⟨exists_parts text, fun blanks sign digits rest h => ⟨value_of_parts h, ?_⟩, read?_eq text⟩
  rw [value_of_parts h, value_of_parts h.cut]

/-- A run of digits that no word holds, between blanks and a sign and a character of two bytes. -/
theorem long_run_stops :
    let text := "\t\x0b -0099999999999999999999é7".toList
    let digits := "0099999999999999999999".toList
    Parts text ['\t', '\x0b', ' '] ['-'] digits ['é', '7'] ∧
    value text = -9223372036854775807 ∧
    value (['\t', '\x0b', ' '] ++ ['-'] ++ digits) = value text ∧
    ∃ n : Int64, read? text = some n ∧ n.toInt = -9223372036854775807 := by
  intro text digits
  have hblanks : ['\t', '\x0b', ' '].all isSkipped = true := by decide
  have hdigits : digits.all Char.isDigit = true := by decide +kernel
  have hparts : Parts text ['\t', '\x0b', ' '] ['-'] digits ['é', '7'] :=
    { parted := by decide +kernel
      onlyBlanks := fun c hc => isSkipped_iff.1 (List.all_eq_true.1 hblanks c hc)
      allBlanks := fun c hc => Option.some.inj hc ▸ by decide
      oneSign := .inr (.inr rfl)
      anySign := nofun
      onlyDigits := List.all_eq_true.1 hdigits
      allDigits := fun c hc => Option.some.inj hc ▸ rfl }
  have hstop : signed ['-'] (min (Nat.ofDigitChars 10 digits 0) 9223372036854775807) = -9223372036854775807 := by
    decide +kernel
  obtain ⟨-, hall, n, hn, hvalue⟩ := value_exact text
  obtain ⟨hinteger, hcut⟩ := hall _ _ _ _ hparts
  exact ⟨hparts, hinteger.trans hstop, hcut, n, hn, (hvalue.trans hinteger).trans hstop⟩

end UsbInventory.Leading
