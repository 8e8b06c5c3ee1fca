/-
Numbers that are written in decimal read back as the integer that a text begins with. The reader goes from digit to
digit with the value of the digits read so far and stops at the limit, and what it comes to is the value of all digits,
or the limit where that is less.
-/
import Mathlib.Data.List.TakeWhile
import UsbInventory.Number.Leading

namespace UsbInventory

/-! ## Digits -/

namespace Decimal

theorem isDigit_of_mem {n : Nat} {c : Char} (h : c ∈ Nat.toDigits 10 n) : c.isDigit = true :=
  Nat.isDigit_of_mem_toDigits (by decide) (by decide) h

/-- A decimal text begins with a digit. -/
theorem toDigits_cons (n : Nat) : ∃ c digits, Nat.toDigits 10 n = c :: digits ∧ c.isDigit = true := by
  obtain ⟨c, digits, h⟩ := List.exists_cons_of_ne_nil (Nat.toDigits_ne_nil (n := n) (b := 10))
  exact ⟨c, digits, h, isDigit_of_mem (h ▸ List.mem_cons_self)⟩

theorem notMem_toDigits {n : Nat} {c : Char} (h : c.isDigit = false) : c ∉ Nat.toDigits 10 n := by
  intro hm
  rw [isDigit_of_mem hm] at h
  cases h

theorem toDigits_inj {m n : Nat} (h : Nat.toDigits 10 m = Nat.toDigits 10 n) : m = n := by
  rw [← Nat.ofDigitChars_ten_toDigits (n := m), h, Nat.ofDigitChars_ten_toDigits]

/-- Only zero is written with a zero in front. -/
theorem eq_zero_of_toDigits {n : Nat} {digits : List Char} (h : Nat.toDigits 10 n = '0' :: digits) : n = 0 := by
  induction n using Nat.strong_induction_on generalizing digits with
  | _ n ih =>
    by_cases hn : n < 10
    · rw [Nat.toDigits_of_lt_base hn] at h
      have hzero : ∀ m < 10, Nat.digitChar m = '0' → m = 0 := by decide
      exact hzero n hn (List.cons.inj h).1
    · rw [Nat.toDigits_of_base_le (by decide) (by omega)] at h
      obtain ⟨c, front, hfront, -⟩ := toDigits_cons (n / 10)
      rw [hfront, List.cons_append] at h
      have hzero : Nat.toDigits 10 (n / 10) = '0' :: front := by rw [hfront, (List.cons.inj h).1]
      have := ih (n / 10) (by omega) hzero
      omega

theorem toString_toList (n : Nat) : (toString n).toList = Nat.toDigits 10 n := by simp

/-- A digit is a character of its own. -/
theorem ne_of_isDigit {c d : Char} (hc : c.isDigit = true) (hd : d.isDigit = false) : c ≠ d := by
  rintro rfl
  rw [hc] at hd
  cases hd

/-- A digit is none of some marks that are no digits. -/
theorem notMem_of_isDigit {c : Char} (hc : c.isDigit = true) {marks : List Char}
    (h : marks.any Char.isDigit = false) : c ∉ marks := by
  intro hm
  rw [List.any_eq_false] at h
  exact h c hm hc

end Decimal

open Decimal

/-! ## The integer that a text begins with -/

namespace Leading

/-- Stopping at the limit with every digit is the same as stopping there once, at the end. -/
theorem foldl_addDigit : ∀ (digits : List Char) (acc : Nat), digits.foldl addDigit (min (acc : Int) limit) =
    min ((Nat.ofDigitChars 10 digits acc : Nat) : Int) limit
  | [], _ => rfl
  | c :: digits, acc => by
    have hstep : addDigit (min (acc : Int) limit) c =
        min ((10 * acc + (c.toNat - '0'.toNat) : Nat) : Int) limit := by
      unfold addDigit limit
      omega
    rw [List.foldl_cons, hstep, Nat.ofDigitChars_cons]
    exact foldl_addDigit digits _

theorem magnitude_eq (cs : List Char) :
    magnitude cs = min ((Nat.ofDigitChars 10 (cs.takeWhile Char.isDigit) 0 : Nat) : Int) limit :=
  foldl_addDigit (cs.takeWhile Char.isDigit) 0

/-- A number that is written in decimal reads back. -/
theorem value_toDigits {n : Nat} (h : (n : Int) ≤ limit) : value (Nat.toDigits 10 n) = n := by
  obtain ⟨c, digits, hn, hc⟩ := toDigits_cons n
  have hall : ∀ d ∈ c :: digits, d.isDigit = true := fun d hm => isDigit_of_mem (hn ▸ hm)
  have hsum : Nat.ofDigitChars 10 (c :: digits) 0 = n := hn ▸ Nat.ofDigitChars_ten_toDigits
  have hmag : magnitude (c :: digits) = n := by
    rw [magnitude_eq, List.takeWhile_eq_self_iff.2 hall, hsum]
    exact Int.min_eq_left h
  have hskip : isSkipped c = false := by
    unfold isSkipped
    simp [ne_of_isDigit hc]
  unfold value
  rw [hn, List.dropWhile_cons_of_neg (by rw [hskip]; exact Bool.false_ne_true)]
  split
  · next rest he => exact absurd (List.cons.inj he).1 (ne_of_isDigit hc rfl)
  · next rest he => exact absurd (List.cons.inj he).1 (ne_of_isDigit hc rfl)
  · exact hmag

end Leading

end UsbInventory
