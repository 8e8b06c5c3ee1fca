/-
Numerals as they may be spelled: digits of a base, the most significant first, with letters in either case and any
number of zeros in front. Whatever fits under the bound of a reader is read as the number that it spells.
-/
import Mathlib.Tactic.IntervalCases
import UsbInventory.Number.Numeral

namespace UsbInventory.Numeral

/-- Whether a character stands for a digit; a letter may be in either case. -/
def IsDigit (d : Nat) (c : Char) : Prop := c = Nat.digitChar d ∨ c = (Nat.digitChar d).toUpper

/-- The digits of a base that spell a number. -/
inductive Spells (base : Nat) : Nat → List Char → Prop where
  | digit {d : Nat} {c : Char} (low : d < base) (is : IsDigit d c) : Spells base d [c]
  | next {n d : Nat} {cs : List Char} {c : Char} (above : Spells base n cs) (low : d < base) (is : IsDigit d c) :
      Spells base (n * base + d) (cs ++ [c])

/-! ## Digits -/

/-- Every digit of a base up to sixteen is one of these. -/
theorem mem_of_isDigit {d : Nat} {c : Char} (hd : d < 16) (h : IsDigit d c) :
    c ∈ "0123456789abcdefABCDEF".toList := by
  unfold IsDigit at h
  interval_cases d <;> rcases h with rfl | rfl <;> decide

theorem isDigit_of_isDigit {d : Nat} {c : Char} (hd : d < 10) (h : IsDigit d c) : c.isDigit = true := by
  unfold IsDigit at h
  interval_cases d <;> rcases h with rfl | rfl <;> decide

theorem digitValue?_of_isDigit {d : Nat} {c : Char} (hd : d < 16) (h : IsDigit d c) : digitValue? c = some d := by
  unfold IsDigit at h
  interval_cases d <;> rcases h with rfl | rfl <;> rfl

namespace Spells

variable {base n : Nat} {cs : List Char}

theorem ne_nil (h : Spells base n cs) : cs ≠ [] := by
  cases h <;> simp

theorem digit_of_mem (h : Spells base n cs) {c : Char} (hc : c ∈ cs) : ∃ d < base, IsDigit d c := by
  induction h with
  | digit low is =>
    obtain rfl := List.mem_singleton.1 hc
    exact ⟨_, low, is⟩
  | next above low is ih =>
    rcases List.mem_append.1 hc with hc | hc
    · exact ih hc
    · obtain rfl := List.mem_singleton.1 hc
      exact ⟨_, low, is⟩

theorem zero_cons (h : Spells base n cs) : Spells base n ('0' :: cs) := by
  induction h with
  | @digit d c low is =>
    have hzero : Spells base 0 ['0'] := .digit (Nat.zero_lt_of_lt low) (.inl rfl)
    have h := hzero.next low is
    rwa [Nat.zero_mul, Nat.zero_add] at h
  | next above low is ih => exact ih.next low is

/-- Zeros in front do not change what is spelled. -/
theorem zeros (h : Spells base n cs) : ∀ count : Nat, Spells base n (List.replicate count '0' ++ cs)
  | 0 => h
  | count + 1 => (h.zeros count).zero_cons

end Spells

/-- The digits that a number is printed with spell it. -/
theorem spells_toDigits {base : Nat} (hbase : 1 < base) (n : Nat) : Spells base n (Nat.toDigits base n) := by
  induction n using Nat.strong_induction_on with
  | _ n ih =>
    by_cases hn : n < base
    · rw [Nat.toDigits_of_lt_base hn]
      exact .digit hn (.inl rfl)
    · have hle := Nat.not_lt.1 hn
      have hlow : n % base < base := Nat.mod_lt n (by omega)
      have h := (ih (n / base) (Nat.div_lt_self (by omega) hbase)).next hlow (.inl rfl)
      rw [Nat.div_add_mod'] at h
      rwa [Nat.toDigits_of_base_le hbase hle]

/-! ## Reading -/

theorem readDigits_append (base bound : Nat) (fault : Fault) (ds : List Char) : ∀ (cs : List Char) (acc : Nat),
    readDigits base bound fault acc (cs ++ ds) =
      (readDigits base bound fault acc cs).bind fun n => readDigits base bound fault n ds
  | [], _ => rfl
  | c :: cs, acc => by
    rw [List.cons_append, readDigits, readDigits]
    split
    · split
      · rfl
      · split
        · rfl
        · exact readDigits_append base bound fault ds cs _
    · rfl

theorem readDigits_digit {base bound acc d : Nat} {c : Char} (hbase : base ≤ 16) (low : d < base) (is : IsDigit d c)
    (hb : acc * base + d ≤ bound) (fault : Fault) : readDigits base bound fault acc [c] = .ok (acc * base + d) := by
  rw [readDigits, digitValue?_of_isDigit (Nat.lt_of_lt_of_le low hbase) is]
  dsimp only
  rw [if_neg (Nat.not_le.2 low), if_neg (Nat.not_lt.2 hb), readDigits]

namespace Spells

variable {base bound n : Nat} {cs : List Char}

theorem readDigits (h : Spells base n cs) (hbase : base ≤ 16) (hb : n ≤ bound) (fault : Fault) :
    Numeral.readDigits base bound fault 0 cs = .ok n := by
  induction h with
  | @digit d c low is =>
    have hd : 0 * base + d ≤ bound := by omega
    rw [readDigits_digit hbase low is hd]
    simp
  | @next n d cs c above low is ih =>
    have hn : n ≤ n * base := Nat.le_mul_of_pos_right n (Nat.zero_lt_of_lt low)
    rw [readDigits_append, ih (by omega)]
    exact readDigits_digit hbase low is hb fault

theorem readMagnitude (h : Spells base n cs) (hbase : base ≤ 16) (hb : n ≤ bound) (fault : Fault) :
    Numeral.readMagnitude base bound fault cs = .ok n := by
  rw [Numeral.readMagnitude, if_neg (by simpa using h.ne_nil), h.readDigits hbase hb]

/-- Digits alone are a numeral of either kind. -/
theorem not_signed (h : Spells base n cs) (hbase : base ≤ 16) : ∀ rest, cs ≠ '+' :: rest ∧ cs ≠ '-' :: rest := by
  have hsign : ∀ c ∈ cs, c ≠ '+' ∧ c ≠ '-' := by
    intro c hc
    obtain ⟨d, low, is⟩ := h.digit_of_mem hc
    have hm := mem_of_isDigit (Nat.lt_of_lt_of_le low hbase) is
    constructor <;> (rintro rfl; revert hm; decide)
  intro rest
  constructor
  · rintro rfl
    exact (hsign '+' List.mem_cons_self).1 rfl
  · rintro rfl
    exact (hsign '-' List.mem_cons_self).2 rfl

theorem unsigned (h : Spells base n cs) (hbase : base ≤ 16) (hb : n ≤ bound) :
    Numeral.unsigned base bound cs = .ok n := by
  unfold Numeral.unsigned
  split
  · exact absurd rfl h.ne_nil
  · next rest => exact absurd rfl (h.not_signed hbase rest).1
  · exact h.readMagnitude hbase hb .tooLarge

/-- Digits spell one number. -/
theorem unique {m : Nat} (h : Spells base n cs) (h' : Spells base m cs) (hbase : base ≤ 16) : m = n := by
  have hn := h.unsigned hbase (Nat.le_max_left n m)
  have hm := h'.unsigned hbase (Nat.le_max_right n m)
  exact Except.ok.inj (hm.symm.trans hn)

theorem signed (h : Spells base n cs) (hbase : base ≤ 16) (hb : n ≤ bound) :
    Numeral.signed base bound cs = .ok (n : Int) := by
  unfold Numeral.signed
  split
  · exact absurd rfl h.ne_nil
  · next rest => exact absurd rfl (h.not_signed hbase rest).1
  · next rest => exact absurd rfl (h.not_signed hbase rest).2
  · rw [h.readMagnitude hbase hb]
    rfl

end Spells

end UsbInventory.Numeral
