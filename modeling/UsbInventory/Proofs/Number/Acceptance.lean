/-
Which numerals the readers accept. Whatever is read are digits that spell the number, and the number is within the
bound; in front of the digits there may be a plus sign, which the reader of unsigned numerals takes as well, or a minus
sign for the reader of signed ones.
-/
import UsbInventory.Proofs.Number.Spelling

namespace UsbInventory.Numeral

/-! ## Digits -/

theorem isDigit_of_digitValue? {c : Char} {d : Nat} (h : digitValue? c = some d) : IsDigit d c := by
  have hlow : c.toNat < 128 := by
    unfold digitValue? at h
    simp only [show '0'.toNat = 48 from rfl, show '9'.toNat = 57 from rfl, show 'a'.toNat = 97 from rfl,
      show 'f'.toNat = 102 from rfl, show 'A'.toNat = 65 from rfl, show 'F'.toNat = 70 from rfl] at h
    split at h
    · omega
    · split at h
      · omega
      · split at h
        · omega
        · cases h
  have htable : ∀ n < 128, ∀ d ∈ digitValue? (Char.ofNat n),
      Char.ofNat n = Nat.digitChar d ∨ Char.ofNat n = (Nat.digitChar d).toUpper := by decide
  have hc := htable c.toNat hlow
  rw [Char.ofNat_toNat] at hc
  exact hc d h

section Reading

variable {base bound : Nat} {fault : Fault}

/-- What reading a digit says about it, and with what it goes on. -/
theorem readDigits_cons_eq_ok {acc n : Nat} {c : Char} {cs : List Char}
    (h : readDigits base bound fault acc (c :: cs) = .ok n) : ∃ d < base, IsDigit d c ∧ acc * base + d ≤ bound ∧
      readDigits base bound fault (acc * base + d) cs = .ok n := by
  rw [readDigits] at h
  split at h
  · next d hd =>
    split at h
    · cases h
    · split at h
      · cases h
      · exact ⟨d, by omega, isDigit_of_digitValue? hd, by omega, h⟩
  · cases h

/-- Digits that are read after some that spell the value so far spell the result together with these. -/
theorem spells_of_readDigits {n : Nat} : ∀ {cs before : List Char} {acc : Nat}, Spells base acc before → acc ≤ bound →
    readDigits base bound fault acc cs = .ok n → Spells base n (before ++ cs) ∧ n ≤ bound
  | [], before, acc, hs, hb, h => by
    rw [readDigits] at h
    obtain rfl := Except.ok.inj h
    exact ⟨by rwa [List.append_nil], hb⟩
  | c :: cs, before, acc, hs, _, h => by
    obtain ⟨d, low, is, fits, h⟩ := readDigits_cons_eq_ok h
    have hrest := spells_of_readDigits (hs.next low is) fits h
    rwa [List.append_assoc] at hrest

/-- A magnitude is read exactly from the digits that spell it, if it is within the bound. -/
theorem readMagnitude_eq_ok_iff (hbase : base ≤ 16) {n : Nat} {cs : List Char} :
    readMagnitude base bound fault cs = .ok n ↔ Spells base n cs ∧ n ≤ bound := by
  constructor
  · intro h
    rw [readMagnitude] at h
    cases cs with
    | nil => cases h
    | cons c cs =>
      obtain ⟨d, low, is, fits, h⟩ := readDigits_cons_eq_ok (h : readDigits base bound fault 0 (c :: cs) = .ok n)
      rw [Nat.zero_mul, Nat.zero_add] at fits h
      exact spells_of_readDigits (.digit low is) fits h
  · rintro ⟨is, fits⟩
    exact is.readMagnitude hbase fits fault

end Reading

/-! ## Signs -/

theorem map_eq_ok_iff {ε α β : Type} {f : α → β} {x : Except ε α} {b : β} :
    x.map f = .ok b ↔ ∃ a, x = .ok a ∧ f a = b := by
  cases x with
  | error e => simp [Except.map]
  | ok a => simp [Except.map]

/-- Numerals without a minus sign. -/
inductive Unsigned (base bound n : Nat) : List Char → Prop where
  | digits {cs : List Char} (is : Spells base n cs) (fits : n ≤ bound) : Unsigned base bound n cs
  | plus {cs : List Char} (is : Spells base n cs) (fits : n ≤ bound) : Unsigned base bound n ('+' :: cs)

variable {base bound : Nat} {cs : List Char}

theorem unsigned_eq_ok_iff (hbase : base ≤ 16) {n : Nat} :
    unsigned base bound cs = .ok n ↔ Unsigned base bound n cs := by
  constructor
  · intro h
    unfold unsigned at h
    split at h
    · cases h
    · obtain ⟨is, fits⟩ := (readMagnitude_eq_ok_iff hbase).1 h
      exact .plus is fits
    · obtain ⟨is, fits⟩ := (readMagnitude_eq_ok_iff hbase).1 h
      exact .digits is fits
  · intro h
    cases h with
    | digits is fits => exact is.unsigned hbase fits
    | plus is fits => exact is.readMagnitude hbase fits .tooLarge

theorem signed_minus (digits : List Char) : signed base bound ('-' :: digits) =
    (readMagnitude base (bound + 1) .tooSmall digits).map fun n : Nat => -(n : Int) := by
  rw [signed]
  cases readMagnitude base (bound + 1) .tooSmall digits <;> rfl

/-- A numeral is read with its sign: zero and above up to the bound, below zero down to one less than its opposite. -/
theorem signed_eq_ok_iff (hbase : base ≤ 16) {v : Int} : signed base bound cs = .ok v ↔
    (∃ n : Nat, v = n ∧ Unsigned base bound n cs) ∨
      ∃ (n : Nat) (digits : List Char), v = -n ∧ cs = '-' :: digits ∧ Spells base n digits ∧ n ≤ bound + 1 := by
  constructor
  · intro h
    unfold signed at h
    split at h
    · cases h
    · obtain ⟨n, hn, rfl⟩ := map_eq_ok_iff.1 h
      obtain ⟨is, fits⟩ := (readMagnitude_eq_ok_iff hbase).1 hn
      exact .inl ⟨n, rfl, .plus is fits⟩
    · next digits =>
      obtain ⟨n, hn, rfl⟩ := map_eq_ok_iff.1 ((signed_minus digits).symm.trans h)
      obtain ⟨is, fits⟩ := (readMagnitude_eq_ok_iff hbase).1 hn
      exact .inr ⟨n, digits, rfl, rfl, is, fits⟩
    · obtain ⟨n, hn, rfl⟩ := map_eq_ok_iff.1 h
      obtain ⟨is, fits⟩ := (readMagnitude_eq_ok_iff hbase).1 hn
      exact .inl ⟨n, rfl, .digits is fits⟩
  · rintro (⟨n, rfl, h⟩ | ⟨n, digits, rfl, rfl, is, fits⟩)
    · cases h with
      | digits is fits => exact is.signed hbase fits
      | plus is fits =>
        rw [signed, is.readMagnitude hbase fits]
        rfl
    · rw [signed_minus, is.readMagnitude hbase fits]
      rfl

end UsbInventory.Numeral
