/-
Property files as they may be written: integers in decimal or as the hexadecimal digits of their 32-bit pattern, with
blanks between them and perhaps at the ends. Reading such a file gives back the integers, in order.
-/
import UsbInventory.DeviceTree.Snapshot
import UsbInventory.Proofs.Number.Spelling
import UsbInventory.Proofs.Text.Words

namespace UsbInventory

open Numeral

namespace Snapshot

/-! ## Spellings -/

/-- The words that an integer of 32 bits may be written as. -/
inductive Word : Int → List Char → Prop where
  | decimal {n : Nat} {cs : List Char} (is : Spells 10 n cs) (fits : n ≤ 0x7FFFFFFF) : Word n cs
  | plus {n : Nat} {cs : List Char} (is : Spells 10 n cs) (fits : n ≤ 0x7FFFFFFF) : Word n ('+' :: cs)
  | minus {n : Nat} {cs : List Char} (is : Spells 10 n cs) (fits : n ≤ 0x80000000) : Word (-n) ('-' :: cs)
  /-- The digits are those of the two's complement pattern. -/
  | pattern {n : Nat} {cs : List Char} {x : Char} {v : Int} (marked : x = 'x' ∨ x = 'X') (is : Spells 16 n cs)
      (low : -0x80000000 ≤ v) (high : v ≤ 0x7FFFFFFF) (same : v % 0x100000000 = n) : Word v ('0' :: x :: cs)

/-- The texts that a list of integers may be written as. -/
inductive Listing : List Int → List Char → Prop where
  | nil {blanks : List Char} (blank : ∀ c ∈ blanks, Text.isBlank c = true) : Listing [] blanks
  | cons {v : Int} {vs : List Int} {blanks word rest : List Char} (blank : ∀ c ∈ blanks, Text.isBlank c = true)
      (is : Word v word) (apart : ∀ c ∈ rest.head?, Text.isBlank c = true) (more : Listing vs rest) :
      Listing (v :: vs) (blanks ++ word ++ rest)

/-- A word alone lists its integer. -/
theorem Listing.single {v : Int} {word : List Char} (h : Word v word) : Listing [v] word := by
  have hlisting : Listing [v] ([] ++ word ++ []) :=
    .cons (List.forall_mem_nil _) h nofun (.nil (List.forall_mem_nil _))
  rwa [List.nil_append, List.append_nil] at hlisting

/-! ## Reading -/

theorem ofPattern_eq {v : Int} {n : Nat} (low : -0x80000000 ≤ v) (high : v ≤ 0x7FFFFFFF)
    (same : v % 0x100000000 = n) : ofPattern n = v := by
  unfold ofPattern
  split <;> omega

theorem parseWord_decimal {cs : List Char} (h : ∀ x rest, x = 'x' ∨ x = 'X' → cs ≠ '0' :: x :: rest) :
    parseWord cs = signed 10 0x7FFFFFFF cs := by
  unfold parseWord
  split
  · exact absurd rfl (h 'x' _ (.inl rfl))
  · exact absurd rfl (h 'X' _ (.inr rfl))
  · rfl

/-- An integer reads back from each of its words. -/
theorem Word.parseWord {v : Int} {word : List Char} (h : Word v word) : Snapshot.parseWord word = .ok v := by
  cases h with
  | decimal is fits =>
    rw [parseWord_decimal, is.signed (by decide) fits]
    rintro x rest hx rfl
    obtain ⟨d, low, hd⟩ := is.digit_of_mem (List.mem_cons_of_mem _ List.mem_cons_self)
    have hdigit := isDigit_of_isDigit low hd
    rcases hx with rfl | rfl <;> cases hdigit
  | plus is fits =>
    rw [parseWord_decimal fun x rest _ he => by cases he]
    show (readMagnitude 10 0x7FFFFFFF .tooLarge _).map Int.ofNat = _
    rw [is.readMagnitude (by decide) fits]
    rfl
  | @minus n cs is fits =>
    rw [parseWord_decimal fun x rest _ he => by cases he]
    show (readMagnitude 10 0x80000000 .tooSmall cs).map (fun n => -(n : Int)) = _
    rw [is.readMagnitude (by decide) fits]
    rfl
  | @pattern n cs x v marked is low high same =>
    have hread : (unsigned 16 0xFFFFFFFF cs).map ofPattern = .ok v := by
      rw [is.unsigned (by decide) (by omega), ← ofPattern_eq low high same]
      rfl
    rcases marked with rfl | rfl <;> exact hread

theorem Word.ne_nil {v : Int} {word : List Char} (h : Word v word) : word ≠ [] := by
  cases h with
  | decimal is fits => exact is.ne_nil
  | plus is fits => exact List.cons_ne_nil _ _
  | minus is fits => exact List.cons_ne_nil _ _
  | pattern marked is low high same => exact List.cons_ne_nil _ _

/-- A word has no blanks. -/
theorem Word.solid {v : Int} {word : List Char} (h : Word v word) : ∀ c ∈ word, Text.isBlank c = false := by
  have hdigits : ∀ {base n : Nat} {cs : List Char}, Spells base n cs → base ≤ 16 →
      ∀ c ∈ cs, Text.isBlank c = false := by
    intro base n cs is hbase c hc
    obtain ⟨d, low, hd⟩ := is.digit_of_mem hc
    have hall : "0123456789abcdefABCDEF".toList.all (fun c => !Text.isBlank c) = true := by decide
    have hsolid := List.all_eq_true.1 hall c (mem_of_isDigit (Nat.lt_of_lt_of_le low hbase) hd)
    rwa [Bool.not_eq_true'] at hsolid
  cases h with
  | decimal is fits => exact hdigits is (by decide)
  | plus is fits => exact List.forall_mem_cons.2 ⟨rfl, hdigits is (by decide)⟩
  | minus is fits => exact List.forall_mem_cons.2 ⟨rfl, hdigits is (by decide)⟩
  | pattern marked is low high same =>
    have hmark : ∀ {x : Char}, x = 'x' ∨ x = 'X' → Text.isBlank x = false := by
      rintro x (rfl | rfl) <;> rfl
    exact List.forall_mem_cons.2 ⟨rfl, List.forall_mem_cons.2 ⟨hmark marked, hdigits is (by decide)⟩⟩

/-- A listing reads back as the integers that it lists. -/
theorem Listing.parseValues {vs : List Int} {text : List Char} (h : Listing vs text) :
    Snapshot.parseValues text = .ok vs := by
  have hskip : ∀ {blanks : List Char}, (∀ c ∈ blanks, Text.isBlank c = true) → ∀ c ∈ blanks,
      (!Text.isBlank c) = false := fun h c hc => by rw [h c hc]; rfl
  unfold Snapshot.parseValues Text.words
  induction h with
  | @nil blanks blank =>
    have hnone := Text.runsOf_skip (hskip blank) []
    rw [List.append_nil] at hnone
    rw [hnone]
    rfl
  | @cons v vs blanks word rest blank is apart more ih =>
    have hapart : ∀ c ∈ rest.head?, (!Text.isBlank c) = false := fun c hc => by rw [apart c hc]; rfl
    have hsolid : ∀ c ∈ word, (!Text.isBlank c) = true := fun c hc => by rw [is.solid c hc]; rfl
    rw [List.append_assoc, Text.runsOf_skip (hskip blank), Text.runsOf_run hapart is.ne_nil hsolid, parseWords,
      is.parseWord]
    dsimp only
    rw [ih]
    rfl

end Snapshot

end UsbInventory
