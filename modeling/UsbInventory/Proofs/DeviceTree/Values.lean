/-
Which property files are read, and as what. A file is parted into words by its blanks in one way, it is read exactly if
each of its words is, and its values are those of the words, in order; otherwise the first word that is no integer makes
the property absent. A word is read as the integer that it is written for. Besides, a hexadecimal pattern may have a
plus sign behind its marker, which the rules do not know: the listings by the rules are the files that are read and have
no such word.
-/
import Mathlib.Data.List.Forall2
import UsbInventory.Proofs.DeviceTree.Properties
import UsbInventory.Proofs.DeviceTree.Listing
import UsbInventory.Proofs.Number.Acceptance
import UsbInventory.Proofs.Pass.Counters

namespace UsbInventory

open Text (Parted parted_iff)
open Numeral (Spells Unsigned)

namespace Snapshot

/-! ## One word -/

/-- A hexadecimal marker with a plus sign behind it. -/
def HasMarkedPlus (word : List Char) : Prop := ∃ x rest, (x = 'x' ∨ x = 'X') ∧ word = '0' :: x :: '+' :: rest

/-- What is read as an integer. A hexadecimal pattern may have a plus sign behind its marker. -/
inductive ReadWord : Int → List Char → Prop where
  | written {v : Int} {word : List Char} (is : Word v word) : ReadWord v word
  | plus {v : Int} {x : Char} {digits : List Char} (marked : x = 'x' ∨ x = 'X') (is : Word v ('0' :: x :: digits)) :
      ReadWord v ('0' :: x :: '+' :: digits)

/-- A pattern that is read is written for its two's complement value. -/
theorem word_pattern {x : Char} (marked : x = 'x' ∨ x = 'X') {n : Nat} {digits : List Char} (is : Spells 16 n digits)
    (fits : n ≤ 0xFFFFFFFF) : Word (ofPattern n) ('0' :: x :: digits) := by
  have hpattern : -0x80000000 ≤ ofPattern n ∧ ofPattern n ≤ 0x7FFFFFFF ∧ ofPattern n % 0x100000000 = n := by
    unfold ofPattern
    split <;> omega
  obtain ⟨low, high, same⟩ := hpattern
  exact .pattern marked is low high same

/-- A word with a marker is written as a pattern. -/
theorem Word.of_marked {x : Char} (marked : x = 'x' ∨ x = 'X') {v : Int} {digits : List Char}
    (h : Word v ('0' :: x :: digits)) : ∃ n, v = ofPattern n ∧ Spells 16 n digits ∧ n ≤ 0xFFFFFFFF := by
  cases h with
  | decimal is fits =>
    obtain ⟨d, low, hd⟩ := is.digit_of_mem (List.mem_cons_of_mem _ List.mem_cons_self)
    have hdigit := Numeral.isDigit_of_isDigit low hd
    rcases marked with rfl | rfl <;> cases hdigit
  | @pattern n _ _ _ _ is low high same => exact ⟨n, (ofPattern_eq low high same).symm, is, by omega⟩

theorem parseWord_marked {x : Char} (marked : x = 'x' ∨ x = 'X') (digits : List Char) :
    parseWord ('0' :: x :: digits) = (Numeral.unsigned 16 0xFFFFFFFF digits).map ofPattern := by
  rcases marked with rfl | rfl <;> rfl

/-- A word is read as the integer that it is written for, if a plus sign is let in behind the marker of a pattern, and
nothing else is read. -/
theorem parseWord_eq_ok_iff {word : List Char} {v : Int} : parseWord word = .ok v ↔ ReadWord v word := by
  constructor
  · intro h
    by_cases hmarked : ∃ x digits, (x = 'x' ∨ x = 'X') ∧ word = '0' :: x :: digits
    · obtain ⟨x, digits, marked, rfl⟩ := hmarked
      rw [parseWord_marked marked] at h
      obtain ⟨n, hn, rfl⟩ := Numeral.map_eq_ok_iff.1 h
      cases (Numeral.unsigned_eq_ok_iff (by decide)).1 hn with
      | digits is fits => exact .written (word_pattern marked is fits)
      | plus is fits => exact .plus marked (word_pattern marked is fits)
    · have hdecimal : ∀ x rest, x = 'x' ∨ x = 'X' → word ≠ '0' :: x :: rest :=
        fun x rest marked he => hmarked ⟨x, rest, marked, he⟩
      rw [parseWord_decimal hdecimal] at h
      rcases (Numeral.signed_eq_ok_iff (by decide)).1 h with ⟨n, rfl, hread⟩ | ⟨n, digits, rfl, rfl, is, fits⟩
      · cases hread with
        | digits is fits => exact .written (.decimal is fits)
        | plus is fits => exact .written (.plus is fits)
      · exact .written (.minus is fits)
  · intro h
    cases h with
    | written is => exact is.parseWord
    | plus marked is =>
      obtain ⟨n, rfl, hdigits, fits⟩ := is.of_marked marked
      rw [parseWord_marked marked, (Numeral.unsigned_eq_ok_iff (by decide)).2 (.plus hdigits fits)]
      rfl

theorem Word.not_markedPlus {v : Int} {word : List Char} (h : Word v word) : ¬ HasMarkedPlus word := by
  rintro ⟨x, rest, marked, rfl⟩
  obtain ⟨n, -, is, -⟩ := h.of_marked marked
  exact (is.not_signed (by decide) rest).1 rfl

/-- The rules are what is read without a plus sign behind a marker. -/
theorem word_iff {v : Int} {word : List Char} : Word v word ↔ ReadWord v word ∧ ¬ HasMarkedPlus word := by
  constructor
  · intro h
    exact ⟨.written h, h.not_markedPlus⟩
  · rintro ⟨h, hplus⟩
    cases h with
    | written is => exact is
    | plus marked is => exact absurd ⟨_, _, marked, rfl⟩ hplus

/-! ## Whole files -/

theorem parseWords_eq_ok_iff : ∀ {ws : List (List Char)} {vs : List Int},
    parseWords ws = .ok vs ↔ List.Forall₂ (fun word v => ReadWord v word) ws vs
  | [], vs => by
    rw [List.forall₂_nil_left_iff, parseWords]
    constructor
    · intro h
      exact (Except.ok.inj h).symm
    · rintro rfl
      rfl
  | word :: ws, vs => by
    rw [parseWords, List.forall₂_cons_left_iff]
    constructor
    · intro h
      split at h
      · cases h
      · next v hv =>
        obtain ⟨rest, hrest, rfl⟩ := Numeral.map_eq_ok_iff.1 h
        exact ⟨v, rest, parseWord_eq_ok_iff.1 hv, parseWords_eq_ok_iff.1 hrest, rfl⟩
    · rintro ⟨v, rest, hv, hrest, rfl⟩
      rw [parseWord_eq_ok_iff.2 hv]
      dsimp only
      rw [parseWords_eq_ok_iff.2 hrest]
      rfl

/-- The first word that is not read decides the error. -/
theorem parseWords_of_bad {word : List Char} (bad : ∀ v, ¬ ReadWord v word) (after : List (List Char)) :
    ∀ {before : List (List Char)}, (∀ w ∈ before, ∃ v, ReadWord v w) → ∃ fault, parseWord word = .error fault ∧
      parseWords (before ++ word :: after) = .error (.badInteger (String.ofList word) fault)
  | [], _ => by
    cases hw : parseWord word with
    | ok v => exact absurd (parseWord_eq_ok_iff.1 hw) (bad v)
    | error fault =>
      refine ⟨fault, rfl, ?_⟩
      rw [List.nil_append, parseWords, hw]
  | w :: before, good => by
    obtain ⟨v, hv⟩ := good w List.mem_cons_self
    obtain ⟨fault, hfault, hrest⟩ := parseWords_of_bad bad after
      fun w' hw' => good w' (List.mem_cons_of_mem w hw')
    refine ⟨fault, hfault, ?_⟩
    rw [List.cons_append, parseWords, parseWord_eq_ok_iff.2 hv]
    dsimp only
    rw [hrest]
    rfl

theorem parseValues_eq_ok_iff {text : List Char} {vs : List Int} :
    parseValues text = .ok vs ↔ ∃ ws, Parted ws text ∧ List.Forall₂ (fun word v => ReadWord v word) ws vs := by
  unfold parseValues
  rw [parseWords_eq_ok_iff]
  constructor
  · intro h
    exact ⟨Text.words text, parted_iff.2 rfl, h⟩
  · rintro ⟨ws, hws, h⟩
    rwa [hws.words_eq]

/-- The words of a listing are written for its integers. -/
theorem listing_iff_words {text : List Char} {vs : List Int} :
    Listing vs text ↔ ∃ ws, Parted ws text ∧ List.Forall₂ (fun word v => Word v word) ws vs := by
  constructor
  · intro h
    induction h with
    | nil blank => exact ⟨[], .nil blank, .nil⟩
    | @cons v vs blanks word rest blank is apart more ih =>
      obtain ⟨ws, hws, hall⟩ := ih
      exact ⟨word :: ws, .cons blank is.ne_nil is.solid apart hws, .cons is hall⟩
  · rintro ⟨ws, hws, hall⟩
    induction hws generalizing vs with
    | nil blank =>
      cases hall
      exact .nil blank
    | cons blank ne solid apart more ih =>
      cases hall with
      | cons is hall => exact .cons blank is apart (ih hall)

/-- The listings by the rules are the files that are read and have no plus sign behind a marker. -/
theorem listing_iff {text : List Char} {vs : List Int} :
    Listing vs text ↔ parseValues text = .ok vs ∧ ∀ word ∈ Text.words text, ¬ HasMarkedPlus word := by
  rw [listing_iff_words, parseValues_eq_ok_iff]
  constructor
  · rintro ⟨ws, hws, hall⟩
    have hboth : List.Forall₂ (fun word v => ¬ HasMarkedPlus word ∧ ReadWord v word) ws vs :=
      hall.imp fun _ _ is => (word_iff.1 is).symm
    obtain ⟨hplus, hread⟩ := (List.forall₂_and_left ws vs).1 hboth
    refine ⟨⟨ws, hws, hread⟩, ?_⟩
    rwa [hws.words_eq]
  · rintro ⟨⟨ws, hws, hread⟩, hplus⟩
    rw [hws.words_eq] at hplus
    have hboth := (List.forall₂_and_left ws vs).2 ⟨hplus, hread⟩
    exact ⟨ws, hws, hboth.imp fun _ _ h => word_iff.2 h.symm⟩

/-! ## Look-ups -/

section Lookups

variable {fs : FileSystem} {dir : RawPath} {property text : String}

/-- A property whose text can be had answers with what the text is read as. -/
theorem lookupIn_eq (name : isPropertyName property = true)
    (content : fs.textContent (dir.join (RawPath.ofString property)) = .ok text) :
    lookupIn fs dir property = match parseValues text.toList with
      | .ok vs => .values vs
      | .error e => .absent e := by
  unfold lookupIn
  rw [name, content]
  rfl

theorem lookupIn_eq_values_iff (name : isPropertyName property = true)
    (content : fs.textContent (dir.join (RawPath.ofString property)) = .ok text) {vs : List Int} :
    lookupIn fs dir property = .values vs ↔ parseValues text.toList = .ok vs := by
  rw [lookupIn_eq name content]
  cases parseValues text.toList with
  | error e => simp
  | ok vs' => simp

/-- What a property with a text answers, and when the rules for listings say the same. It has values exactly if each of
its words is read, and then those of the words, in order; the first word that is not read makes it absent, whatever the
others are. The listings by the rules are what is read without a plus sign behind a marker; so the rules hold of the
property, whatever its values would be, exactly if it has no values or none of its words has such a sign. -/
theorem property_read_iff (name : isPropertyName property = true)
    (content : fs.textContent (dir.join (RawPath.ofString property)) = .ok text) :
    (∀ vs, lookupIn fs dir property = .values vs ↔
      ∃ ws, Parted ws text.toList ∧ List.Forall₂ (fun word v => ReadWord v word) ws vs) ∧
    (∀ before word after, Parted (before ++ word :: after) text.toList → (∀ w ∈ before, ∃ v, ReadWord v w) →
      (∀ v, ¬ ReadWord v word) → ∃ fault, parseWord word = .error fault ∧
        lookupIn fs dir property = .absent (.badInteger (String.ofList word) fault)) ∧
    (∀ vs, Listing vs text.toList ↔
      lookupIn fs dir property = .values vs ∧ ∀ word ∈ Text.words text.toList, ¬ HasMarkedPlus word) ∧
    ((∀ vs, lookupIn fs dir property = .values vs ↔ Listing vs text.toList) ↔
      ∀ vs, lookupIn fs dir property = .values vs → ∀ word ∈ Text.words text.toList, ¬ HasMarkedPlus word) := by
  have hlisting : ∀ vs, Listing vs text.toList ↔
      lookupIn fs dir property = .values vs ∧ ∀ word ∈ Text.words text.toList, ¬ HasMarkedPlus word := by
    intro vs
    rw [listing_iff, lookupIn_eq_values_iff name content]
  refine ⟨?_, ?_, hlisting, ?_, ?_⟩
  · intro vs
    rw [lookupIn_eq_values_iff name content, parseValues_eq_ok_iff]
  · intro before word after hparted good bad
    obtain ⟨fault, hfault, hwords⟩ := parseWords_of_bad bad after good
    refine ⟨fault, hfault, ?_⟩
    rw [lookupIn_eq name content, parseValues, hparted.words_eq, hwords]
  · intro hrules vs hvs
    exact ((hlisting vs).1 ((hrules vs).1 hvs)).2
  · intro hplus vs
    constructor
    · intro hvs
      exact (hlisting vs).2 ⟨hvs, hplus vs hvs⟩
    · intro hvs
      exact ((hlisting vs).1 hvs).1

end Lookups

/-- A directory with a property by the rules and another with a plus sign behind a marker. -/
def markedFiles : FileSystem :=
  ⟨.directory [(RawPath.ofString "reg", .file (RawPath.ofString "\t-1 0XfffffffE\n+7")),
    (RawPath.ofString "marked", .file (RawPath.ofString "0x+10"))], []⟩

/-- Signed numbers and a pattern are read by the rules; with a plus sign behind the marker a pattern is read as well,
but not by the rules. -/
theorem marked_property_read :
    lookupIn markedFiles [RawPath.slash] "reg" = .values [-1, -2, 7] ∧
    Listing [-1, -2, 7] "\t-1 0XfffffffE\n+7".toList ∧
    lookupIn markedFiles [RawPath.slash] "marked" = .values [16] ∧ ¬ Listing [16] "0x+10".toList := by
  have hreg := @property_read_iff markedFiles [RawPath.slash] "reg" "\t-1 0XfffffffE\n+7" (by decide)
    (ok_of_toOption (by decide +kernel))
  have hmarked := @property_read_iff markedFiles [RawPath.slash] "marked" "0x+10" (by decide)
    (ok_of_toOption (by decide +kernel))
  have hvalues : lookupIn markedFiles [RawPath.slash] "reg" = .values [-1, -2, 7] := by decide +kernel
  have hsixteen : lookupIn markedFiles [RawPath.slash] "marked" = .values [16] := by decide +kernel
  have hwords : Text.words "\t-1 0XfffffffE\n+7".toList = ["-1".toList, "0XfffffffE".toList, "+7".toList] := by
    decide +kernel
  refine ⟨hvalues, (hreg.2.2.1 _).2 ⟨hvalues, ?_⟩, hsixteen, ?_⟩
  · rw [hwords]
    rintro word hw ⟨x, rest, -, rfl⟩
    simp at hw
  · intro hlisting
    exact ((hmarked.2.2.1 _).1 hlisting).2 "0x+10".toList (by decide) ⟨'x', "10".toList, .inl rfl, rfl⟩

/-- A plus sign behind a marker is read over, and such a property is no listing by the rules. -/
theorem not_every_property_listed :
    ¬ ∀ (fs : FileSystem) (dir : RawPath) (property text : String) (vs : List Int), isPropertyName property = true →
      fs.textContent (dir.join (RawPath.ofString property)) = .ok text →
      (lookupIn fs dir property = .values vs ↔ Listing vs text.toList) := by
  intro h
  have hsixteen : lookupIn markedFiles [RawPath.slash] "marked" = .values [16] := by decide +kernel
  have hlisting := (h markedFiles [RawPath.slash] "marked" "0x+10" [16] (by decide)
    (ok_of_toOption (by decide +kernel))).1 hsixteen
  exact (listing_iff.1 hlisting).2 "0x+10".toList (by decide) ⟨'x', "10".toList, .inl rfl, rfl⟩

end Snapshot

end UsbInventory
