/-
What is written as JSON reads back. A string is read character by character, each from its escape; a number ends where
nothing continues it; and a value is read with as many calls as its text has characters, so the length of a text bounds
the calls that its value takes. Only numbers that are none and halves of surrogate pairs have no text of their own.
-/
import Mathlib.Data.List.TakeWhile
import UsbInventory.Json.Reader
import UsbInventory.Proofs.Number.Decimal

namespace UsbInventory.Json

/-! ## Strings -/

/-- The two digits with which a control character is escaped say its number. -/
theorem fourDigits_low {n : Nat} (h : n < 32) :
    fourDigits '0' '0' (Text.digitChar (n / 16)) (Text.digitChar (n % 16)) = some n := by
  revert n
  decide

theorem readString_escapeChar (c : Char) (rest : List Char) :
    readString none (escapeChar c ++ rest) = prepend true c (readString none rest) := by
  unfold escapeChar
  split
  · subst_vars; simp [readString, unescape]
  split
  · subst_vars; simp [readString, unescape]
  split
  · subst_vars; simp [readString, unescape]
  split
  · subst_vars; simp [readString, unescape]
  split
  · subst_vars; simp [readString, unescape]
  split
  · subst_vars; simp [readString, unescape]
  split
  · subst_vars; simp [readString, unescape]
  split
  · next h =>
    have hc : Char.ofNat c.toNat = c := Char.ofNat_toNat c
    have hhigh : isHighSurrogate c.toNat = false := by simp [isHighSurrogate]; omega
    have hlow : isLowSurrogate c.toNat = false := by simp [isLowSurrogate]; omega
    simp [readString, fourDigits_low h, hhigh, hlow, hc]
  · next hback _ _ _ _ _ hlow => simp [readString, hback, hlow]

theorem readString_renderString (cs rest : List Char) :
    readString none (cs.flatMap escapeChar ++ '"' :: rest) = some (some cs, rest) := by
  induction cs with
  | nil => simp [readString]
  | cons c cs ih =>
    rw [List.flatMap_cons, List.append_assoc, readString_escapeChar, ih]
    rfl

/-! ## Numbers -/

/-- Whether a number that stands before a text ends there. -/
def EndsNumber (rest : List Char) : Prop :=
  ∀ c ∈ rest.head?, c.isDigit = false ∧ c ≠ '.' ∧ c ≠ 'e' ∧ c ≠ 'E'

/-- A reader that reads the same where a text follows at which numbers end. -/
def StopsAtEnd (read : List Char → Option (List Char × List Char)) : Prop :=
  ∀ {cs taken left rest : List Char}, EndsNumber rest → read cs = some (taken, left) →
    read (cs ++ rest) = some (taken, left ++ rest)

theorem readDigits_stops : StopsAtEnd readDigits := by
  intro cs taken left rest ends h
  simp only [readDigits, List.isEmpty_iff] at h ⊢
  split at h
  · cases h
  · next some_ =>
    simp only [Option.some.injEq, Prod.mk.injEq] at h
    obtain ⟨rfl, rfl⟩ := h
    have hrest : rest.takeWhile Char.isDigit = [] ∧ rest.dropWhile Char.isDigit = rest := by
      cases rest with
      | nil => simp
      | cons c rest => simp [(ends c rfl).1]
    have htake : (cs ++ rest).takeWhile Char.isDigit = cs.takeWhile Char.isDigit := by
      rw [List.takeWhile_append]
      split
      · next hall => simp [hrest, (List.takeWhile_prefix _).eq_of_length hall]
      · rfl
    have hdrop : (cs ++ rest).dropWhile Char.isDigit = cs.dropWhile Char.isDigit ++ rest := by
      rw [List.dropWhile_append]
      split
      · next hall => simp [hrest, List.isEmpty_iff.1 hall]
      · rfl
    simp [htake, hdrop, some_]

theorem readInteger_stops : StopsAtEnd readInteger := by
  intro cs taken left rest ends h
  simp only [readInteger, Option.bind_eq_bind, Option.bind_eq_some_iff] at h ⊢
  obtain ⟨⟨digits, more⟩, hd, h⟩ := h
  refine ⟨(digits, more ++ rest), readDigits_stops ends hd, ?_⟩
  simp only at h ⊢
  split at h
  · cases h
  · next hz =>
    rw [if_neg hz]
    simp_all

theorem readNumber_unsigned {c : Char} (h : c ≠ '-') (cs : List Char) :
    readNumber (c :: cs) = readUnsigned (c :: cs) := by
  simp [readNumber, h]

theorem readFraction_stops : StopsAtEnd readFraction := by
  intro cs taken left rest ends h
  cases cs with
  | nil =>
    simp only [readFraction, Option.some.injEq, Prod.mk.injEq] at h
    obtain ⟨rfl, rfl⟩ := h
    cases rest with
    | nil => rfl
    | cons c rest => simp [readFraction, (ends c rfl).2.1]
  | cons c cs =>
    by_cases hdot : c = '.'
    · subst hdot
      simp only [readFraction, List.cons_append, Option.map_eq_some_iff] at h ⊢
      obtain ⟨⟨digits, more⟩, hd, h⟩ := h
      refine ⟨(digits, more ++ rest), readDigits_stops ends hd, ?_⟩
      simp_all
    · simp [readFraction, hdot] at h ⊢
      obtain ⟨rfl, rfl⟩ := h
      simp

/-- The digits of an exponent after its mark and its sign. -/
theorem readExponent_digits (mark : List Char) {cs taken left rest : List Char} (ends : EndsNumber rest)
    (h : (readDigits cs).map (fun d => (mark ++ d.1, d.2)) = some (taken, left)) :
    (readDigits (cs ++ rest)).map (fun d => (mark ++ d.1, d.2)) = some (taken, left ++ rest) := by
  obtain ⟨⟨digits, more⟩, hd, he⟩ := Option.map_eq_some_iff.1 h
  rw [readDigits_stops ends hd]
  simp_all

theorem readExponent_stops : StopsAtEnd readExponent := by
  intro cs taken left rest ends h
  cases cs with
  | nil =>
    simp only [readExponent, Option.some.injEq, Prod.mk.injEq] at h
    obtain ⟨rfl, rfl⟩ := h
    cases rest with
    | nil => rfl
    | cons c rest => simp [readExponent, (ends c rfl).2.2]
  | cons c cs =>
    by_cases hmark : c = 'e' ∨ c = 'E'
    · cases cs with
      | nil => simp [readExponent, hmark, readDigits] at h
      | cons d cs =>
        by_cases hplus : d = '+'
        · subst hplus
          simp only [readExponent, hmark, if_true, List.cons_append] at h ⊢
          exact readExponent_digits [c, '+'] ends h
        · by_cases hminus : d = '-'
          · subst hminus
            simp only [readExponent, hmark, if_true, List.cons_append] at h ⊢
            exact readExponent_digits [c, '-'] ends h
          · simp [readExponent, hmark, hplus, hminus, -Option.map_eq_some_iff] at h ⊢
            exact readExponent_digits [c] ends h
    · simp [readExponent, hmark] at h ⊢
      obtain ⟨rfl, rfl⟩ := h
      simp

theorem readUnsigned_stops : StopsAtEnd readUnsigned := by
  intro cs taken left rest ends h
  simp only [readUnsigned, Option.bind_eq_bind, Option.bind_eq_some_iff] at h ⊢
  obtain ⟨⟨whole, more⟩, hw, ⟨fraction, more'⟩, hf, ⟨exponent, more''⟩, he, h⟩ := h
  simp only [pure, Option.some.injEq, Prod.mk.injEq] at h
  obtain ⟨rfl, rfl⟩ := h
  exact ⟨_, readInteger_stops ends hw, _, readFraction_stops ends hf, _, readExponent_stops ends he, rfl⟩

theorem readNumber_stops : StopsAtEnd readNumber := by
  intro cs taken left rest ends h
  cases cs with
  | nil => simp [readNumber, readUnsigned, readInteger, readDigits] at h
  | cons c cs =>
    by_cases hminus : c = '-'
    · subst hminus
      simp only [readNumber, List.cons_append, Option.map_eq_some_iff] at h ⊢
      obtain ⟨⟨written, more⟩, hd, h⟩ := h
      refine ⟨_, readUnsigned_stops ends hd, ?_⟩
      simp_all
    · simp only [readNumber_unsigned hminus, List.cons_append] at h ⊢
      exact readUnsigned_stops ends h

/-- The first character of a number is a digit or a minus. -/
theorem head_of_readNumber {cs taken left : List Char} (h : readNumber cs = some (taken, left)) :
    ∃ c rest, cs = c :: rest ∧ (c = '-' ∨ c.isDigit = true) := by
  cases cs with
  | nil => simp [readNumber, readUnsigned, readInteger, readDigits] at h
  | cons c cs =>
    refine ⟨c, cs, rfl, ?_⟩
    by_cases hminus : c = '-'
    · exact .inl hminus
    · by_contra hno
      simp [hminus] at hno
      simp [readNumber_unsigned hminus, readUnsigned, readInteger, readDigits, hno] at h

/-- A number in decimal is a number of this format. -/
theorem readNumber_toDigits (n : Nat) : readNumber (Nat.toDigits 10 n) = some (Nat.toDigits 10 n, []) := by
  have hall : ∀ c ∈ Nat.toDigits 10 n, c.isDigit = true := fun c hc => Decimal.isDigit_of_mem hc
  have hdigits : readDigits (Nat.toDigits 10 n) = some (Nat.toDigits 10 n, []) := by
    simp [readDigits, List.takeWhile_eq_self_iff.2 hall, List.dropWhile_eq_nil_iff.2 hall]
  have hzero : ¬ (1 < (Nat.toDigits 10 n).length ∧ (Nat.toDigits 10 n).head? = some '0') := by
    rintro ⟨hlong, hhead⟩
    obtain ⟨digits, h⟩ := List.head?_eq_some_iff.1 hhead
    obtain rfl := Decimal.eq_zero_of_toDigits h
    simp at hlong
  obtain ⟨c, digits, h, hc⟩ := Decimal.toDigits_cons n
  rw [h] at hdigits hzero ⊢
  have hinteger : readInteger (c :: digits) = some (c :: digits, []) := by
    simp [readInteger, hdigits]
    simpa using hzero
  rw [readNumber_unsigned (Decimal.ne_of_isDigit hc rfl)]
  simp [readUnsigned, hinteger, readFraction, readExponent]

/-! ## Values -/

/-- A value whose text reads back: its numbers are written as numbers, and none of its strings and keys is half a
surrogate pair. -/
inductive Readable : Json → Prop where
  | null : Readable null
  | bool (b : Bool) : Readable (bool b)
  | number {written : List Char} (whole : readNumber written = some (written, [])) : Readable (number written)
  | string (cs : List Char) : Readable (string (some cs))
  | array {items : List Json} (each : ∀ v ∈ items, Readable v) : Readable (array items)
  | object {members : List (Option (List Char) × Json)} (keyed : ∀ m ∈ members, m.1.isSome = true)
      (each : ∀ m ∈ members, Readable m.2) : Readable (object members)

namespace Readable

variable {v : Json}

/-- The text of a value begins with a character that is no blank and closes nothing. -/
theorem chars_eq_cons (h : Readable v) : ∃ c cs, v.chars = c :: cs ∧ isSpace c = false ∧ c ≠ ']' := by
  cases h with
  | null => exact ⟨_, _, rfl, by decide⟩
  | bool b => cases b <;> exact ⟨_, _, rfl, by decide⟩
  | @number written whole =>
    obtain ⟨c, rest, rfl, hc⟩ := head_of_readNumber whole
    refine ⟨c, rest, rfl, ?_⟩
    rcases hc with rfl | hc
    · decide
    · simp [isSpace, Decimal.ne_of_isDigit hc]
  | string cs => exact ⟨'"', _, rfl, by decide⟩
  | array each => exact ⟨'[', _, rfl, by decide⟩
  | object keyed each => exact ⟨'\x7b', _, rfl, by decide⟩

end Readable

/-- Whether the text of a value is read as that value, whatever follows that does not continue a number. -/
def ReadsBack (v : Json) : Prop :=
  ∀ (fuel : Nat) (rest : List Char), v.chars.length ≤ fuel → EndsNumber rest →
    readValue fuel (v.chars ++ rest) = some (v, rest)

theorem endsNumber_cons {c : Char} (rest : List Char) (h : c = ',' ∨ c = ']' ∨ c = '\x7d') :
    EndsNumber (c :: rest) := by
  intro d hd
  cases hd
  rcases h with rfl | rfl | rfl <;> decide

theorem length_chars_pos {v : Json} (h : Readable v) : 0 < v.chars.length := by
  obtain ⟨c, cs, hv, -⟩ := h.chars_eq_cons
  simp [hv]

/-- The items of an array are read one after the other, each with the calls that are left. -/
theorem readItems_chars {rest : List Char} : ∀ {items : List Json} {fuel : Nat}, items ≠ [] →
    (∀ v ∈ items, ReadsBack v) → (itemChars items).length + 1 ≤ fuel →
    readItems fuel (itemChars items ++ ']' :: rest) = some (items, rest)
  | [], _, hne, _, _ => absurd rfl hne
  | [v], 0, _, _, hf => by omega
  | [v], fuel + 1, _, h, hf => by
    have hv := h v List.mem_cons_self
    simp only [itemChars] at hf ⊢
    rw [readItems, hv _ _ (by omega) (endsNumber_cons rest (by simp))]
    simp [skipSpace, isSpace]
  | v :: w :: items, 0, _, _, hf => by omega
  | v :: w :: items, fuel + 1, _, h, hf => by
    have hv := h v List.mem_cons_self
    simp only [itemChars, List.length_append, List.length_cons] at hf
    have ih : readItems fuel (itemChars (w :: items) ++ ']' :: rest) = some (w :: items, rest) :=
      readItems_chars (by simp) (fun u hu => h u (List.mem_cons_of_mem _ hu)) (by omega)
    simp only [itemChars, List.append_assoc, List.cons_append]
    rw [readItems, hv _ _ (by omega) (endsNumber_cons _ (by simp))]
    simp [skipSpace, isSpace, ih]

theorem readMembers_chars {rest : List Char} : ∀ {members : List (Option (List Char) × Json)} {fuel : Nat},
    members ≠ [] → (∀ m ∈ members, m.1.isSome = true) → (∀ m ∈ members, ReadsBack m.2) →
    (memberChars members).length + 1 ≤ fuel →
    readMembers fuel (memberChars members ++ '\x7d' :: rest) = some (members, rest)
  | [], _, hne, _, _, _ => absurd rfl hne
  | [(key, v)], 0, _, _, _, hf => by omega
  | [(key, v)], fuel + 1, _, hk, h, hf => by
    obtain ⟨cs, rfl⟩ := Option.isSome_iff_exists.1 (hk _ List.mem_cons_self)
    have hv : ReadsBack v := h _ List.mem_cons_self
    simp only [memberChars, renderString, Option.getD_some, List.length_cons, List.length_append,
      List.cons_append, List.append_assoc, List.nil_append] at hf ⊢
    have hkey := readString_renderString cs (':' :: (v.chars ++ '\x7d' :: rest))
    have hvalue := hv fuel _ (by omega) (endsNumber_cons rest (by simp : '\x7d' = ',' ∨ _ ∨ _))
    simp [readMembers, skipSpace, isSpace, hkey, hvalue]
  | (key, v) :: w :: members, 0, _, _, _, hf => by omega
  | (key, v) :: w :: members, fuel + 1, _, hk, h, hf => by
    obtain ⟨cs, rfl⟩ := Option.isSome_iff_exists.1 (hk _ List.mem_cons_self)
    have hv : ReadsBack v := h _ List.mem_cons_self
    simp only [memberChars, renderString, Option.getD_some, List.length_cons, List.length_append,
      List.cons_append, List.append_assoc, List.nil_append] at hf ⊢
    have ih : readMembers fuel (memberChars (w :: members) ++ '\x7d' :: rest) = some (w :: members, rest) :=
      readMembers_chars (by simp) (fun u hu => hk u (List.mem_cons_of_mem _ hu))
        (fun u hu => h u (List.mem_cons_of_mem _ hu)) (by omega)
    have hkey := readString_renderString cs (':' :: (v.chars ++ ',' :: (memberChars (w :: members) ++ '\x7d' :: rest)))
    have hvalue := hv fuel _ (by omega)
      (endsNumber_cons (memberChars (w :: members) ++ '\x7d' :: rest) (.inl (rfl : ',' = ',')))
    simp [readMembers, skipSpace, isSpace, hkey, hvalue, ih]

theorem readValue_number {c : Char} (h : c = '-' ∨ c.isDigit = true) (fuel : Nat) (cs : List Char) :
    readValue (fuel + 1) (c :: cs) =
      (readNumber (c :: cs)).map fun (written, rest) => (.number written, rest) := by
  have hother : isSpace c = false ∧ c ∉ ['n', 't', 'f', '"', '[', '\x7b'] := by
    rcases h with rfl | hd
    · decide
    · simp [isSpace, Decimal.ne_of_isDigit hd]
  simp only [List.mem_cons, not_or] at hother
  simp [readValue, skipSpace, hother]

theorem readValue_items {fuel : Nat} {c : Char} {rest cs : List Char} (h : skipSpace rest = c :: cs) (hc : c ≠ ']') :
    readValue (fuel + 1) ('[' :: rest) = (readItems fuel (c :: cs)).map fun (items, rest) => (.array items, rest) := by
  have hopen : skipSpace ('[' :: rest) = '[' :: rest := by simp [skipSpace, isSpace]
  simp [readValue, hopen, h, hc]

theorem readValue_members {fuel : Nat} {rest : List Char} :
    readValue (fuel + 1) ('\x7b' :: '"' :: rest) =
      (readMembers fuel ('"' :: rest)).map fun (members, rest) => (.object members, rest) := by
  simp [readValue, skipSpace, isSpace]

theorem readsBack_of_step {v : Json} (h : Readable v)
    (step : ∀ (fuel : Nat) (rest : List Char), v.chars.length ≤ fuel + 1 → EndsNumber rest →
      readValue (fuel + 1) (v.chars ++ rest) = some (v, rest)) : ReadsBack v := by
  intro fuel rest hf ends
  have hpos := length_chars_pos h
  obtain ⟨n, rfl⟩ := Nat.exists_eq_succ_of_ne_zero (n := fuel) (by omega)
  exact step n rest hf ends

theorem skipSpace_itemChars {items : List Json} (hne : items ≠ []) (h : ∀ v ∈ items, Readable v) (rest : List Char) :
    ∃ c cs, skipSpace (itemChars items ++ rest) = c :: cs ∧ itemChars items ++ rest = c :: cs ∧ c ≠ ']' := by
  obtain ⟨v, more, rfl⟩ := List.exists_cons_of_ne_nil hne
  obtain ⟨c, cs, hv, hc, hclose⟩ := (h v List.mem_cons_self).chars_eq_cons
  cases more with
  | nil => exact ⟨c, cs ++ rest, by simp [itemChars, hv, skipSpace, hc], by simp [itemChars, hv], hclose⟩
  | cons w more =>
    exact ⟨c, cs ++ ',' :: itemChars (w :: more) ++ rest, by simp [itemChars, hv, skipSpace, hc],
      by simp [itemChars, hv], hclose⟩

/-- A text that is written reads back. -/
theorem Readable.readsBack {v : Json} (h : Readable v) : ReadsBack v := by
  have hall := h
  induction h with
  | null => exact readsBack_of_step hall fun _ _ _ _ => by simp [chars, readValue, skipSpace, isSpace]
  | bool b => cases b <;> exact readsBack_of_step hall fun _ _ _ _ => by simp [chars, readValue, skipSpace, isSpace]
  | @number written whole =>
    refine readsBack_of_step hall fun fuel rest _ ends => ?_
    have hnumber := readNumber_stops ends whole
    obtain ⟨c, cs, rfl, hc⟩ := head_of_readNumber whole
    rw [List.cons_append] at hnumber
    rw [chars, List.cons_append, readValue_number hc, hnumber]
    rfl
  | string cs =>
    exact readsBack_of_step hall fun _ _ _ _ => by
      simp [chars, renderString, readValue, skipSpace, isSpace, readString_renderString]
  | @array items each ih =>
    refine readsBack_of_step hall fun fuel rest hf _ => ?_
    by_cases hne : items = []
    · subst hne
      simp [chars, itemChars, readValue, skipSpace, isSpace]
    · simp only [chars, List.length_cons, List.length_append, List.length_nil] at hf
      have hitems : readItems fuel (itemChars items ++ ']' :: rest) = some (items, rest) :=
        readItems_chars hne (fun v hv => ih v hv (each v hv)) (by omega)
      obtain ⟨c, cs, hskip, hcs, hclose⟩ := skipSpace_itemChars hne each (']' :: rest)
      rw [hcs] at hitems
      simp [chars, readValue_items hskip hclose, hitems]
  | @object members keyed each ih =>
    refine readsBack_of_step hall fun fuel rest hf _ => ?_
    by_cases hne : members = []
    · subst hne
      simp [chars, memberChars, readValue, skipSpace, isSpace]
    · simp only [chars, List.length_cons, List.length_append, List.length_nil] at hf
      have hmembers : readMembers fuel (memberChars members ++ '\x7d' :: rest) = some (members, rest) :=
        readMembers_chars hne keyed (fun m hm => ih m hm (each m hm)) (by omega)
      obtain ⟨cs, hcs⟩ : ∃ cs, memberChars members ++ '\x7d' :: rest = '"' :: cs := by
        obtain ⟨⟨key, v⟩, more, rfl⟩ := List.exists_cons_of_ne_nil hne
        cases more <;> simp [memberChars, renderString]
      rw [hcs] at hmembers
      simp [chars, hcs, readValue_members, hmembers]

/-- A text that is written is read as the value that wrote it. -/
theorem Readable.parse_render {v : Json} (h : Readable v) : parse v.render = some v := by
  have hread := h.readsBack (2 * v.chars.length + 2) [] (by omega) (by simp [EndsNumber])
  rw [List.append_nil] at hread
  rw [parse, render, String.toList_ofList, parseChars, hread]
  rfl

end UsbInventory.Json
