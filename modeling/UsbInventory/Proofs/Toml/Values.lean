/-
Values in TOML read back. A number of digits alone is neither a date, nor a float, nor an integer to another base; an
array of strings is read item by item, over one line or over many. A value that is written is read as itself where the
line ends after it.
-/
import UsbInventory.Proofs.Number.Decimal
import UsbInventory.Proofs.Toml.Strings
import UsbInventory.Toml.Reader

namespace UsbInventory.Toml

/-! ## Integers -/

/-- A text of digits up to the end of its line. -/
def DigitLine (cs : List Char) : Prop :=
  ∃ digits rest, cs = digits ++ '\n' :: rest ∧ ∀ d ∈ digits, d.isDigit = true

/-- The first character of a line of digits is a digit or ends the line, and after a digit a line of digits follows. -/
theorem DigitLine.cases {c : Char} {cs : List Char} (h : DigitLine (c :: cs)) :
    c = '\n' ∨ c.isDigit = true ∧ DigitLine cs := by
  obtain ⟨digits, rest, hcs, hdigits⟩ := h
  rcases digits with _ | ⟨d, digits⟩
  · exact .inl (List.cons.inj hcs).1
  · obtain ⟨rfl, rfl⟩ := List.cons.inj hcs
    exact .inr ⟨hdigits c List.mem_cons_self, digits, rest, rfl, fun d hd => hdigits d (List.mem_cons_of_mem c hd)⟩

theorem DigitLine.readTwo {low high n : Nat} {cs left : List Char} (h : DigitLine cs)
    (hread : readTwo low high cs = some (n, left)) : DigitLine left := by
  rcases cs with _ | ⟨a, _ | ⟨b, cs⟩⟩
  · cases hread
  · cases hread
  · simp only [Toml.readTwo, Bool.and_eq_true] at hread
    split_ifs at hread with hdigits
    obtain ⟨-, rfl⟩ := Prod.mk.inj (Option.some.inj hread)
    rcases h.cases with rfl | ⟨-, h⟩
    · exact absurd hdigits.1 (by decide)
    rcases h.cases with rfl | ⟨-, h⟩
    · exact absurd hdigits.2 (by decide)
    exact h

theorem DigitLine.expect {c : Char} {cs : List Char} (h : DigitLine cs) (hc : c.isDigit = false) (hline : c ≠ '\n') :
    expect c cs = none := by
  rcases cs with _ | ⟨d, cs⟩
  · rfl
  · have hd : c ≠ d := by
      rintro rfl
      rcases h.cases with rfl | ⟨hdigit, -⟩
      · exact hline rfl
      · rw [hc] at hdigit
        cases hdigit
    simp [Toml.expect, hd]

/-- Digits alone are neither a date nor a time. -/
theorem DigitLine.skipDateTime? {cs : List Char} (h : DigitLine cs) : skipDateTime? cs = none := by
  have hdate : skipDate? cs = none := by
    unfold skipDate?
    cases hcentury : Toml.readTwo 0 99 cs with
    | none => rfl
    | some century =>
      have h := h.readTwo hcentury
      simp only [Option.bind_eq_bind, Option.bind_some]
      cases hyear : Toml.readTwo 0 99 century.2 with
      | none => rfl
      | some year => simp [(h.readTwo hyear).expect]
  have htime : skipTime? cs = none := by
    unfold skipTime?
    cases hhour : Toml.readTwo 0 23 cs with
    | none => rfl
    | some hour => simp [(h.readTwo hhour).expect]
  rw [Toml.skipDateTime?, hdate]
  exact htime

theorem readMoreDigits_chars {digits : List Char} (h : ∀ d ∈ digits, d.isDigit = true) (rest : List Char) :
    readMoreDigits Char.isDigit (digits ++ '\n' :: rest) = (digits, '\n' :: rest) := by
  induction digits with
  | nil => rw [List.nil_append, readMoreDigits.eq_def]; simp
  | cons d digits ih =>
    have hd := h d List.mem_cons_self
    have hne : d ≠ '_' := Decimal.ne_of_isDigit hd rfl
    rw [List.cons_append, readMoreDigits.eq_def]
    simp [hd, hne, ih fun e he => h e (List.mem_cons_of_mem d he)]

theorem decimalValue_eq (digits : List Char) : decimalValue digits = Nat.ofDigitChars 10 digits 0 := by
  simp [decimalValue, Nat.ofDigitChars, Nat.mul_comm]

theorem readDecimal_toDigits (n : Nat) (rest : List Char) :
    readDecimal (Nat.toDigits 10 n ++ '\n' :: rest) = some (Nat.toDigits 10 n, '\n' :: rest) := by
  obtain ⟨c, digits, hn, hc⟩ := Decimal.toDigits_cons n
  have hmore := readMoreDigits_chars
    (fun d hd => Decimal.isDigit_of_mem (hn ▸ List.mem_cons_of_mem c hd)) rest
  by_cases hzero : c = '0'
  · subst hzero
    have := Decimal.eq_zero_of_toDigits hn
    subst this
    rfl
  · rw [hn, List.cons_append, readDecimal.eq_def]
    simp [hzero, readSomeDigits, hc, hmore]

theorem readNumeric_toDigits {n : Nat} (h : n ≤ maxInteger) (rest : List Char) :
    readNumeric (Nat.toDigits 10 n ++ '\n' :: rest) = some (.integer n, '\n' :: rest) := by
  have hread := readDecimal_toDigits n rest
  have hdate : skipDateTime? (Nat.toDigits 10 n ++ '\n' :: rest) = none :=
    DigitLine.skipDateTime? ⟨_, rest, rfl, fun d hd => Decimal.isDigit_of_mem hd⟩
  have hvalue : integer? false (decimalValue (Nat.toDigits 10 n)) = some (.integer n) := by
    rw [decimalValue_eq, Nat.ofDigitChars_ten_toDigits]
    simp [integer?, h]
  obtain ⟨c, digits, hn, hc⟩ := Decimal.toDigits_cons n
  have hother : c ∉ ['i', 'n', '-', '+'] := Decimal.notMem_of_isDigit hc (by decide)
  have hbase : ∀ d ∈ ['x', 'o', 'b'], ∀ more, digits ++ '\n' :: rest ≠ d :: more := by
    rintro d hd more hmore
    rcases digits with _ | ⟨e, digits⟩
    · obtain ⟨rfl, -⟩ := List.cons.inj hmore
      revert hd
      decide
    · obtain ⟨rfl, -⟩ := List.cons.inj hmore
      have he : e.isDigit = true := Decimal.isDigit_of_mem (n := n) (by simp [hn])
      exact Decimal.notMem_of_isDigit he (by decide) hd
  simp only [List.mem_cons, List.not_mem_nil, or_false, not_or, forall_eq_or_imp, forall_eq] at hother hbase
  rw [hn, List.cons_append] at hread hdate ⊢
  rw [hn] at hvalue
  have hfloat : readFloat (c :: (digits ++ '\n' :: rest)) = none := by
    simp [readFloat, readSign, hother, hread, readExponent]
  rw [readNumeric, hdate, hfloat]
  dsimp only
  rw [readInteger.eq_def]
  split
  next more heq => exact absurd (List.cons.inj heq).2 (hbase.1 more)
  next more heq => exact absurd (List.cons.inj heq).2 (hbase.2.1 more)
  next more heq => exact absurd (List.cons.inj heq).2 (hbase.2.2 more)
  next => simp [readSign, hother, hread, hvalue]

/-! ## Values -/

theorem stringChars_cons (cs : List Char) : ∃ q text, stringChars cs = q :: text ∧ (q = '"' ∨ q = '\'') := by
  unfold stringChars
  dsimp only
  split <;> simp

theorem readValue_string {fuel depth : Nat} (cs : List Char) {rest : List Char} (h : EndsString rest) :
    readValue (fuel + 1) depth (stringChars cs ++ rest) = some (.string cs, rest) := by
  have hread := readString_stringChars cs h
  obtain ⟨q, text, hcs, hq⟩ := stringChars_cons cs
  rw [hcs, List.cons_append] at hread ⊢
  rcases hq with rfl | rfl <;> simp [readValue, hread]

theorem skipLines_stop {c : Char} (h : isBlank c = false ∧ c ∉ ['#', '\n', '\r']) (fuel : Nat) (cs : List Char) :
    skipLines (fuel + 1) (c :: cs) = some (c :: cs) := by
  simp only [List.mem_cons, List.not_mem_nil, or_false, not_or] at h
  simp [skipLines, skipBlanks, h, newline?]

theorem skipLines_newline (fuel : Nat) (cs : List Char) : skipLines (fuel + 1) ('\n' :: cs) = skipLines fuel cs := by
  simp [skipLines, skipBlanks, isBlank, newline?]

/-- The lines of an array on which an item each stands. -/
def itemLines (items : List (List Char)) : List Char :=
  items.flatMap fun item => [' ', ' ', ' ', ' '] ++ stringChars item ++ [',', '\n']

theorem skipLines_itemLines (item : List Char) (items : List (List Char)) (fuel : Nat) (rest : List Char) :
    skipLines (fuel + 1) (itemLines (item :: items) ++ rest) =
      some (stringChars item ++ ',' :: '\n' :: (itemLines items ++ rest)) := by
  obtain ⟨q, text, hcs, hq⟩ := stringChars_cons item
  rcases hq with rfl | rfl <;> simp [itemLines, skipLines, skipBlanks, isBlank, hcs, newline?]

theorem endsString_comma (rest : List Char) : EndsString (',' :: rest) := by simp [EndsString]

theorem readItems_lines {depth : Nat} (rest : List Char) : ∀ (items : List (List Char)) (item : List Char) {fuel : Nat},
    items.length + 2 ≤ fuel →
    readItems fuel depth (stringChars item ++ ',' :: '\n' :: (itemLines items ++ ']' :: rest)) =
      some ((item :: items).map Toml.string, rest)
  | _, _, 0, h | _, _, 1, h => by omega
  | [], item, fuel + 2, _ => by
    rw [readItems, readValue_string item (endsString_comma _)]
    simp [skipLines, skipBlanks, isBlank, newline?, itemLines]
  | next :: items, item, fuel + 2, h => by
    have ih : readItems (fuel + 1) depth (stringChars next ++ ',' :: '\n' :: (itemLines items ++ ']' :: rest)) =
        some ((next :: items).map Toml.string, rest) :=
      readItems_lines rest items next (by simp at h; omega)
    obtain ⟨q, text, hcs, hq⟩ := stringChars_cons next
    have hclose : q ≠ ']' := by rcases hq with rfl | rfl <;> decide
    rw [readItems, readValue_string item (endsString_comma _)]
    simp only [Option.bind_eq_bind, Option.bind_some, skipLines_stop (c := ',') (by decide), List.length_cons,
      skipLines_newline, skipLines_itemLines]
    rw [hcs, List.cons_append] at ih ⊢
    simp [hclose, ih]

theorem readValue_strings {fuel depth : Nat} {items : List (List Char)} (hdepth : depth + 1 < maxDepth)
    (hfuel : items.length + 2 ≤ fuel) (rest : List Char) :
    readValue (fuel + 1) depth (stringsChars items ++ rest) = some (.array (items.map .string), rest) := by
  rcases items with _ | ⟨item, _ | ⟨next, items⟩⟩
  · simp [stringsChars, readValue, Nat.not_le.2 hdepth, skipLines_stop (c := ']') (by decide)]
  · obtain ⟨q, text, hcs, hq⟩ := stringChars_cons item
    have hstop : isBlank q = false ∧ q ∉ ['#', '\n', '\r'] ∧ q ≠ ']' := by rcases hq with rfl | rfl <;> decide
    have hitem : readItems fuel (depth + 1) (stringChars item ++ ']' :: rest) = some ([.string item], rest) := by
      obtain ⟨n, rfl⟩ : ∃ n, fuel = n + 2 := ⟨fuel - 2, by simp at hfuel; omega⟩
      rw [readItems, readValue_string item (by simp [EndsString])]
      simp [skipLines_stop (c := ']') (by decide)]
    rw [hcs, List.cons_append] at hitem
    simp [stringsChars, readValue, Nat.not_le.2 hdepth, hcs, skipLines_stop ⟨hstop.1, hstop.2.1⟩, hstop.2.2, hitem]
  · have hitems : readItems fuel (depth + 1)
        (stringChars item ++ ',' :: '\n' :: (itemLines (next :: items) ++ ']' :: rest)) =
        some ((item :: next :: items).map Toml.string, rest) :=
      readItems_lines rest (next :: items) item (by simp at hfuel ⊢; omega)
    obtain ⟨q, text, hcs, hq⟩ := stringChars_cons item
    have hclose : q ≠ ']' := by rcases hq with rfl | rfl <;> decide
    have hchars : stringsChars (item :: next :: items) ++ rest =
        '[' :: '\n' :: (itemLines (item :: next :: items) ++ ']' :: rest) := by
      simp [stringsChars, itemLines]
    rw [hchars, readValue]
    simp only [Nat.not_le.2 hdepth, if_false, List.length_cons, skipLines_newline, skipLines_itemLines,
      Option.bind_eq_bind, Option.bind_some]
    rw [hcs, List.cons_append] at hitems ⊢
    simp [hclose, hitems]

theorem length_itemLines (items : List (List Char)) : items.length ≤ (itemLines items).length := by
  induction items with
  | nil => exact Nat.le_refl 0
  | cons item items ih =>
    have hcons : itemLines (item :: items) = itemLines [item] ++ itemLines items := by simp [itemLines]
    have hitem : 0 < (itemLines [item]).length := by simp [itemLines]
    rw [hcons, List.length_append, List.length_cons]
    omega

theorem length_stringsChars (items : List (List Char)) : items.length ≤ (stringsChars items).length := by
  rcases items with _ | ⟨item, _ | ⟨next, items⟩⟩
  · simp [stringsChars]
  · simp [stringsChars]
  · have hchars : stringsChars (item :: next :: items) = '[' :: '\n' :: (itemLines (item :: next :: items) ++ [']']) :=
      rfl
    have := length_itemLines (item :: next :: items)
    simp only [hchars, List.length_cons, List.length_append] at this ⊢
    omega

/-! ## Written values -/

/-- Whether a text is read as a value where a line ends after it. -/
def Reads (text : List Char) (v : Toml) : Prop :=
  ∀ rest, readValue (2 * (text ++ '\n' :: rest).length + 2) 0 (text ++ '\n' :: rest) = some (v, '\n' :: rest)

/-- The value that is written. -/
def Written.value : Written → Toml
  | string text => .string text
  | integer n => .integer n
  | strings items => .array (items.map .string)

/-- What is written is read as what was to be written, unless it is an integer that is too great. -/
theorem Written.reads {w : Written} (h : ∀ n, w = .integer n → n ≤ maxInteger) : Reads w.chars w.value := by
  intro rest
  cases w with
  | string text => exact readValue_string text (by simp [EndsString])
  | integer n =>
    have hread := readNumeric_toDigits (h n rfl) rest
    obtain ⟨c, digits, hn, hc⟩ := Decimal.toDigits_cons n
    have hother : c ∉ ['t', 'f', '[', '\x7b', '"', '\''] := Decimal.notMem_of_isDigit hc (by decide)
    simp only [List.mem_cons, List.not_mem_nil, or_false, not_or] at hother
    rw [hn, List.cons_append] at hread
    rw [chars, Decimal.toString_toList, hn, List.cons_append]
    simp [readValue, hother, hread, value]
  | strings items =>
    have hlength := length_stringsChars items
    refine readValue_strings (by decide) ?_ ('\n' :: rest)
    rw [chars, List.length_append, List.length_cons]
    omega

end UsbInventory.Toml
