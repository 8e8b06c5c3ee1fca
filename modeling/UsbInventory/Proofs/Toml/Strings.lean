/-
Strings in TOML read back, whichever of the four forms they were written in. Text between double quotes is read escape
by escape; text between single quotes is read as it stands. In the forms over several lines, up to two quotes may stand
in the text, so a string ends where three quotes begin that are not followed by more.
-/
import Mathlib.Tactic.SplitIfs
import UsbInventory.Toml.Lexeme
import UsbInventory.Toml.Printer

namespace UsbInventory.Toml

/-! ## Escapes -/

/-- One character inside basic quotes, if it is not a quote. -/
def basicEscape (lines : Bool) (c : Char) : List Char :=
  if c = '\x08' then ['\\', 'b']
  else if c = '\t' then ['\\', 't']
  else if c = '\n' then (if lines then [c] else ['\\', 'n'])
  else if c = '\x0c' then ['\\', 'f']
  else if c = '\r' then ['\\', 'r']
  else if c = '\\' then ['\\', '\\']
  else if isControl c then ['\\', 'u', '0', '0', upperDigit (c.toNat / 16), upperDigit (c.toNat % 16)]
  else [c]

theorem escapeBasic_cons {c : Char} (h : c ≠ '"') (lines : Bool) (quotes run : Nat) (cs : List Char) :
    escapeBasic lines quotes run (c :: cs) = basicEscape lines c ++ escapeBasic lines quotes 0 cs := by
  unfold basicEscape
  rw [escapeBasic, if_neg h]
  dsimp only
  split_ifs <;> rfl

theorem head_basicEscape {c : Char} (h : c ≠ '"') (lines : Bool) (rest : List Char) :
    (basicEscape lines c ++ rest).head? ≠ some '"' := by
  unfold basicEscape
  split_ifs <;> simp [h]

/-- The digits with which a control character is escaped say its number. -/
theorem hexValue?_control {n : Nat} (h : n < 128) :
    hexValue? ['0', '0', upperDigit (n / 16), upperDigit (n % 16)] = some n := by
  revert n
  decide

theorem scalar?_toNat {c : Char} (h : c.toNat < 128) : scalar? c.toNat = some c := by
  have hc : Char.ofNat c.toNat = c := Char.ofNat_toNat c
  have hlow : c.toNat < 0xD800 := by omega
  simp [scalar?, hlow, hc]

theorem isPlain_of {c : Char} (hline : c ≠ '\n') (h : isControl c = false) : isPlain c = true := by
  unfold isControl at h
  unfold isPlain
  simp_all
  by_cases hlow : c.toNat < 32
  · exact .inl (h.1 hlow)
  · exact .inr (by omega)

theorem readBasic_escape {c : Char} (h : c ≠ '"') (rest : List Char) :
    readBasic (basicEscape false c ++ rest) = prepend [c] (readBasic rest) := by
  unfold basicEscape
  simp only [Bool.false_eq_true, ↓reduceIte]
  split_ifs with hb ht hn hf hr hs hc
  · subst hb; simp [readBasic, unescape, escaped]
  · subst ht; simp [readBasic, unescape, escaped]
  · subst hn; simp [readBasic, unescape, escaped]
  · subst hf; simp [readBasic, unescape, escaped]
  · subst hr; simp [readBasic, unescape, escaped]
  · subst hs; simp [readBasic, unescape, escaped]
  · have hlow : c.toNat < 128 := by
      unfold isControl at hc
      simp at hc
      omega
    simp [readBasic, hexValue?_control hlow, scalar?_toNat hlow, escaped]
  · have hplain := isPlain_of hn (by simpa using hc)
    rw [List.singleton_append, readBasic.eq_def]
    split <;> simp_all

theorem readBasicLines_escape {c : Char} (h : c ≠ '"') (rest : List Char) :
    readBasicLines false (basicEscape true c ++ rest) = prepend [c] (readBasicLines false rest) := by
  unfold basicEscape
  simp only [↓reduceIte]
  split_ifs with hb ht hn hf hr hs hc
  · subst hb; simp [readBasicLines, unescape, escaped, newline?, skipBlanks, isBlank]
  · subst ht; simp [readBasicLines, unescape, escaped, newline?, skipBlanks, isBlank]
  · subst hn; simp [readBasicLines]
  · subst hf; simp [readBasicLines, unescape, escaped, newline?, skipBlanks, isBlank]
  · subst hr; simp [readBasicLines, unescape, escaped, newline?, skipBlanks, isBlank]
  · subst hs; simp [readBasicLines, unescape, escaped, newline?, skipBlanks, isBlank]
  · have hlow : c.toNat < 128 := by
      unfold isControl at hc
      simp at hc
      omega
    simp [readBasicLines, hexValue?_control hlow, scalar?_toNat hlow, escaped]
  · have hplain := isPlain_of hn (by simpa using hc)
    rw [List.singleton_append, readBasicLines.eq_def]
    split <;> simp_all

/-! ## Basic strings -/

theorem readBasic_escapeBasic (cs rest : List Char) :
    readBasic (escapeBasic false 0 0 cs ++ '"' :: rest) = some (cs, rest) := by
  induction cs with
  | nil => simp [escapeBasic, readBasic]
  | cons c cs ih =>
    by_cases hc : c = '"'
    · subst hc
      simp [escapeBasic, readBasic, unescape, escaped, ih, prepend]
    · rw [escapeBasic_cons hc, List.append_assoc, readBasic_escape hc, ih]
      rfl

/-- Escaped text begins with a quote only where one is let stand. -/
theorem head_escapeBasic (lines : Bool) {quotes run : Nat} {cs : List Char}
    (h : quotes ≤ run ∨ cs.head? ≠ some '"') (rest : List Char) (hrest : cs = [] → rest.head? ≠ some '"') :
    (escapeBasic lines quotes run cs ++ rest).head? ≠ some '"' := by
  cases cs with
  | nil => exact hrest rfl
  | cons c cs =>
    by_cases hc : c = '"'
    · subst hc
      have hrun : ¬run < quotes := by simpa using h
      simp [escapeBasic, hrun]
    · rw [escapeBasic_cons hc, List.append_assoc]
      exact head_basicEscape hc lines _

/-- A quote at which the string does not end is read as itself. -/
theorem readBasicLines_quote {text : List Char} (h : text.head? ≠ some '"' ∨ text.tail.head? ≠ some '"') :
    readBasicLines false ('"' :: text) = prepend ['"'] (readBasicLines false text) := by
  have hplain : isPlain '"' = true := by decide
  rw [readBasicLines.eq_def]
  split
  case h_10 heq => obtain ⟨rfl, rfl⟩ := List.cons.inj heq; simp [hplain]
  all_goals simp_all

theorem readBasicLines_escapeBasic {rest : List Char} (hrest : rest.head? ≠ some '"') (run : Nat) (cs : List Char) :
    readBasicLines false (escapeBasic true 2 run cs ++ '"' :: '"' :: '"' :: rest) = some (cs, rest) := by
  have hends : ∀ quotes ∈ [[], ['"'], ['"', '"']],
      readBasicLines false (quotes ++ '"' :: '"' :: '"' :: rest) = some (quotes, rest) := by
    cases rest <;> simp_all [readBasicLines]
  induction cs generalizing run with
  | nil => exact hends [] (by simp)
  | cons c cs ih =>
    by_cases hc : c = '"'
    · subst hc
      by_cases hrun : run < 2
      · rw [escapeBasic, if_pos rfl, if_pos hrun, List.cons_append]
        -- Up to two quotes at the end of the text stand before those that end the string.
        rcases cs with _ | ⟨d, ds⟩
        · exact hends ['"'] (by simp)
        by_cases hd : run + 1 < 2 ∧ d = '"'
        · obtain ⟨hone, rfl⟩ := hd
          rcases ds with _ | ⟨e, es⟩
          · simpa [escapeBasic, hone] using hends ['"', '"'] (by simp)
          have hstands : 2 ≤ run + 1 + 1 ∨ (e :: es).head? ≠ some '"' := .inl (by omega)
          have htail := head_escapeBasic true hstands ('"' :: '"' :: '"' :: rest) (by simp)
          rw [readBasicLines_quote (.inr (by simpa [escapeBasic, hone] using htail)), ih]
          rfl
        · have hstands : 2 ≤ run + 1 ∨ (d :: ds).head? ≠ some '"' := by
            rw [List.head?_cons, ne_eq, Option.some.injEq]
            by_cases hone : run + 1 < 2
            · exact .inr fun h => hd ⟨hone, h⟩
            · exact .inl (by omega)
          have hhead := head_escapeBasic true hstands ('"' :: '"' :: '"' :: rest) (by simp)
          rw [readBasicLines_quote (.inl hhead), ih]
          rfl
      · simp [escapeBasic, hrun, readBasicLines, unescape, escaped, newline?, skipBlanks, isBlank, ih, prepend]
    · rw [escapeBasic_cons hc, List.append_assoc, readBasicLines_escape hc, ih]
      rfl

/-! ## Literal strings -/

theorem le_longestRun (c : Char) (run : Nat) (cs : List Char) : run ≤ longestRun c run cs := by
  induction cs generalizing run with
  | nil => exact Nat.le_refl run
  | cons d cs ih =>
    unfold longestRun
    split
    · have := ih (run + 1)
      omega
    · omega

theorem longestRun_mono (c : Char) {a b : Nat} (h : a ≤ b) (cs : List Char) :
    longestRun c a cs ≤ longestRun c b cs := by
  induction cs generalizing a b with
  | nil => exact h
  | cons d cs ih =>
    unfold longestRun
    split
    · exact ih (by omega)
    · omega

/-- No run is longer in the rest of a text. -/
theorem longestRun_tail (c d : Char) (cs : List Char) : longestRun c 0 cs ≤ longestRun c 0 (d :: cs) := by
  rw [longestRun]
  split
  · exact longestRun_mono c (by omega) cs
  · omega

theorem notMem_of_longestRun {c : Char} {cs : List Char} (h : longestRun c 0 cs = 0) : c ∉ cs := by
  induction cs with
  | nil => simp
  | cons d cs ih =>
    have htail := longestRun_tail c d cs
    have hne : d ≠ c := by
      rintro rfl
      have hrun := le_longestRun d (0 + 1) cs
      rw [longestRun, if_pos rfl] at h
      omega
    simp [ih (by omega), hne.symm]

theorem readLiteral_chars {cs : List Char} (hplain : ∀ c ∈ cs, isPlain c = true) (hquote : '\'' ∉ cs)
    (rest : List Char) : readLiteral (cs ++ '\'' :: rest) = some (cs, rest) := by
  induction cs with
  | nil => simp [readLiteral]
  | cons c cs ih =>
    simp only [List.mem_cons, not_or, forall_eq_or_imp] at hplain hquote
    have hc : c ≠ '\'' := fun h => hquote.1 h.symm
    simp [readLiteral, hplain.1, ih hplain.2 hquote.2, prepend]

/-- A quote at which the string does not end is read as itself. -/
theorem readLiteralLines_quote {text : List Char} (h : text.head? ≠ some '\'' ∨ text.tail.head? ≠ some '\'') :
    readLiteralLines ('\'' :: text) = prepend ['\''] (readLiteralLines text) := by
  have hplain : isPlain '\'' = true := by decide
  rw [readLiteralLines.eq_def]
  split
  case h_7 heq => obtain ⟨rfl, rfl⟩ := List.cons.inj heq; simp [hplain]
  all_goals simp_all

theorem readLiteralLines_chars {cs rest : List Char} (hplain : ∀ c ∈ cs, isPlain c = true ∨ c = '\n')
    (hrun : longestRun '\'' 0 cs ≤ 2) (hrest : rest.head? ≠ some '\'') :
    readLiteralLines (cs ++ '\'' :: '\'' :: '\'' :: rest) = some (cs, rest) := by
  have hends : ∀ quotes ∈ [[], ['\''], ['\'', '\'']],
      readLiteralLines (quotes ++ '\'' :: '\'' :: '\'' :: rest) = some (quotes, rest) := by
    cases rest <;> simp_all [readLiteralLines]
  induction cs with
  | nil => exact hends [] (by simp)
  | cons c cs ih =>
    have ih := ih (fun d hd => hplain d (List.mem_cons_of_mem c hd)) (by have := longestRun_tail '\'' c cs; omega)
    by_cases hc : c = '\''
    · subst hc
      -- Up to two quotes at the end of the text stand before those that end the string.
      rcases cs with _ | ⟨d, ds⟩
      · exact hends ['\''] (by simp)
      by_cases hd : d = '\''
      · subst hd
        rcases ds with _ | ⟨e, es⟩
        · exact hends ['\'', '\''] (by simp)
        have he : e ≠ '\'' := by
          rintro rfl
          have hthree := le_longestRun '\'' (0 + 1 + 1 + 1) es
          simp only [longestRun, ↓reduceIte] at hrun
          omega
        rw [List.cons_append, readLiteralLines_quote (.inr (by simpa using he)), ih]
        rfl
      · rw [List.cons_append, readLiteralLines_quote (.inl (by simpa using hd)), ih]
        rfl
    · rcases hplain c List.mem_cons_self with hc' | rfl
      · rw [List.cons_append, readLiteralLines.eq_def]
        split <;> simp_all [prepend, isPlain]
      · simp [readLiteralLines, ih, prepend]

/-! ## Written strings -/

/-- Whether no quote follows a string. -/
def EndsString (rest : List Char) : Prop := rest.head? ≠ some '"' ∧ rest.head? ≠ some '\''

theorem plain_of_traits {cs : List Char} (hcontrol : (StringTraits.of cs).control = false) :
    ∀ c ∈ cs, isPlain c = true ∨ c = '\n' := by
  intro c hc
  by_cases hline : c = '\n'
  · exact .inr hline
  · exact .inl (isPlain_of hline (by simpa using List.any_eq_false.1 hcontrol c hc))

theorem StringForm.of_literal {cs : List Char} (h : StringForm.of (.of cs) = .literal) :
    (∀ c ∈ cs, isPlain c = true) ∧ '\'' ∉ cs := by
  unfold StringForm.of at h
  split_ifs at h with hbasic hliteral
  simp only [Bool.and_eq_true, Bool.not_eq_true', beq_iff_eq] at hliteral
  obtain ⟨⟨hcontrol, hquotes⟩, hline⟩ := hliteral
  refine ⟨fun c hc => ?_, notMem_of_longestRun hquotes⟩
  rcases plain_of_traits hcontrol c hc with hplain | rfl
  · exact hplain
  · simp [StringTraits.of, hc] at hline

theorem StringForm.of_literalLines {cs : List Char} (h : StringForm.of (.of cs) = .literalLines) :
    (∀ c ∈ cs, isPlain c = true ∨ c = '\n') ∧ longestRun '\'' 0 cs ≤ 2 := by
  unfold StringForm.of at h
  split_ifs at h with hbasic hliteral hlines hform
  simp only [Bool.and_eq_true, Bool.not_eq_true', decide_eq_true_eq] at hform
  exact ⟨plain_of_traits hform.1, hform.2⟩

/-- The end of line that a form over several lines begins with is dropped, and none that belongs to the text. -/
theorem skipFirstNewline_first {newline : Bool} {text : List Char}
    (h : newline = false → ∀ c ∈ text.head?, c ≠ '\n' ∧ c ≠ '\r') :
    skipFirstNewline ((if newline then ['\n'] else []) ++ text) = text := by
  cases newline with
  | true => rfl
  | false =>
    rcases text with _ | ⟨c, text⟩
    · rfl
    · have := h rfl c rfl
      simp_all [skipFirstNewline, newline?]

theorem head_escapeBasic_lines {cs : List Char} (h : '\n' ∉ cs) (rest : List Char) :
    ∀ c ∈ (escapeBasic true 2 0 cs ++ '"' :: rest).head?, c ≠ '\n' ∧ c ≠ '\r' := by
  rcases cs with _ | ⟨d, cs⟩
  · simp [escapeBasic]
  · by_cases hd : d = '"'
    · simp [escapeBasic, hd]
    · rw [escapeBasic_cons hd]
      unfold basicEscape
      simp only [List.mem_cons, not_or] at h
      split_ifs <;> simp_all

theorem readString_quote {text : List Char} (h : text.head? ≠ some '"' ∨ text.tail.head? ≠ some '"') :
    readString ('"' :: text) = readBasic text := by
  rw [readString.eq_def]
  split <;> simp_all

theorem readString_apostrophe {text : List Char} (h : text.head? ≠ some '\'' ∨ text.tail.head? ≠ some '\'') :
    readString ('\'' :: text) = readLiteral text := by
  rw [readString.eq_def]
  split <;> simp_all

/-- A string is read as what it was written for, in whatever form it was written. -/
theorem readString_stringChars (cs : List Char) {rest : List Char} (hrest : EndsString rest) :
    readString (stringChars cs ++ rest) = some (cs, rest) := by
  have hnewline : (StringTraits.of cs).newline = false → '\n' ∉ cs := by simp [StringTraits.of]
  unfold stringChars
  dsimp only
  split
  next =>
    have hstops : (escapeBasic false 0 0 cs ++ '"' :: rest).head? ≠ some '"' ∨
        (escapeBasic false 0 0 cs ++ '"' :: rest).tail.head? ≠ some '"' := by
      rcases cs with _ | ⟨c, cs⟩
      · exact .inr hrest.1
      · exact .inl (head_escapeBasic false (.inl (Nat.le_refl 0)) _ (by simp))
    simpa [readBasic_escapeBasic] using readString_quote hstops
  next hform =>
    obtain ⟨hplain, hquote⟩ := StringForm.of_literal hform
    have hstops : (cs ++ '\'' :: rest).head? ≠ some '\'' ∨ (cs ++ '\'' :: rest).tail.head? ≠ some '\'' := by
      rcases cs with _ | ⟨c, cs⟩
      · exact .inr hrest.2
      · have hc : c ≠ '\'' := fun h => hquote (h ▸ List.mem_cons_self)
        exact .inl (by simpa using hc)
    simpa [readLiteral_chars hplain hquote] using readString_apostrophe hstops
  next =>
    simp only [List.append_assoc, List.cons_append, List.nil_append, readString]
    rw [skipFirstNewline_first fun h => head_escapeBasic_lines (hnewline h) _, readBasicLines_escapeBasic hrest.1]
  next hform =>
    obtain ⟨hplain, hrun⟩ := StringForm.of_literalLines hform
    have hhead : '\n' ∉ cs → ∀ c ∈ (cs ++ '\'' :: '\'' :: '\'' :: rest).head?, c ≠ '\n' ∧ c ≠ '\r' := by
      rcases cs with _ | ⟨d, cs⟩
      · simp
      · rintro hline c ⟨⟩
        have hd : d ≠ '\n' := fun h => hline (h ▸ List.mem_cons_self)
        refine ⟨hd, ?_⟩
        rintro rfl
        exact absurd (hplain _ List.mem_cons_self) (by decide)
    simp only [List.append_assoc, List.cons_append, List.nil_append, readString]
    rw [skipFirstNewline_first fun h => hhead (hnewline h), readLiteralLines_chars hplain hrun hrest.2]

end UsbInventory.Toml
