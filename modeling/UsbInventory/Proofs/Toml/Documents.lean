/-
Documents in TOML read back. A document of sections is read line by line: a header opens a table, the assignments below
it fill it, and an empty line says nothing. Keys may be any texts, and values whatever their texts are read as.
-/
import Mathlib.Data.List.Nodup
import UsbInventory.Proofs.Toml.Values

namespace UsbInventory.Toml

/-! ## Documents of sections -/

/-- A key as it is written: as it is where its characters allow for it, else between double quotes. -/
def keyChars (key : String) : List Char :=
  if key.toList ≠ [] ∧ key.toList.all isBareKeyChar then key.toList
  else '"' :: (escapeBasic false 0 0 key.toList ++ ['"'])

/-- A key and its value, with a text that is read as the value. -/
structure Assignment where
  key : String
  text : List Char
  value : Toml
  reads : Reads text value

/-- The line that an assignment stands on. -/
def Assignment.chars (a : Assignment) : List Char := keyChars a.key ++ [' ', '=', ' '] ++ a.text ++ ['\n']

/-- The assignment of a value that is written. -/
def Assignment.ofWritten (key : String) (w : Written) (h : ∀ n, w = .integer n → n ≤ maxInteger) : Assignment :=
  { key := key, text := w.chars, value := w.value, reads := Written.reads h }

/-- A header with the assignments below it. -/
def sectionChars (part : String × List Assignment) : List Char :=
  '[' :: (keyChars part.1 ++ [']', '\n'] ++ part.2.flatMap Assignment.chars)

/-- Sections with an empty line between them. -/
def documentChars : List (String × List Assignment) → List Char
  | [] => []
  | [part] => sectionChars part
  | part :: doc => sectionChars part ++ '\n' :: documentChars doc

/-! ## Keys -/

/-- The first character of a key. -/
theorem keyChars_cons (key : String) : ∃ c cs, keyChars key = c :: cs ∧ (c = '"' ∨ isBareKeyChar c = true) := by
  unfold keyChars
  split
  next h =>
    obtain ⟨c, cs, hcs⟩ := List.exists_cons_of_ne_nil h.1
    have hall := h.2
    rw [hcs, List.all_cons, Bool.and_eq_true] at hall
    exact ⟨c, cs, hcs, .inr hall.1⟩
  next => exact ⟨_, _, rfl, .inl rfl⟩

theorem of_isBareKeyChar {c : Char} (h : c = '"' ∨ isBareKeyChar c = true) :
    c ∉ ['\'', ' ', '\t', '#', '\n', '\r', '['] := by
  have hmarks : ['\'', ' ', '\t', '#', '\n', '\r', '['].any (fun d => d == '"' || isBareKeyChar d) = false := by decide
  intro hc
  rw [List.any_eq_false] at hmarks
  exact hmarks c hc (by simpa using h)

theorem skipBlanks_keyChars (key : String) (rest : List Char) :
    skipBlanks (keyChars key ++ rest) = keyChars key ++ rest := by
  obtain ⟨c, cs, hcs, hc⟩ := keyChars_cons key
  have hmarks := of_isBareKeyChar hc
  simp only [List.mem_cons, List.not_mem_nil, or_false, not_or] at hmarks
  simp [hcs, skipBlanks, isBlank, hmarks]

theorem readKeyPart_keyChars (key : String) {c : Char} (hc : isBareKeyChar c = false) (rest : List Char) :
    readKeyPart (keyChars key ++ c :: rest) = some (key.toList, c :: rest) := by
  unfold keyChars
  split
  next h =>
    have hall : ∀ d ∈ key.toList, isBareKeyChar d = true := by simpa using h.2
    have htake : (key.toList ++ c :: rest).takeWhile isBareKeyChar = key.toList := by
      rw [List.takeWhile_append_of_pos hall, List.takeWhile_cons_of_neg (by simp [hc]), List.append_nil]
    have hdrop : (key.toList ++ c :: rest).dropWhile isBareKeyChar = c :: rest := by
      rw [List.dropWhile_append_of_pos hall, List.dropWhile_cons_of_neg (by simp [hc])]
    obtain ⟨d, cs, hcs⟩ := List.exists_cons_of_ne_nil h.1
    have hmarks := of_isBareKeyChar (.inr (hall d (hcs ▸ List.mem_cons_self)))
    have hquote : d ≠ '"' := by
      rintro rfl
      have := hall '"' (hcs ▸ List.mem_cons_self)
      revert this
      decide
    simp only [List.mem_cons, List.not_mem_nil, or_false, not_or] at hmarks
    rw [readKeyPart.eq_def]
    split
    · simp_all
    · simp_all
    · simp [htake, hdrop, h.1]
  next => simp [readKeyPart, readBasic_escapeBasic]

theorem readKey_keyChars (key : String) {c : Char} (hc : isBareKeyChar c = false) (rest : List Char)
    (hdot : (skipBlanks (c :: rest)).head? ≠ some '.') :
    readKey (keyChars key ++ c :: rest) = some ([], key.toList, skipBlanks (c :: rest)) := by
  have hparts : ∀ fuel, readKeyParts (fuel + 1) (keyChars key ++ c :: rest) =
      some ([key.toList], skipBlanks (c :: rest)) := by
    intro fuel
    rw [readKeyParts, skipBlanks_keyChars, readKeyPart_keyChars key hc]
    dsimp only
    split
    next h => simp [h] at hdot
    next => rfl
  rw [readKey, hparts]
  simp [maxDepth]

/-! ## Lines -/

theorem readValue_blank {c : Char} (h : isBlank c = true) (fuel depth : Nat) (cs : List Char) :
    readValue fuel depth (c :: cs) = none := by
  cases fuel with
  | zero => rfl
  | succ fuel =>
    have hc : c = ' ' ∨ c = '\t' := by simpa [isBlank] using h
    have htwo : ∀ low high, readTwo low high (c :: cs) = none := by
      intro low high
      rcases hc with rfl | rfl <;> cases cs <;> simp [readTwo]
    have hdate : skipDateTime? (c :: cs) = none := by simp [skipDateTime?, skipDate?, skipTime?, htwo]
    rcases hc with rfl | rfl <;>
      simp [readValue, readNumeric, hdate, readFloat, readSign, readDecimal, readSomeDigits, readInteger]

/-- What is read as a value begins with no blank. -/
theorem Reads.skipBlanks {text : List Char} {v : Toml} (h : Reads text v) (rest : List Char) :
    skipBlanks (text ++ '\n' :: rest) = text ++ '\n' :: rest := by
  rcases text with _ | ⟨c, text⟩
  · simp [Toml.skipBlanks, isBlank]
  · have hc : isBlank c = false := by
      by_contra hblank
      have hread := h rest
      rw [List.cons_append, readValue_blank (by simpa using hblank)] at hread
      cases hread
    simp [Toml.skipBlanks, hc]

theorem restOfLine?_newline (rest : List Char) : restOfLine? ('\n' :: rest) = some rest := by
  simp [restOfLine?, lineEnd?, skipBlanks, isBlank, skipComment, newline?]

theorem readLine_assignment (a : Assignment) (rest : List Char) :
    readLine (a.chars ++ rest) = some (.assign [] a.key.toList a.value, rest) := by
  have hkey := readKey_keyChars a.key (c := ' ') (by decide) ('=' :: ' ' :: (a.text ++ '\n' :: rest))
    (by simp [skipBlanks, isBlank])
  have htext := a.reads.skipBlanks rest
  have hequals : skipBlanks (' ' :: '=' :: ' ' :: (a.text ++ '\n' :: rest)) =
      '=' :: ' ' :: (a.text ++ '\n' :: rest) := by
    simp [skipBlanks, isBlank]
  have hspace : skipBlanks (' ' :: (a.text ++ '\n' :: rest)) = a.text ++ '\n' :: rest := by
    rw [skipBlanks, List.dropWhile_cons_of_pos (by decide)]
    exact htext
  have hvalue := a.reads rest
  obtain ⟨c, cs, hcs, hc⟩ := keyChars_cons a.key
  have hmarks := of_isBareKeyChar hc
  simp only [List.mem_cons, List.not_mem_nil, or_false, not_or] at hmarks
  rw [hequals, hcs, List.cons_append] at hkey
  simp only [Assignment.chars, hcs, List.append_assoc, List.cons_append, List.nil_append]
  rw [readLine.eq_def]
  split
  next heq => simp_all
  next heq => simp_all
  next => simp only [hkey, hspace, hvalue, restOfLine?_newline, expect, Option.bind_eq_bind, Option.bind_some, if_true,
      Option.pure_def]

theorem readLine_header (name : String) (rest : List Char) :
    readLine ('[' :: (keyChars name ++ ']' :: '\n' :: rest)) = some (.table [] name.toList, rest) := by
  have hkey := readKey_keyChars name (c := ']') (by decide) ('\n' :: rest) (by simp [skipBlanks, isBlank])
  have hclose : skipBlanks (']' :: '\n' :: rest) = ']' :: '\n' :: rest := by simp [skipBlanks, isBlank]
  obtain ⟨c, cs, hcs, hc⟩ := keyChars_cons name
  have hmarks := of_isBareKeyChar hc
  simp only [List.mem_cons, List.not_mem_nil, or_false, not_or] at hmarks
  rw [hclose, hcs, List.cons_append] at hkey
  rw [hcs, List.cons_append, readLine.eq_def]
  split
  next heq => simp_all
  next heq =>
    obtain ⟨-, rfl⟩ := List.cons.inj heq
    simp [hkey, expect, restOfLine?_newline]
  next => simp_all

/-! ## Documents -/

/-- Whether a text is read as a list of lines, with as many calls as it has characters. -/
def Lines (cs : List Char) (lines : List Line) : Prop := ∀ fuel, cs.length < fuel → readLines fuel cs = some lines

theorem Lines.nil : Lines [] [] := by
  rintro (_ | fuel) h
  · simp at h
  · rfl

theorem Lines.blank {cs : List Char} {lines : List Line} (h : Lines cs lines) : Lines ('\n' :: cs) lines := by
  rintro (_ | fuel) hfuel
  · simp at hfuel
  · simp only [List.length_cons] at hfuel
    have hrest := h fuel (by omega)
    simp [readLines, skipBlanks, isBlank, skipComment, lineEnd?, newline?, hrest]

theorem Lines.line {c : Char} {cs rest : List Char} {line : Line} {lines : List Line}
    (hc : c ∉ [' ', '\t', '#', '\n', '\r']) (hline : readLine (c :: cs) = some (line, rest))
    (hlength : rest.length ≤ cs.length) (h : Lines rest lines) : Lines (c :: cs) (line :: lines) := by
  rintro (_ | fuel) hfuel
  · simp at hfuel
  · simp only [List.length_cons] at hfuel
    have hrest := h fuel (by omega)
    simp only [List.mem_cons, List.not_mem_nil, or_false, not_or] at hc
    simp [readLines, skipBlanks, isBlank, hc, hline, hrest]

theorem Lines.assignment {rest : List Char} {lines : List Line} (h : Lines rest lines) (a : Assignment) :
    Lines (a.chars ++ rest) (.assign [] a.key.toList a.value :: lines) := by
  have hline := readLine_assignment a rest
  obtain ⟨c, cs, hcs, hc⟩ := keyChars_cons a.key
  have hmarks := of_isBareKeyChar hc
  simp only [Assignment.chars, hcs, List.cons_append] at hline ⊢
  refine Lines.line ?_ hline ?_ h
  · simp_all
  · simp only [List.length_append]
    omega

theorem Lines.assignments {rest : List Char} {lines : List Line} (h : Lines rest lines) : ∀ as : List Assignment,
    Lines (as.flatMap Assignment.chars ++ rest) (as.map (fun a => .assign [] a.key.toList a.value) ++ lines)
  | [] => h
  | a :: as => by
    rw [List.flatMap_cons, List.append_assoc]
    exact (h.assignments as).assignment a

/-- The lines of a section. -/
def sectionLines (part : String × List Assignment) : List Line :=
  .table [] part.1.toList :: part.2.map fun a => .assign [] a.key.toList a.value

theorem Lines.part {rest : List Char} {lines : List Line} (h : Lines rest lines) (part : String × List Assignment) :
    Lines (sectionChars part ++ rest) (sectionLines part ++ lines) := by
  have hline := readLine_header part.1 (part.2.flatMap Assignment.chars ++ rest)
  have hchars : sectionChars part ++ rest =
      '[' :: (keyChars part.1 ++ ']' :: '\n' :: (part.2.flatMap Assignment.chars ++ rest)) := by
    simp [sectionChars]
  rw [hchars]
  refine Lines.line (by decide) hline ?_ (h.assignments part.2)
  simp only [List.length_append, List.length_cons]
  omega

theorem Lines.document : ∀ doc : List (String × List Assignment), Lines (documentChars doc) (doc.flatMap sectionLines)
  | [] => .nil
  | [part] => by simpa [documentChars] using Lines.nil.part part
  | part :: next :: doc => (Lines.document (next :: doc)).blank.part part

/-! ## Tables -/

/-- The table with the given entries. -/
def ofEntries (entries : List (String × Toml)) : Toml := .table .header (entries.map fun e => (e.1.toList, e.2))

/-- The keys and values of assignments. -/
def entriesOf (as : List Assignment) : List (String × Toml) := as.map fun a => (a.key, a.value)

theorem find?_eq_none {key : List Char} {es : Entries} : find? key es = none ↔ key ∉ es.map (·.1) := by
  rw [find?, Option.map_eq_none_iff, List.find?_eq_none, List.mem_map]
  constructor
  · rintro h ⟨e, he, rfl⟩
    exact h e he (beq_self_eq_true _)
  · intro h e he hkey
    exact h ⟨e, he, by simpa using hkey⟩

theorem put_of_absent {key : List Char} {es : Entries} (h : key ∉ es.map (·.1)) (v : Toml) :
    put key v es = es ++ [(key, v)] := by
  have hany : es.any (·.1 == key) = false := by
    rw [List.any_eq_false]
    intro e he hkey
    exact h (List.mem_map.2 ⟨e, he, by simpa using hkey⟩)
  rw [put, hany]
  rfl

/-- Assignments under keys of their own are added one after the other, up to the next header. -/
theorem assignAll_assignments {lines : List Line} (hlines : ∀ es, assignAll es lines = some es) :
    ∀ (as : List Assignment) (es : Entries), (es.map (·.1) ++ as.map (·.key.toList)).Nodup →
    assignAll es (as.map (fun a => .assign [] a.key.toList a.value) ++ lines) =
      some (es ++ as.map fun a => (a.key.toList, a.value))
  | [], es, _ => by simpa using hlines es
  | a :: as, es, h => by
    have hmoved : (es.map (·.1) ++ a.key.toList :: as.map (·.key.toList)) =
        (es ++ [(a.key.toList, a.value)]).map (·.1) ++ as.map (·.key.toList) := by simp
    have hfresh : a.key.toList ∉ es.map (·.1) := by
      intro hmem
      exact (List.nodup_append.1 h).2.2 _ hmem _ List.mem_cons_self rfl
    have ih := assignAll_assignments hlines as (es ++ [(a.key.toList, a.value)]) (hmoved ▸ h)
    simp [assignAll, insertDotted, find?_eq_none.2 hfresh, ih]

theorem applyHeaders_assignments (es : Entries) (lines : List Line) : ∀ as : List Assignment,
    applyHeaders es (as.map (fun a => .assign [] a.key.toList a.value) ++ lines) = applyHeaders es lines
  | [] => rfl
  | _ :: as => applyHeaders_assignments es lines as

theorem assignAll_document (doc : List (String × List Assignment)) (es : Entries) :
    assignAll es (doc.flatMap sectionLines) = some es := by
  cases doc <;> rfl

/-- Sections under names of their own become tables one after the other. -/
theorem applyHeaders_document : ∀ (doc : List (String × List Assignment)) (es : Entries),
    (es.map (·.1) ++ doc.map (·.1.toList)).Nodup → (∀ part ∈ doc, (part.2.map (·.key)).Nodup) →
    applyHeaders es (doc.flatMap sectionLines) =
      some (es ++ doc.map fun part => (part.1.toList, ofEntries (entriesOf part.2)))
  | [], es, _, _ => by simp [applyHeaders]
  | part :: doc, es, h, hkeys => by
    have hmoved : (es.map (·.1) ++ part.1.toList :: doc.map (·.1.toList)) =
        (es ++ [(part.1.toList, ofEntries (entriesOf part.2))]).map (·.1) ++ doc.map (·.1.toList) := by simp
    have hfresh : part.1.toList ∉ es.map (·.1) := by
      intro hmem
      exact (List.nodup_append.1 h).2.2 _ hmem _ List.mem_cons_self rfl
    have honce : (part.2.map (·.key.toList)).Nodup := by
      have hmap := List.Nodup.map (fun _ _ => String.toList_inj.1) (hkeys part List.mem_cons_self)
      rwa [List.map_map] at hmap
    have hinner := assignAll_assignments (assignAll_document doc) part.2 [] (by simpa using honce)
    have ih := applyHeaders_document doc (es ++ [(part.1.toList, ofEntries (entriesOf part.2))]) (hmoved ▸ h)
      fun p hp => hkeys p (List.mem_cons_of_mem part hp)
    have hentries : ofEntries (entriesOf part.2) = .table .header (part.2.map fun a => (a.key.toList, a.value)) := by
      simp [ofEntries, entriesOf]
    rw [hentries] at ih
    simp [sectionLines, applyHeaders, within, fillTable, find?_eq_none.2 hfresh, hinner, put_of_absent hfresh,
      applyHeaders_assignments, ih, hentries]

/-- A document of sections is read as the table of its sections, if no name of a section or of a field stands twice. -/
theorem parse_documentChars {doc : List (String × List Assignment)} (hnames : (doc.map (·.1)).Nodup)
    (hkeys : ∀ part ∈ doc, (part.2.map (·.key)).Nodup) :
    parse (documentChars doc) = some (ofEntries (doc.map fun part => (part.1, ofEntries (entriesOf part.2)))) := by
  have hmark : dropMark (documentChars doc) = documentChars doc := by
    rcases doc with _ | ⟨part, _ | ⟨next, doc⟩⟩ <;> rfl
  have hlines := Lines.document doc ((documentChars doc).length + 1) (Nat.lt_succ_self _)
  have honce : (doc.map (·.1.toList)).Nodup := by
    have hmap := List.Nodup.map (fun _ _ => String.toList_inj.1) hnames
    rwa [List.map_map] at hmap
  have hheaders := applyHeaders_document doc [] (by simpa using honce) hkeys
  simp [parse, hmark, hlines, ofLines, assignAll_document, hheaders, ofEntries]

end UsbInventory.Toml
