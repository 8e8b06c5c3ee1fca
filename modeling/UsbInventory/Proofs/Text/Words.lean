/-
The words of a text. They are the runs between its blanks, and there is one way to part a text so: what is skipped
leaves no run, and what is kept up to the next blank is one.
-/
import Mathlib.Data.List.TakeWhile
import UsbInventory.Text.Blank

namespace UsbInventory.Text

/-! ## Runs -/

section Runs

variable {keep : Char → Bool}

/-- What is not kept at the beginning leaves no run. -/
theorem runsOf_skip : ∀ {skipped : List Char}, (∀ c ∈ skipped, keep c = false) → ∀ cs : List Char,
    runsOf keep (skipped ++ cs) = runsOf keep cs
  | [], _, _ => rfl
  | c :: skipped, h, cs => by
    have ih := runsOf_skip (fun d hd => h d (List.mem_cons_of_mem _ hd)) cs
    rw [List.cons_append, runsOf.eq_def]
    dsimp only
    rw [if_neg (by rw [h c List.mem_cons_self]; exact Bool.false_ne_true), ih]

/-- What is kept at the beginning is a run, if nothing that is kept follows it. -/
theorem runsOf_run {rest : List Char} (apart : ∀ c ∈ rest.head?, keep c = false) : ∀ {run : List Char}, run ≠ [] →
    (∀ c ∈ run, keep c = true) → runsOf keep (run ++ rest) = run :: runsOf keep rest
  | [], hne, _ => absurd rfl hne
  | [c], _, h => by
    have hc := h c List.mem_cons_self
    cases rest with
    | nil => simp [runsOf, hc]
    | cons d rest =>
      have hd : ¬ keep d = true := by
        rw [apart d rfl]
        exact Bool.false_ne_true
      rw [List.cons_append, List.nil_append, runsOf, if_pos hc, if_neg hd]
  | c :: d :: run, _, h => by
    have hrest : ∀ c' ∈ d :: run, keep c' = true := fun c' hm => h c' (List.mem_cons_of_mem _ hm)
    have ih := runsOf_run apart (List.cons_ne_nil d run) hrest
    rw [List.cons_append] at ih
    rw [List.cons_append, List.cons_append, runsOf, if_pos (h c List.mem_cons_self),
      if_pos (hrest d List.mem_cons_self), ih]

/-- What is left behind the longest run of some characters does not begin with one of them. -/
theorem head_dropWhile (cs : List Char) : ∀ c ∈ (cs.dropWhile keep).head?, keep c = false := by
  intro c hc
  have h := List.head?_dropWhile_not keep cs
  rwa [Option.mem_def.1 hc] at h

end Runs

/-! ## Words -/

/-- A text parted into its words: blanks stand between any two of them, and may stand at the ends. -/
inductive Parted : List (List Char) → List Char → Prop where
  | nil {blanks : List Char} (blank : ∀ c ∈ blanks, isBlank c = true) : Parted [] blanks
  | cons {blanks word rest : List Char} {ws : List (List Char)} (blank : ∀ c ∈ blanks, isBlank c = true)
      (ne : word ≠ []) (solid : ∀ c ∈ word, isBlank c = false) (apart : ∀ c ∈ rest.head?, isBlank c = true)
      (more : Parted ws rest) : Parted (word :: ws) (blanks ++ word ++ rest)

theorem Parted.words_eq {ws : List (List Char)} {text : List Char} (h : Parted ws text) : words text = ws := by
  have hskip : ∀ {blanks : List Char}, (∀ c ∈ blanks, isBlank c = true) → ∀ c ∈ blanks, (!isBlank c) = false := by
    intro blanks h c hc
    rw [h c hc]
    rfl
  unfold words
  induction h with
  | @nil blanks blank =>
    have hnone := runsOf_skip (hskip blank) []
    rw [List.append_nil] at hnone
    exact hnone
  | @cons blanks word rest ws blank ne solid apart more ih =>
    have hapart : ∀ c ∈ rest.head?, (!isBlank c) = false := by
      intro c hc
      rw [apart c hc]
      rfl
    have hsolid : ∀ c ∈ word, (!isBlank c) = true := by
      intro c hc
      rw [solid c hc]
      rfl
    rw [List.append_assoc, runsOf_skip (hskip blank), runsOf_run hapart ne hsolid, ih]

/-- A text is blank, or there is a first word in it, which the next blank ends. -/
theorem blank_or_first_word (text : List Char) : (∀ c ∈ text, isBlank c = true) ∨
    ∃ blanks word rest, text = blanks ++ word ++ rest ∧ (∀ c ∈ blanks, isBlank c = true) ∧ word ≠ [] ∧
      (∀ c ∈ word, isBlank c = false) ∧ ∀ c ∈ rest.head?, isBlank c = true := by
  have hblank : ∀ c ∈ text.takeWhile isBlank, isBlank c = true := fun c hc => List.mem_takeWhile_imp hc
  have htext : text.takeWhile isBlank ++ text.dropWhile isBlank = text := List.takeWhile_append_dropWhile
  cases hleft : text.dropWhile isBlank with
  | nil =>
    rw [hleft, List.append_nil] at htext
    exact .inl (htext ▸ hblank)
  | cons c left =>
    have hc : isBlank c = false := head_dropWhile text c (by rw [hleft]; rfl)
    refine .inr ⟨text.takeWhile isBlank, (c :: left).takeWhile (!isBlank ·), (c :: left).dropWhile (!isBlank ·), ?_,
      hblank, by simp [hc], ?_, ?_⟩
    · rw [List.append_assoc, List.takeWhile_append_dropWhile, ← hleft, htext]
    · intro d hd
      have hkept := List.mem_takeWhile_imp hd
      simpa using hkept
    · intro d hd
      have hhead := head_dropWhile (c :: left) d hd
      simpa using hhead

theorem exists_parted (text : List Char) : ∃ ws, Parted ws text := by
  induction hn : text.length using Nat.strongRecOn generalizing text with
  | _ n ih =>
    rcases blank_or_first_word text with hblank | ⟨blanks, word, rest, rfl, hblank, hsome, hsolid, hapart⟩
    · exact ⟨[], .nil hblank⟩
    · have hpos := List.length_pos_iff.2 hsome
      simp only [List.length_append] at hn
      obtain ⟨ws, hws⟩ := ih rest.length (by omega) rest rfl
      exact ⟨word :: ws, .cons hblank hsome hsolid hapart hws⟩

/-- A text is parted in one way, into the words that are read. -/
theorem parted_iff {ws : List (List Char)} {text : List Char} : Parted ws text ↔ words text = ws := by
  constructor
  · exact Parted.words_eq
  · intro h
    obtain ⟨ws', hws⟩ := exists_parted text
    rwa [← h, hws.words_eq]

end UsbInventory.Text
