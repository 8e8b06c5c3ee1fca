/-
Matches that a pattern does not miss. A pattern takes sets of positions to sets of positions, and leads from one
position to another if it does so from every set that holds the first (`Leads`). Rounds of a repetition are cut short
only where another one would change nothing, so a pattern leads over every part of a text that it describes (`Takes`).
-/
import UsbInventory.Pattern.Basic

namespace UsbInventory

/-! ## Sizes -/

namespace Places

theorem length_union {n : Nat} {s t : Places} (hs : s.length = n) (ht : t.length = n) : (s.union t).length = n := by
  rw [union, List.length_zipWith, hs, ht, Nat.min_self]

theorem length_anchored (a : Anchor) : ∀ (before : Option Char) (text : List Char),
    (anchored a before text).length = text.length + 1
  | _, [] => rfl
  | _, c :: text => congrArg (· + 1) (length_anchored a (some c) text)

end Places

namespace Pattern

/-- A step that keeps the number of positions keeps it over any number of rounds. -/
theorem length_iterate {n : Nat} {step : Places → Places} (h : ∀ s, s.length = n → (step s).length = n) :
    ∀ (rounds : Nat) (s : Places), s.length = n → (iterate step rounds s).length = n
  | 0, _, hs => hs
  | rounds + 1, s, hs => by
    rw [iterate]
    split
    · exact hs
    · exact length_iterate h rounds _ (h s hs)

theorem length_within {n : Nat} {step : Places → Places} (h : ∀ s, s.length = n → (step s).length = n) :
    ∀ (rounds : Nat) (s : Places), s.length = n → (within step rounds s).length = n
  | 0, _, hs => hs
  | rounds + 1, s, hs => by
    rw [within]
    split
    · exact hs
    · exact length_within h rounds _ (Places.length_union hs (h s hs))

theorem length_ends (text : List Char) (p : Pattern) :
    ∀ s : Places, s.length = text.length + 1 → (ends text p s).length = text.length + 1 := by
  induction p with
  | empty => exact fun _ hs => hs
  | chars c =>
    intro s hs
    rw [ends, Places.advance, List.length_cons, List.length_zipWith, hs]
    omega
  | anchor a =>
    intro s hs
    rw [ends, Places.inter, List.length_zipWith, Places.length_anchored, hs, Nat.min_self]
  | seq p q ihp ihq => exact fun s hs => ihq _ (ihp s hs)
  | alt p q ihp ihq => exact fun s hs => Places.length_union (ihp s hs) (ihq s hs)
  | times p low high ih => exact fun s hs => length_within ih _ _ (length_iterate ih _ s hs)
  | group _ p ih => exact ih

/-! ## Leading from one position to another -/

/-- A step takes every set of `n` positions that holds `i` to one that holds `j`. -/
def Leads (n : Nat) (step : Places → Places) (i j : Nat) : Prop :=
  ∀ s : Places, s.length = n → s[i]? = some true → (step s)[j]? = some true

section Rounds

variable {n : Nat} {step : Places → Places}

/-- What a set holds at the start of some rounds it holds at their end, if it holds whatever a round adds. -/
theorem holds_of_closed {s : Places} (hs : s.length = n) (hc : ∀ i : Nat, (step s)[i]? = some true → s[i]? = some true)
    {pos : Nat → Nat} : ∀ rounds, (∀ m < rounds, Leads n step (pos m) (pos (m + 1))) → s[pos 0]? = some true →
    s[pos rounds]? = some true
  | 0, _, h0 => h0
  | rounds + 1, hl, h0 =>
    hc _ (hl rounds (Nat.lt_succ_self _) s hs
      (holds_of_closed hs hc rounds (fun m hm => hl m (Nat.lt_succ_of_lt hm)) h0))

theorem leads_iterate (h : ∀ s, s.length = n → (step s).length = n) : ∀ (rounds : Nat) (pos : Nat → Nat),
    (∀ m < rounds, Leads n step (pos m) (pos (m + 1))) → Leads n (iterate step rounds) (pos 0) (pos rounds)
  | 0, _, _ => fun _ _ h0 => h0
  | rounds + 1, pos, hl => by
    intro s hs h0
    rw [iterate]
    split
    -- a round that changes nothing has already led to wherever the next ones lead
    · next hfix => exact holds_of_closed hs (fun i hi => hfix ▸ hi) _ hl h0
    · exact leads_iterate h rounds (fun m => pos (m + 1)) (fun m hm => hl (m + 1) (Nat.succ_lt_succ hm)) _
        (h s hs) (hl 0 (Nat.succ_pos _) s hs h0)

theorem union_left {s t : Places} (hs : s.length = n) (ht : t.length = n) {i : Nat} (h : s[i]? = some true) :
    (s.union t)[i]? = some true := by
  obtain ⟨hi, -⟩ := List.getElem?_eq_some_iff.1 h
  rw [Places.union, List.getElem?_zipWith, h, List.getElem?_eq_getElem (by omega)]
  rfl

theorem union_right {s t : Places} (hs : s.length = n) (ht : t.length = n) {i : Nat} (h : t[i]? = some true) :
    (s.union t)[i]? = some true := by
  obtain ⟨hi, -⟩ := List.getElem?_eq_some_iff.1 h
  rw [Places.union, List.getElem?_zipWith, h, List.getElem?_eq_getElem (by omega)]
  exact congrArg some (Bool.or_true _)

/-- Rounds that may be left out lead as far as any number of them does that is allowed. -/
theorem leads_within (h : ∀ s, s.length = n → (step s).length = n) : ∀ (most rounds : Nat) (pos : Nat → Nat),
    rounds ≤ most → (∀ m < rounds, Leads n step (pos m) (pos (m + 1))) →
    Leads n (within step most) (pos 0) (pos rounds)
  | 0, rounds, pos, hr, _ => by
    rw [Nat.le_zero.1 hr]
    exact fun _ _ h0 => h0
  | most + 1, rounds, pos, hr, hl => by
    intro s hs h0
    rw [within]
    split
    · next hfix => exact holds_of_closed hs (fun i hi => hfix ▸ union_right hs (h s hs) hi) _ hl h0
    · cases rounds with
      | zero =>
        exact leads_within h most 0 pos (Nat.zero_le _) (fun m hm => absurd hm (Nat.not_lt_zero m)) _
          (Places.length_union hs (h s hs)) (union_left hs (h s hs) h0)
      | succ rounds =>
        exact leads_within h most rounds (fun m => pos (m + 1)) (Nat.le_of_succ_le_succ hr)
          (fun m hm => hl (m + 1) (Nat.succ_lt_succ hm)) _ (Places.length_union hs (h s hs))
          (union_right hs (h s hs) (hl 0 (Nat.succ_pos _) s hs h0))

end Rounds

/-! ## Parts of a text -/

/-- A pattern leads over a part of a text, between what stands before it and after it. -/
def Takes (p : Pattern) (before part after : List Char) : Prop :=
  Leads ((before ++ part ++ after).length + 1) (ends (before ++ part ++ after) p) before.length (before ++ part).length

section Parts

variable {p q : Pattern} {c : Text.CodeSet} {before part after : List Char}

theorem leads_chars {text : List Char} {i : Nat} {x : Char} (hx : text[i]? = some x) (hc : c.holds x = true) :
    Leads (text.length + 1) (ends text (.chars c)) i (i + 1) := by
  intro s _ h
  rw [ends, Places.advance, List.getElem?_cons_succ, List.getElem?_zipWith, h, hx]
  exact congrArg some hc

theorem takes_char {x : Char} (hc : c.holds x = true) : Takes (.chars c) before [x] after := by
  have hx : (before ++ [x] ++ after)[before.length]? = some x := by
    rw [List.append_assoc, List.getElem?_append_right (Nat.le_refl _), Nat.sub_self]
    rfl
  have hlen : (before ++ [x]).length = before.length + 1 := List.length_append
  unfold Takes
  rw [hlen]
  exact leads_chars hx hc

/-- One or more characters of a class take any run of them. -/
theorem takes_run (hne : part ≠ []) (hc : ∀ x ∈ part, c.holds x = true) :
    Takes (.times (.chars c) 1 none) before part after := by
  have hstep : ∀ m < part.length, Leads ((before ++ part ++ after).length + 1)
      (ends (before ++ part ++ after) (.chars c)) (before.length + m) (before.length + (m + 1)) := by
    intro m hm
    have hx : (before ++ part ++ after)[before.length + m]? = some part[m] := by
      rw [List.append_assoc, List.getElem?_append_right (Nat.le_add_right _ _), Nat.add_sub_cancel_left,
        List.getElem?_append_left hm, List.getElem?_eq_getElem hm]
    exact leads_chars hx (hc _ (List.getElem_mem hm))
  have hpos := List.length_pos_iff.2 hne
  have hpart : (before ++ part).length = before.length + part.length := List.length_append
  have hlen : (before ++ part ++ after).length = before.length + part.length + after.length := by
    rw [List.length_append, hpart]
  have hkept := length_ends (before ++ part ++ after) (.chars c)
  -- the first character is the round that has to be, the others are rounds that may be
  have hfirst := leads_iterate hkept 1 (fun m => before.length + m) fun m hm => hstep m (by omega)
  have hmore := leads_within hkept (before ++ part ++ after).length (part.length - 1)
    (fun m => before.length + (m + 1)) (by omega) fun m hm => hstep (m + 1) (by omega)
  intro s hs h
  have hrun := hmore _ (length_iterate hkept 1 s hs) (hfirst s hs h)
  rw [ends, Nat.min_eq_left (by omega), hpart]
  rwa [Nat.sub_add_cancel hpos] at hrun

/-- An anchor takes nothing, between the characters between which it holds. -/
theorem takes_anchor {a : Anchor} (h : a.holds before.getLast? after.head? = true) :
    Takes (.anchor a) before [] after := by
  have hplace : ∀ (before : List Char) (c? : Option Char), (Places.anchored a c? (before ++ after))[before.length]? =
      some (a.holds (before.getLast?.or c?) after.head?) := by
    intro before
    induction before with
    | nil => intro c?; cases after <;> rfl
    | cons c before ih =>
      intro c?
      rw [List.cons_append, Places.anchored, List.length_cons, List.getElem?_cons_succ, ih, List.getLast?_cons]
      cases before.getLast? <;> rfl
  unfold Takes
  rw [List.append_nil]
  intro s _ hs
  rw [ends, Places.inter, List.getElem?_zipWith, hs, hplace, Option.or_none, h]
  rfl

theorem takes_seq {part' : List Char} (hp : Takes p before part (part' ++ after))
    (hq : Takes q (before ++ part) part' after) : Takes (.seq p q) before (part ++ part') after := by
  unfold Takes at hp hq ⊢
  rw [← List.append_assoc] at hp ⊢
  exact fun s hs h => hq _ (length_ends _ p s hs) (hp s hs h)

/-- A text of which a pattern takes a part matches it. -/
theorem isMatch_of_takes (h : Takes p before part after) : p.isMatch (before ++ part ++ after) = true := by
  have hall : (Places.all (before ++ part ++ after))[before.length]? = some true := by
    rw [Places.all, List.getElem?_replicate, if_pos (by rw [List.length_append, List.length_append]; omega)]
  exact List.any_eq_true.2 ⟨true, List.mem_of_getElem? (h _ (by rw [Places.all, List.length_replicate]) hall), rfl⟩

end Parts

end Pattern

end UsbInventory
