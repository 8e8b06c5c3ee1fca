/-
Control characters in JSON. Strings escape theirs, and numbers are digits and marks that a reader takes one by one; so
the compact text of a value holds none, and no end of line in particular, if the value can be read at all.
-/
import UsbInventory.Proofs.Json.Reading

namespace UsbInventory.Json

/-- Whether a text holds no control character of ASCII; the ends of line are among them. -/
def Visible (cs : List Char) : Prop := ∀ c ∈ cs, 0x20 ≤ c.toNat

instance (cs : List Char) : Decidable (Visible cs) := List.decidableBAll _ cs

theorem visible_append {cs ds : List Char} : Visible (cs ++ ds) ↔ Visible cs ∧ Visible ds := List.forall_mem_append

theorem visible_cons {c : Char} {cs : List Char} : Visible (c :: cs) ↔ 0x20 ≤ c.toNat ∧ Visible cs :=
  List.forall_mem_cons

theorem visible_nil : Visible [] := by
  rintro c ⟨⟩

theorem Visible.newline_notMem {cs : List Char} (h : Visible cs) : '\n' ∉ cs := by
  intro hm
  exact absurd (h '\n' hm) (by decide)

/-! ## Strings -/

theorem visible_escapeChar (c : Char) : Visible (escapeChar c) := by
  have hdigit : ∀ n < 16, 0x20 ≤ (Text.digitChar n).toNat := by decide
  unfold escapeChar
  repeat' split
  all_goals simp only [visible_cons, visible_nil, and_true]
  all_goals try decide
  -- what is left looks at the character: it is written as a number, or stands as it is
  · next hlow =>
    exact ⟨by decide, by decide, by decide, by decide, hdigit _ (by omega), hdigit _ (by omega)⟩
  · omega

theorem visible_renderString (text : Option (List Char)) : Visible (renderString text) := by
  refine visible_cons.2 ⟨by decide, visible_append.2 ⟨?_, visible_cons.2 ⟨by decide, visible_nil⟩⟩⟩
  intro c hc
  obtain ⟨d, -, hd⟩ := List.mem_flatMap.1 hc
  exact visible_escapeChar d c hd

/-! ## Numbers -/

/-- Whether a reader takes no control characters. -/
def TakesVisible (read : List Char → Option (List Char × List Char)) : Prop :=
  ∀ {cs taken left : List Char}, read cs = some (taken, left) → Visible taken

theorem visible_of_isDigit {c : Char} (h : c.isDigit = true) : 0x20 ≤ c.toNat := by
  simp only [Char.isDigit, Bool.and_eq_true, decide_eq_true_eq] at h
  have hlow : '0'.toNat ≤ c.toNat := h.1
  exact le_trans (by decide) hlow

theorem readDigits_visible : TakesVisible readDigits := by
  intro cs taken left h c hc
  simp only [readDigits] at h
  split at h
  · cases h
  · obtain ⟨rfl, -⟩ : cs.takeWhile Char.isDigit = taken ∧ _ = left := by simpa using h
    exact visible_of_isDigit (List.mem_takeWhile_imp hc)

/-- Marks in front of digits. -/
theorem readDigits_mapped_visible (mark : List Char) {cs taken left : List Char} (visible : Visible mark)
    (h : (readDigits cs).map (fun d => (mark ++ d.1, d.2)) = some (taken, left)) : Visible taken := by
  obtain ⟨⟨digits, more⟩, hd, he⟩ := Option.map_eq_some_iff.1 h
  obtain ⟨rfl, -⟩ := Prod.mk.inj he
  exact visible_append.2 ⟨visible, readDigits_visible hd⟩

theorem readInteger_visible : TakesVisible readInteger := by
  intro cs taken left h
  simp only [readInteger, Option.bind_eq_bind, Option.bind_eq_some_iff] at h
  obtain ⟨⟨digits, more⟩, hd, h⟩ := h
  simp only at h
  split at h
  · cases h
  · obtain ⟨rfl, -⟩ : digits = taken ∧ more = left := by simpa using h
    exact readDigits_visible hd

theorem readFraction_visible : TakesVisible readFraction := by
  intro cs taken left h
  unfold readFraction at h
  split at h
  · exact readDigits_mapped_visible ['.'] (by decide) h
  · cases h
    exact visible_nil

theorem readExponent_visible : TakesVisible readExponent := by
  intro cs taken left h
  unfold readExponent at h
  split at h
  · cases h
    exact visible_nil
  · next c rest =>
    split at h
    · next hc =>
      have hmark : 0x20 ≤ c.toNat := by rcases hc with rfl | rfl <;> decide
      split at h
      · exact readDigits_mapped_visible [c, '+'] (visible_cons.2 ⟨hmark, by decide⟩) h
      · exact readDigits_mapped_visible [c, '-'] (visible_cons.2 ⟨hmark, by decide⟩) h
      · exact readDigits_mapped_visible [c] (visible_cons.2 ⟨hmark, by decide⟩) h
    · cases h
      exact visible_nil

theorem readUnsigned_visible : TakesVisible readUnsigned := by
  intro cs taken left h
  simp only [readUnsigned, Option.bind_eq_bind, Option.bind_eq_some_iff] at h
  obtain ⟨⟨whole, more⟩, hw, ⟨fraction, more'⟩, hf, ⟨exponent, more''⟩, he, h⟩ := h
  obtain ⟨rfl, -⟩ : whole ++ fraction ++ exponent = taken ∧ more'' = left := by simpa using h
  exact visible_append.2 ⟨visible_append.2 ⟨readInteger_visible hw, readFraction_visible hf⟩, readExponent_visible he⟩

theorem readNumber_visible : TakesVisible readNumber := by
  intro cs taken left h
  unfold readNumber at h
  split at h
  · obtain ⟨⟨written, more⟩, hd, he⟩ := Option.map_eq_some_iff.1 h
    obtain ⟨rfl, -⟩ := Prod.mk.inj he
    exact visible_cons.2 ⟨by decide, readUnsigned_visible hd⟩
  · exact readUnsigned_visible h

/-! ## Values -/

theorem visible_itemChars : ∀ {items : List Json}, (∀ v ∈ items, Visible v.chars) → Visible (itemChars items)
  | [], _ => visible_nil
  | [v], h => h v List.mem_cons_self
  | v :: w :: items, h => by
    obtain ⟨hv, hrest⟩ := List.forall_mem_cons.1 h
    exact visible_append.2 ⟨hv, visible_cons.2 ⟨by decide, visible_itemChars hrest⟩⟩

theorem visible_memberChars : ∀ {members : List (Option (List Char) × Json)}, (∀ m ∈ members, Visible m.2.chars) →
    Visible (memberChars members)
  | [], _ => visible_nil
  | [(key, v)], h =>
    visible_append.2 ⟨visible_renderString key, visible_cons.2 ⟨by decide, h _ List.mem_cons_self⟩⟩
  | (key, v) :: w :: members, h => by
    obtain ⟨hv, hrest⟩ := List.forall_mem_cons.1 h
    have hmore : Visible (v.chars ++ ',' :: memberChars (w :: members)) :=
      visible_append.2 ⟨hv, visible_cons.2 ⟨by decide, visible_memberChars hrest⟩⟩
    exact visible_append.2 ⟨visible_renderString key, visible_cons.2 ⟨by decide, hmore⟩⟩

/-- The compact text of a value that can be read holds no control character. -/
theorem Readable.visible {v : Json} (h : Readable v) : Visible v.chars := by
  induction h with
  | null => decide
  | bool b => cases b <;> decide
  | number whole => exact readNumber_visible whole
  | string cs => exact visible_renderString _
  | array _ ih =>
    exact visible_cons.2 ⟨by decide, visible_append.2 ⟨visible_itemChars ih, by decide⟩⟩
  | object _ _ ih =>
    exact visible_cons.2 ⟨by decide, visible_append.2 ⟨visible_memberChars ih, by decide⟩⟩

end UsbInventory.Json
