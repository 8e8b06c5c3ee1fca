/-
Which texts are read as filters. By the rules a filter is two sides with a colon between them, each a star or the marker
`0x` with one to four hexadecimal digits. Whatever is written so is read, as the ids that the digits spell; but behind
the marker the reader of numerals takes a plus sign as well, in the place of one digit, so the rules are those of the
texts without a plus sign.
-/
import UsbInventory.Filter
import UsbInventory.Proofs.Number.Acceptance

namespace UsbInventory

/-! ## Parts of a text -/

theorem splitAt?_append {mark : Char} : ∀ {before : List Char}, mark ∉ before → ∀ after : List Char,
    splitAt? mark (before ++ mark :: after) = some (before, after)
  | [], _, after => by rw [List.nil_append, splitAt?, if_pos rfl]
  | c :: before, hm, after => by
    have hne : c ≠ mark := fun h => hm (h ▸ List.mem_cons_self)
    rw [List.cons_append, splitAt?, if_neg hne, splitAt?_append (fun h => hm (List.mem_cons_of_mem c h)) after]
    rfl

theorem of_splitAt? {mark : Char} : ∀ {cs before after : List Char}, splitAt? mark cs = some (before, after) →
    cs = before ++ mark :: after
  | [], before, after, h => by
    rw [splitAt?] at h
    cases h
  | c :: rest, before, after, h => by
    rw [splitAt?] at h
    split at h
    · next hc =>
      cases h
      rw [hc]
      rfl
    · obtain ⟨⟨b, a⟩, hsplit, hp⟩ := Option.map_eq_some_iff.1 h
      cases hp
      rw [of_splitAt? hsplit, List.cons_append]

/-- Characters of one byte are counted by either length. -/
theorem byteLength_eq_length {cs : List Char} (h : ∀ c ∈ cs, c.utf8Size = 1) : byteLength cs = cs.length := by
  induction cs with
  | nil => rfl
  | cons c cs ih =>
    have hc := h c List.mem_cons_self
    have hrest := ih fun d hd => h d (List.mem_cons_of_mem c hd)
    rw [byteLength, List.length_cons, hc, hrest, Nat.add_comm]

/-! ## Ids -/

open Numeral (Spells Unsigned)

theorem hexId?_eq_some_iff {cs : List Char} {id : UInt16} : hexId? cs = some id ↔ Unsigned 16 0xFFFF id.toNat cs := by
  unfold hexId?
  constructor
  · intro h
    split at h
    · next n hn =>
      obtain rfl := Option.some.inj h
      have hread := (Numeral.unsigned_eq_ok_iff (by decide)).1 hn
      have hbound : n ≤ 0xFFFF := by cases hread <;> assumption
      rwa [UInt16.toNat_ofNat_of_lt' (Nat.lt_succ_of_le hbound)]
    · cases h
  · intro h
    rw [(Numeral.unsigned_eq_ok_iff (by decide)).2 h]
    exact congrArg some UInt16.ofNat_toNat

namespace DeviceFilter

/-! ## Sides -/

/-- How a side of a filter is written: a star for any id, or an id in hexadecimal behind the marker. -/
inductive WrittenSide : Option UInt16 → List Char → Prop where
  | any : WrittenSide none ['*']
  | id {id : UInt16} {x : Char} {digits : List Char} (marked : x = 'x' ∨ x = 'X') (is : Spells 16 id.toNat digits)
      (short : digits.length ≤ 4) : WrittenSide (some id) ('0' :: x :: digits)

/-- What is read as a side of a filter. Behind the marker there may be a plus sign, which counts as a digit. -/
inductive ReadSide : Option UInt16 → List Char → Prop where
  | written {side : Option UInt16} {part : List Char} (is : WrittenSide side part) : ReadSide side part
  | plus {id : UInt16} {x : Char} {digits : List Char} (marked : x = 'x' ∨ x = 'X') (is : Spells 16 id.toNat digits)
      (short : digits.length ≤ 3) : ReadSide (some id) ('0' :: x :: '+' :: digits)

theorem afterMarker?_marked {x : Char} (h : x = 'x' ∨ x = 'X') (digits : List Char) :
    afterMarker? ('0' :: x :: digits) = some digits := by
  rcases h with rfl | rfl <;> rfl

theorem of_afterMarker? {part digits : List Char} (h : afterMarker? part = some digits) :
    ∃ x, (x = 'x' ∨ x = 'X') ∧ part = '0' :: x :: digits := by
  unfold afterMarker? at h
  split at h
  · cases h
    exact ⟨'x', .inl rfl, rfl⟩
  · cases h
    exact ⟨'X', .inr rfl, rfl⟩
  · cases h

theorem utf8Size_of_mem {n : Nat} {digits : List Char} (is : Spells 16 n digits) : ∀ c ∈ digits, c.utf8Size = 1 := by
  have hall : ("0123456789abcdefABCDEF".toList.all fun c => c.utf8Size == 1) = true := by decide
  intro c hc
  obtain ⟨d, low, hd⟩ := is.digit_of_mem hc
  exact beq_iff_eq.1 (List.all_eq_true.1 hall c (Numeral.mem_of_isDigit low hd))

/-- A marked side is read as the id in its digits, of which there are one to four. -/
theorem parseSide_marked (side : FilterSide) {x : Char} (marked : x = 'x' ∨ x = 'X') {digits : List Char} {id : UInt16}
    (ne : digits ≠ []) (short : byteLength digits ≤ 4) (hid : hexId? digits = some id) :
    parseSide side ('0' :: x :: digits) = .ok (some id) := by
  have hempty : digits.isEmpty = false := List.isEmpty_eq_false_iff.2 ne
  have hstar : '0' :: x :: digits ≠ ['*'] := fun h => nomatch h
  unfold parseSide
  rw [if_neg hstar, afterMarker?_marked marked]
  dsimp only
  rw [hempty, Bool.false_or, if_neg (by simpa using short), hid]

/-- A side is read as what it is written for, if a plus sign is let in behind the marker, and nothing else is read. -/
theorem parseSide_eq_ok_iff (name : FilterSide) {side : Option UInt16} {part : List Char} :
    parseSide name part = .ok side ↔ ReadSide side part := by
  constructor
  · intro h
    unfold parseSide at h
    split at h
    · next hstar =>
      cases h
      rw [hstar]
      exact .written .any
    · split at h
      · cases h
      · next digits hmarker =>
        obtain ⟨x, marked, rfl⟩ := of_afterMarker? hmarker
        split at h
        · cases h
        · next hlength =>
          split at h
          · next id hid =>
            cases h
            have hbytes : byteLength digits ≤ 4 := by
              by_contra hlong
              exact hlength (by simp; omega)
            cases hexId?_eq_some_iff.1 hid with
            | digits is _ =>
              rw [byteLength_eq_length (utf8Size_of_mem is)] at hbytes
              exact .written (.id marked is hbytes)
            | plus is _ =>
              rw [byteLength, byteLength_eq_length (utf8Size_of_mem is)] at hbytes
              have hplus : '+'.utf8Size = 1 := rfl
              exact .plus marked is (by omega)
          · cases h
  · intro h
    cases h with
    | written is =>
      cases is with
      | any => rfl
      | @id id x digits marked is short =>
        have hbound : id.toNat ≤ 0xFFFF := Nat.le_of_lt_succ id.toNat_lt
        refine parseSide_marked name marked is.ne_nil ?_ (hexId?_eq_some_iff.2 (.digits is hbound))
        rwa [byteLength_eq_length (utf8Size_of_mem is)]
    | @plus id x digits marked is short =>
      have hbound : id.toNat ≤ 0xFFFF := Nat.le_of_lt_succ id.toNat_lt
      refine parseSide_marked name marked (List.cons_ne_nil _ _) ?_ (hexId?_eq_some_iff.2 (.plus is hbound))
      have hplus : '+'.utf8Size = 1 := rfl
      rw [byteLength, byteLength_eq_length (utf8Size_of_mem is)]
      omega

/-- What is read as a side is read as one thing. -/
theorem ReadSide.unique {part : List Char} {a b : Option UInt16} (ha : ReadSide a part) (hb : ReadSide b part) :
    a = b := by
  have hread := (parseSide_eq_ok_iff .vendor).2 ha
  rw [(parseSide_eq_ok_iff .vendor).2 hb] at hread
  exact (Except.ok.inj hread).symm

/-- The characters of a written side. -/
theorem WrittenSide.of_mem {side : Option UInt16} {part : List Char} (h : WrittenSide side part) {c : Char}
    (hc : c ∈ part) : c ∈ "*xX0123456789abcdefABCDEF".toList := by
  cases h with
  | any =>
    obtain rfl := List.mem_singleton.1 hc
    decide
  | id marked is short =>
    rcases List.mem_cons.1 hc with rfl | hc
    · decide
    · rcases List.mem_cons.1 hc with rfl | hc
      · rcases marked with rfl | rfl <;> decide
      · obtain ⟨d, low, hd⟩ := is.digit_of_mem hc
        have hsub : "0123456789abcdefABCDEF".toList ⊆ "*xX0123456789abcdefABCDEF".toList := by decide
        exact hsub (Numeral.mem_of_isDigit low hd)

theorem WrittenSide.no_plus {side : Option UInt16} {part : List Char} (h : WrittenSide side part) : '+' ∉ part := by
  intro hc
  have hm := h.of_mem hc
  revert hm
  decide

theorem ReadSide.no_colon {side : Option UInt16} {part : List Char} (h : ReadSide side part) : ':' ∉ part := by
  have hwritten : ∀ {side part}, WrittenSide side part → ':' ∉ part := by
    intro side part is hc
    have hm := is.of_mem hc
    revert hm
    decide
  cases h with
  | written is => exact hwritten is
  | @plus id x digits marked is short =>
    have hbare := hwritten (.id marked is (Nat.le_succ_of_le short))
    simp only [List.mem_cons, not_or] at hbare ⊢
    exact ⟨hbare.1, hbare.2.1, by decide, hbare.2.2⟩

/-- The rules are what is read without a plus sign. -/
theorem writtenSide_iff {side : Option UInt16} {part : List Char} :
    WrittenSide side part ↔ ReadSide side part ∧ '+' ∉ part := by
  constructor
  · intro h
    exact ⟨.written h, h.no_plus⟩
  · rintro ⟨h, hplus⟩
    cases h with
    | written is => exact is
    | plus marked is short => exact absurd (by simp) hplus

/-! ## Filters -/

/-- A text that is written by the rules for filters. -/
def IsWritten (f : DeviceFilter) (text : String) : Prop :=
  ∃ vendor product, text.toList = vendor ++ ':' :: product ∧ WrittenSide f.vendor vendor ∧
    WrittenSide f.product product

/-- A text that is read as a filter. -/
def IsRead (f : DeviceFilter) (text : String) : Prop :=
  ∃ vendor product, text.toList = vendor ++ ':' :: product ∧ ReadSide f.vendor vendor ∧ ReadSide f.product product

/-- A text that asks for some ids: each of its sides is a star or says the id. -/
def AsksFor (text : String) (vendor product : UInt16) : Prop :=
  ∃ v p, text.toList = v ++ ':' :: p ∧ (v = ['*'] ∨ ReadSide (some vendor) v) ∧ (p = ['*'] ∨ ReadSide (some product) p)

theorem parse_eq_ok_iff {text : String} {f : DeviceFilter} : parse text = .ok f ↔ f.IsRead text := by
  unfold parse
  constructor
  · intro h
    split at h
    · cases h
    · next vendor product hsplit =>
      split at h
      · cases h
      · cases hv : parseSide .vendor vendor with
        | error e =>
          rw [hv] at h
          cases h
        | ok v =>
          cases hp : parseSide .product product with
          | error e =>
            rw [hv, hp] at h
            cases h
          | ok p =>
            rw [hv, hp] at h
            cases h
            exact ⟨vendor, product, of_splitAt? hsplit, (parseSide_eq_ok_iff .vendor).1 hv,
              (parseSide_eq_ok_iff .product).1 hp⟩
  · rintro ⟨vendor, product, htext, hv, hp⟩
    have hcolon : ¬ product.contains ':' = true := by simpa using hp.no_colon
    rw [htext, splitAt?_append hv.no_colon]
    dsimp only
    rw [if_neg hcolon, (parseSide_eq_ok_iff .vendor).2 hv, (parseSide_eq_ok_iff .product).2 hp]
    rfl

theorem isWritten_iff {text : String} {f : DeviceFilter} :
    f.IsWritten text ↔ parse text = .ok f ∧ '+' ∉ text.toList := by
  rw [parse_eq_ok_iff]
  constructor
  · rintro ⟨vendor, product, htext, hv, hp⟩
    refine ⟨⟨vendor, product, htext, .written hv, .written hp⟩, ?_⟩
    rw [htext, List.mem_append, List.mem_cons, not_or, not_or]
    exact ⟨hv.no_plus, by decide, hp.no_plus⟩
  · rintro ⟨⟨vendor, product, htext, hv, hp⟩, hplus⟩
    rw [htext, List.mem_append, List.mem_cons, not_or, not_or] at hplus
    exact ⟨vendor, product, htext, writtenSide_iff.2 ⟨hv, hplus.1⟩, writtenSide_iff.2 ⟨hp, hplus.2.2⟩⟩

/-- A side admits an id if it is a star or says this id. -/
theorem ReadSide.admits_iff {side : Option UInt16} {part : List Char} (h : ReadSide side part) {id : UInt16} :
    admits side id = true ↔ part = ['*'] ∨ ReadSide (some id) part := by
  unfold admits
  constructor
  · intro hadmits
    cases side with
    | none =>
      cases h with
      | written is =>
        cases is
        exact .inl rfl
    | some own =>
      have hown : own = id := by simpa using hadmits
      exact .inr (hown ▸ h)
  · rintro (rfl | hid)
    · rw [h.unique (.written .any)]
      rfl
    · rw [h.unique hid]
      simp

/-- A filter that is read accepts the ids that its text asks for. -/
theorem accepts_iff_asksFor {text : String} {f : DeviceFilter} (h : parse text = .ok f) {vendor product : UInt16} :
    f.accepts vendor product = true ↔ AsksFor text vendor product := by
  obtain ⟨v, p, htext, hv, hp⟩ := parse_eq_ok_iff.1 h
  unfold accepts
  rw [Bool.and_eq_true, hv.admits_iff, hp.admits_iff]
  constructor
  · rintro ⟨hvendor, hproduct⟩
    exact ⟨v, p, htext, hvendor, hproduct⟩
  · rintro ⟨v', p', htext', hvendor, hproduct⟩
    have hcolon : ':' ∉ v' := by
      rcases hvendor with rfl | hvendor
      · decide
      · exact hvendor.no_colon
    -- the first colon parts the text in one way only
    have hsame := splitAt?_append hcolon p'
    rw [← htext', htext, splitAt?_append hv.no_colon p] at hsame
    cases hsame
    exact ⟨hvendor, hproduct⟩

/-- What is read as a filter, and when the rules for filters say the same. A text is read exactly as its two sides are;
the texts that are written by the rules are those that are read and have no plus sign; so the rules hold of a text,
whatever it would be read as, exactly if it is not read or has no plus sign. A filter that is read accepts exactly the
ids that its text asks for. -/
theorem filter_read_iff (text : String) :
    (∀ f, parse text = .ok f ↔ f.IsRead text) ∧
    (∀ f, f.IsWritten text ↔ parse text = .ok f ∧ '+' ∉ text.toList) ∧
    ((∀ f, parse text = .ok f ↔ f.IsWritten text) ↔ ∀ f, parse text = .ok f → '+' ∉ text.toList) ∧
    ∀ f, parse text = .ok f → ∀ vendor product, f.accepts vendor product = true ↔ AsksFor text vendor product := by
  refine ⟨fun f => parse_eq_ok_iff, fun f => isWritten_iff, ⟨?_, ?_⟩, fun f hf vendor product => accepts_iff_asksFor hf⟩
  · intro hrules f hf
    exact (isWritten_iff.1 ((hrules f).1 hf)).2
  · intro hplus f
    constructor
    · intro hf
      exact isWritten_iff.2 ⟨hf, hplus f hf⟩
    · intro hf
      exact (isWritten_iff.1 hf).1

/-- Behind a marker a plus sign is read over, and such a text is not written by the rules. -/
theorem not_every_filter_written : ¬ ∀ (text : String) (f : DeviceFilter), parse text = .ok f ↔ f.IsWritten text := by
  intro h
  have hread : parse "0x+1:*" = .ok ⟨some 1, none⟩ := by rfl
  have hplus := (isWritten_iff.1 ((h "0x+1:*" ⟨some 1, none⟩).1 hread)).2
  revert hplus
  decide

end DeviceFilter

end UsbInventory
