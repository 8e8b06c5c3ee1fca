/-
The pieces of a path that is put together from names, and what is left of it below a base. A path without links,
`.` and repeated slashes is the names on its way with a slash before each; its pieces are an empty one and these
names, so dropping a base whose components are the first of them leaves the others.
-/
import Mathlib.Data.List.TakeWhile
import UsbInventory.Files.Basic
import UsbInventory.Proofs.Text.Utf8

namespace UsbInventory

namespace RawPath

/-- Whether a byte string can be a name in a path: it has no slash, and it names something. -/
structure IsName (name : RawPath) : Prop where
  whole : slash ∉ name
  proper : isProper name = true

theorem IsName.ne_nil {name : RawPath} (h : name.IsName) : name ≠ [] := by
  rintro rfl
  cases h.proper

theorem IsName.ne_dot {name : RawPath} (h : name.IsName) : name ≠ [dot] := by
  rintro rfl
  cases h.proper

theorem not_absolute_of_whole {p : RawPath} (h : slash ∉ p) : p.isAbsolute = false :=
  beq_eq_false_iff_ne.2 fun hs => h (List.mem_of_head? hs)

theorem not_endsWithSlash_of_whole {p : RawPath} (h : slash ∉ p) : p.endsWithSlash = false :=
  beq_eq_false_iff_ne.2 fun hs => h (List.mem_of_getLast? hs)

theorem ofString_inj {s t : String} : ofString s = ofString t ↔ s = t :=
  ⟨fun h => String.toList_inj.1 (Text.Utf8.encode_injective h), congrArg ofString⟩

theorem text?_ofString (s : String) : text? (ofString s) = some s := by
  unfold text? ofString
  rw [Text.Utf8.decode?_encode, Option.map_some, String.ofList_toList]

theorem slash_mem_ofString {s : String} : slash ∈ ofString s ↔ '/' ∈ s.toList :=
  Text.Utf8.byte_mem_encode (c := '/') (by decide)

/-- A text without a slash is a name, unless it is empty or `.`. -/
theorem isName_ofString {s : String} (whole : '/' ∉ s.toList) (some_ : s.toList ≠ []) (proper : s.toList ≠ ['.']) :
    IsName (ofString s) := by
  refine ⟨fun h => whole (slash_mem_ofString.1 h), ?_⟩
  have he : ofString s ≠ [] := fun h =>
    some_ (Text.Utf8.encode_injective (show Text.Utf8.encode s.toList = Text.Utf8.encode [] from h))
  have hd : ofString s ≠ [dot] := fun h =>
    proper (Text.Utf8.encode_injective (show Text.Utf8.encode s.toList = Text.Utf8.encode ['.'] from h))
  simp [isProper, he, hd]

/-! ## Pieces -/

theorem pieces_ne_nil : ∀ p : RawPath, p.pieces ≠ []
  | [] => by simp [pieces]
  | b :: rest => by
    unfold pieces
    split
    · simp
    · split <;> simp

/-- A slash parts the pieces before it from those after it. -/
theorem pieces_append : ∀ (p q : RawPath), (p ++ slash :: q).pieces = p.pieces ++ q.pieces
  | [], q => by simp [pieces]
  | b :: p, q => by
    have ih := pieces_append p q
    rw [List.cons_append, pieces, pieces, ih]
    split
    · rfl
    · cases hp : pieces p with
      | nil => exact absurd hp (pieces_ne_nil p)
      | cons piece more => rfl

theorem pieces_of_whole : ∀ {name : RawPath}, slash ∉ name → name.pieces = [name]
  | [], _ => rfl
  | b :: rest, h => by
    rw [List.mem_cons, not_or] at h
    rw [pieces, if_neg (Ne.symm h.1), pieces_of_whole h.2]

/-- The bytes of a piece are bytes of the path, and none is a slash. -/
theorem mem_of_mem_pieces {b : UInt8} : ∀ {p piece : RawPath}, piece ∈ p.pieces → b ∈ piece → b ∈ p ∧ b ≠ slash
  | [], piece, hp, hb => by
    cases List.mem_singleton.1 hp
    cases hb
  | c :: rest, piece, hp, hb => by
    unfold pieces at hp
    split at hp
    · rcases List.mem_cons.1 hp with rfl | hp
      · cases hb
      · obtain ⟨hmem, hne⟩ := mem_of_mem_pieces hp hb
        exact ⟨List.mem_cons_of_mem c hmem, hne⟩
    · next hc =>
      cases hr : pieces rest with
      | nil => exact absurd hr (pieces_ne_nil rest)
      | cons first more =>
        rw [hr] at hp
        have ih : ∀ q ∈ first :: more, b ∈ q → b ∈ c :: rest ∧ b ≠ slash := fun q hq hb => by
          obtain ⟨hmem, hne⟩ := mem_of_mem_pieces (hr ▸ hq) hb
          exact ⟨List.mem_cons_of_mem c hmem, hne⟩
        rcases List.mem_cons.1 hp with rfl | hp
        · rcases List.mem_cons.1 hb with rfl | hb
          · exact ⟨List.mem_cons_self, hc⟩
          · exact ih first List.mem_cons_self hb
        · exact ih piece (List.mem_cons_of_mem first hp) hb

theorem whole_of_mem_pieces {p piece : RawPath} (h : piece ∈ p.pieces) : slash ∉ piece := fun hs =>
  (mem_of_mem_pieces h hs).2 rfl

/-- The pieces of a path with names after it. -/
theorem pieces_flatMap : ∀ (names : List RawPath) (p : RawPath), (∀ name ∈ names, slash ∉ name) →
    (p ++ names.flatMap (slash :: ·)).pieces = p.pieces ++ names
  | [], p, _ => by rw [List.flatMap_nil, List.append_nil, List.append_nil]
  | name :: names, p, h => by
    have ih := pieces_flatMap names (p ++ slash :: name) fun n hn => h n (List.mem_cons_of_mem _ hn)
    rw [List.flatMap_cons, ← List.append_assoc, ih, pieces_append, pieces_of_whole (h name List.mem_cons_self),
      List.append_assoc]
    rfl

/-! ## Joining -/

theorem filter_pieces_append (keep : RawPath → Bool) (p q : RawPath) :
    (p ++ slash :: q).pieces.filter keep = p.pieces.filter keep ++ q.pieces.filter keep := by
  rw [pieces_append, List.filter_append]

/-- Joining a relative path adds its pieces, as far as empty ones do not count. -/
theorem filter_pieces_join {keep : RawPath → Bool} (hkeep : keep [] = false) {q : RawPath}
    (hq : q.isAbsolute = false) (p : RawPath) :
    (p.join q).pieces.filter keep = p.pieces.filter keep ++ q.pieces.filter keep := by
  unfold join
  rw [hq]
  by_cases hp : p = []
  · subst hp
    simp [pieces, hkeep]
  · rw [List.isEmpty_eq_false_iff.2 hp, Bool.false_or]
    cases hs : p.endsWithSlash with
    | false => exact filter_pieces_append keep p q
    | true =>
      -- the slash at the end of the path is the one between the two
      obtain ⟨before, last, rfl⟩ := (List.eq_nil_or_concat p).resolve_left hp
      obtain rfl : last = slash := by simpa [endsWithSlash] using hs
      have hlast : (pieces (before ++ [slash])).filter keep = (pieces before).filter keep := by
        rw [filter_pieces_append, pieces, List.filter_cons_of_neg (by simp [hkeep]), List.filter_nil, List.append_nil]
      rw [List.concat_eq_append, List.append_assoc, hlast]
      exact filter_pieces_append keep before q

theorem isAbsolute_join {q : RawPath} (hq : q.isAbsolute = false) (p : RawPath) :
    (p.join q).isAbsolute = p.isAbsolute := by
  unfold join
  rw [hq]
  cases p with
  | nil => exact hq
  | cons b p => cases endsWithSlash (b :: p) <;> rfl

/-! ## Components -/

theorem isName_of_mem_components {p name : RawPath} (h : Component.name name ∈ p.components) : IsName name := by
  unfold components at h
  rcases List.mem_append.1 h with h | h
  · unfold opening at h
    split at h
    · cases List.mem_singleton.1 h
    · split at h
      · cases List.mem_singleton.1 h
      · cases h
  · obtain ⟨n, hn, he⟩ := List.mem_map.1 h
    cases he
    obtain ⟨hm, hp⟩ := List.mem_filter.1 hn
    exact ⟨whole_of_mem_pieces hm, hp⟩

/-- A path whose components begin with the root opens with it. -/
theorem opening_of_components {p : RawPath} {rest : List Component} (h : p.components = .root :: rest) :
    p.opening = [.root] := by
  unfold components at h
  unfold opening at h ⊢
  split
  · rfl
  · next ha =>
    -- otherwise the first component would be `.` or a name
    rw [if_neg ha] at h
    split at h
    · cases h
    · cases hf : p.pieces.filter isProper with
      | nil =>
        rw [hf] at h
        cases h
      | cons name names =>
        rw [hf] at h
        cases h

/-- The path of a location that is not the root. -/
theorem pathOf_eq {names : List RawPath} (h : names ≠ []) :
    FileSystem.pathOf names = names.flatMap (slash :: ·) := by
  unfold FileSystem.pathOf
  exact if_neg (by simpa using h)

theorem isAbsolute_pathOf (names : List RawPath) : (FileSystem.pathOf names).isAbsolute = true := by
  by_cases h : names = []
  · subst h
    rfl
  · obtain ⟨name, rest, rfl⟩ := List.exists_cons_of_ne_nil h
    rw [pathOf_eq h]
    rfl

theorem pathOf_ne_nil (names : List RawPath) : FileSystem.pathOf names ≠ [] := by
  intro h
  have habsolute := isAbsolute_pathOf names
  rw [h] at habsolute
  cases habsolute

theorem pieces_pathOf {names : List RawPath} (hne : names ≠ []) (h : ∀ name ∈ names, slash ∉ name) :
    (FileSystem.pathOf names).pieces = [] :: names := by
  rw [pathOf_eq hne]
  exact pieces_flatMap names [] h

theorem components_pathOf {names : List RawPath} (hne : names ≠ []) (h : ∀ name ∈ names, IsName name) :
    (FileSystem.pathOf names).components = .root :: names.map .name := by
  have hfilter : names.filter isProper = names := List.filter_eq_self.2 fun name hn => (h name hn).proper
  unfold components opening
  rw [if_pos (isAbsolute_pathOf names), pieces_pathOf hne fun name hn => (h name hn).whole,
    List.filter_cons_of_neg (by simp [isProper]), hfilter]
  rfl

/-! ## What is left below a base -/

theorem dropIdle_of_proper {name : RawPath} (h : isProper name = true) (ps : List RawPath) :
    dropIdle (name :: ps) = name :: ps := if_pos h

theorem dropIdle_append : ∀ (idle ps : List RawPath), (∀ piece ∈ idle, isProper piece = false) →
    dropIdle (idle ++ ps) = dropIdle ps
  | [], _, _ => rfl
  | piece :: idle, ps, h => by
    rw [List.cons_append, dropIdle, if_neg (by rw [h piece List.mem_cons_self]; exact Bool.false_ne_true)]
    exact dropIdle_append idle ps fun p hp => h p (List.mem_cons_of_mem _ hp)

theorem dropIdleEnd_concat {name : RawPath} (h : isProper name = true) (ps : List RawPath) :
    dropIdleEnd (ps ++ [name]) = ps ++ [name] := by
  unfold dropIdleEnd
  rw [List.reverse_append, List.reverse_singleton, List.singleton_append, dropIdle_of_proper h]
  simp

/-- Names are dropped one by one. -/
theorem dropProper_names : ∀ (names rest : List RawPath), (∀ name ∈ names, IsName name) →
    dropProper names.length (names ++ rest) = rest
  | [], _, _ => by rw [List.length_nil, List.nil_append, dropProper]
  | name :: names, rest, h => by
    have ih := dropProper_names names rest fun n hn => h n (List.mem_cons_of_mem _ hn)
    rw [List.length_cons, List.cons_append, dropProper, if_pos (h name List.mem_cons_self).proper, ih]

/-- What is left of a path below a base is written as the names between. -/
theorem stripBase?_pathOf {base : RawPath} {above below : List RawPath}
    (hb : base.components = .root :: above.map .name) (hne : below ≠ []) (h : ∀ name ∈ below, IsName name) :
    (FileSystem.pathOf (above ++ below)).stripBase? base = some (ofPieces below) := by
  have habove : ∀ name ∈ above, IsName name := fun name hn =>
    isName_of_mem_components (hb ▸ List.mem_cons_of_mem _ (List.mem_map_of_mem hn))
  have hall : ∀ name ∈ above ++ below, IsName name := fun name hn =>
    (List.mem_append.1 hn).elim (habove name) (h name)
  have hne' : above ++ below ≠ [] := fun he => hne (List.append_eq_nil_iff.1 he).2
  have hprefix : base.components.isPrefixOf (FileSystem.pathOf (above ++ below)).components = true := by
    rw [hb, components_pathOf hne' hall, List.map_append]
    exact List.isPrefixOf_iff_prefix.2 (List.prefix_append _ _)
  have hcount : base.components.length - base.opening.length = above.length := by
    rw [opening_of_components hb, hb]
    simp
  -- dropping the names of the base may leave the empty piece before the first slash
  have hdrop : ∃ idle, (∀ piece ∈ idle, isProper piece = false) ∧
      dropProper above.length ([] :: (above ++ below)) = idle ++ below := by
    cases above with
    | nil => exact ⟨[[]], by simp [isProper], by rw [List.length_nil, dropProper]; rfl⟩
    | cons name above =>
      refine ⟨[], by simp, ?_⟩
      rw [List.length_cons, dropProper, if_neg (by simp [isProper])]
      exact dropProper_names (name :: above) below habove
  obtain ⟨idle, hidle, hdrop⟩ := hdrop
  have hend : dropIdleEnd (idle ++ below) = idle ++ below := by
    obtain ⟨before, last, rfl⟩ := (List.eq_nil_or_concat below).resolve_left hne
    rw [List.concat_eq_append, ← List.append_assoc]
    exact dropIdleEnd_concat (h last (by simp)).proper _
  have hstart : dropIdle (idle ++ below) = below := by
    rw [dropIdle_append idle below hidle]
    obtain ⟨first, after, rfl⟩ := List.exists_cons_of_ne_nil hne
    exact dropIdle_of_proper (h first List.mem_cons_self).proper after
  unfold stripBase?
  rw [if_pos hprefix, if_neg (by rw [hb]; simp)]
  dsimp only
  rw [hcount, pieces_pathOf hne' fun name hn => (hall name hn).whole, hdrop, hend, hstart]

end RawPath

end UsbInventory
