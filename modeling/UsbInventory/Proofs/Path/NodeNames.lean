/-
Node paths as names: the text of a path is its names with a slash before each, and it has no other names, as only a
slash parts them. Every node path that a witness leads to is written as steps and a stub, the last name as far as its
first colon; it is canonical unless the stub is `.`, `..` or, below the first level, nothing.
-/
import UsbInventory.DeviceTree.Snapshot
import UsbInventory.Proofs.Path.Canonical

namespace UsbInventory

open RawPath
open Text.Utf8 (encode encode_cons encode_append)

/-! ## Names of a text -/

/-- Every text with a slash before it is names with a slash before each. -/
theorem exists_names : ∀ cs : List Char, ∃ names : List (List Char), names ≠ [] ∧
    '/' :: cs = names.flatMap ('/' :: ·) ∧ ∀ name ∈ names, '/' ∉ name
  | [] => ⟨[[]], by simp, rfl, by simp⟩
  | c :: cs => by
    obtain ⟨names, hne, he, hwhole⟩ := exists_names cs
    by_cases hc : c = '/'
    · subst hc
      refine ⟨[] :: names, by simp, by rw [he]; rfl, fun name hn => ?_⟩
      rcases List.mem_cons.1 hn with rfl | hn
      · exact List.not_mem_nil
      · exact hwhole name hn
    · obtain ⟨first, more, rfl⟩ := List.exists_cons_of_ne_nil hne
      have hcs : cs = first ++ more.flatMap ('/' :: ·) := (List.cons.inj he).2
      refine ⟨(c :: first) :: more, by simp, by rw [hcs]; rfl, fun name hn => ?_⟩
      rcases List.mem_cons.1 hn with rfl | hn
      · rw [List.mem_cons, not_or]
        exact ⟨Ne.symm hc, hwhole first List.mem_cons_self⟩
      · exact hwhole name (List.mem_cons_of_mem _ hn)

theorem encode_flatMap : ∀ names : List (List Char),
    encode (names.flatMap ('/' :: ·)) = (names.map encode).flatMap (slash :: ·)
  | [] => rfl
  | name :: names => by
    rw [List.flatMap_cons, encode_append, encode_cons, encode_flatMap names]
    rfl

theorem slash_mem_encode {cs : List Char} : slash ∈ encode cs ↔ '/' ∈ cs :=
  Text.Utf8.byte_mem_encode (c := '/') (by decide)

/-- The pieces of a path that is written as names are these names. -/
theorem pieces_encode {names : List (List Char)} (h : ∀ name ∈ names, '/' ∉ name) :
    RawPath.pieces (encode (names.flatMap ('/' :: ·))) = [] :: names.map encode := by
  rw [encode_flatMap]
  refine pieces_flatMap (names.map encode) [] fun name hn => ?_
  obtain ⟨cs, hcs, rfl⟩ := List.mem_map.1 hn
  exact fun hs => h cs hcs (slash_mem_encode.1 hs)

theorem namesIn_encode {names : List (List Char)} (h : ∀ name ∈ names, '/' ∉ name) :
    namesIn (encode (names.flatMap ('/' :: ·))) = (names.map encode).filter isProper := by
  rw [namesIn, pieces_encode h, List.filter_cons_of_neg (by simp [isProper])]

theorem names_inj {names names' : List (List Char)} (h : ∀ name ∈ names, '/' ∉ name) (h' : ∀ name ∈ names', '/' ∉ name)
    (he : names.flatMap ('/' :: ·) = names'.flatMap ('/' :: ·)) : names = names' := by
  have hp : ([] :: names.map encode : List RawPath) = [] :: names'.map encode := by
    rw [← pieces_encode h, he, pieces_encode h']
  exact (List.map_inj_right fun _ _ => Text.Utf8.encode_injective).1 (List.cons.inj hp).2

theorem slash_ofPieces : ∀ {names : List RawPath}, names ≠ [] → slash :: ofPieces names = names.flatMap (slash :: ·)
  | [], h => absurd rfl h
  | [name], _ => by simp [ofPieces]
  | name :: next :: more, _ => by
    have ih := slash_ofPieces (List.cons_ne_nil next more)
    rw [ofPieces, List.flatMap_cons, ← ih]
    · rfl
    · exact List.cons_ne_nil next more

/-- The text of names from the root down. -/
def NodePath.textOf (names : List (List Char)) : List Char := if names.isEmpty then ['/'] else names.flatMap ('/' :: ·)

theorem NodePath.encode_textOf (names : List (List Char)) :
    encode (textOf names) = FileSystem.pathOf (names.map encode) := by
  cases names with
  | nil => rfl
  | cons name names => exact encode_flatMap (name :: names)

/-! ## The directory of a node -/

theorem encode_not_absolute {c : Char} (hc : c ≠ '/') (cs : List Char) :
    RawPath.isAbsolute (encode (c :: cs)) = false := by
  obtain ⟨b, rest, hb⟩ := List.exists_cons_of_ne_nil (Text.Utf8.encodeChar_ne_nil c)
  have hm : b ∈ encode [c] := by rw [encode_cons, hb]; exact List.mem_cons_self
  rw [encode_cons, hb]
  refine beq_eq_false_iff_ne.2 fun hs => hc ?_
  obtain rfl := Option.some.inj hs
  exact (List.mem_singleton.1 (slash_mem_encode.1 hm)).symm

/-- Slashes at the beginning of a text leave no names. -/
theorem namesIn_dropWhile : ∀ cs : List Char,
    namesIn (encode (cs.dropWhile (· == '/'))) = namesIn (encode cs)
  | [] => rfl
  | c :: cs => by
    by_cases hc : c = '/'
    · subst hc
      rw [List.dropWhile_cons_of_pos rfl, namesIn_dropWhile cs]
      exact (namesIn_append [] (encode cs)).symm
    · rw [List.dropWhile_cons_of_neg (by simpa using hc)]

namespace NodePath

theorem relative_below_root (p : NodePath) : RawPath.isAbsolute (encode (p.chars.dropWhile (· == '/'))) = false := by
  cases hd : p.chars.dropWhile (· == '/') with
  | nil => rfl
  | cons c cs =>
    have hc := List.head_dropWhile_not (· == '/') (l := p.chars) (by rw [hd]; simp)
    simp only [hd, List.head_cons, beq_eq_false_iff_ne] at hc
    exact encode_not_absolute hc cs

/-- The directory of a node adds the names of its path to the root of the snapshot. -/
theorem namesIn_nodeDir (root : RawPath) (p : NodePath) :
    (Snapshot.nodeDir root p).namesIn = root.namesIn ++ namesIn (encode p.chars) := by
  unfold Snapshot.nodeDir
  rw [namesIn_join p.relative_below_root, namesIn_dropWhile]

theorem isAbsolute_nodeDir (root : RawPath) (p : NodePath) :
    (Snapshot.nodeDir root p).isAbsolute = root.isAbsolute :=
  isAbsolute_join p.relative_below_root root

/-! ## Canonical node paths -/

/-- A name that leads down from a node. -/
structure IsStep (name : List Char) : Prop where
  some_ : name ≠ []
  whole : '/' ∉ name
  proper : name ≠ ['.']
  descends : name ≠ ['.', '.']

/-- A node path is canonical if it is the root, or steps down without a colon. -/
def Canonical (p : NodePath) : Prop :=
  p.chars = ['/'] ∨ ∃ names, names ≠ [] ∧ p.chars = names.flatMap ('/' :: ·) ∧ ∀ name ∈ names, IsStep name ∧ ':' ∉ name

theorem isStep_of_encode {cs : List Char} (h : RawPath.IsStep (encode cs)) : IsStep cs := by
  refine ⟨?_, fun hs => h.whole (slash_mem_encode.2 hs), ?_, ?_⟩
  · rintro rfl
    cases h.proper
  · rintro rfl
    cases h.proper
  · rintro rfl
    exact h.descends rfl

theorem IsStep.encode {cs : List Char} (h : IsStep cs) : RawPath.IsStep (encode cs) := by
  have inj : ∀ {ds : List Char}, cs ≠ ds → Text.Utf8.encode cs ≠ Text.Utf8.encode ds := fun hne he =>
    hne (Text.Utf8.encode_injective he)
  refine ⟨⟨fun hs => h.whole (slash_mem_encode.1 hs), ?_⟩, inj h.descends⟩
  have hnil := inj h.some_
  have hdot := inj h.proper
  simp only [isProper, Bool.and_eq_true, Bool.not_eq_true', List.isEmpty_eq_false_iff, bne_iff_ne]
  exact ⟨hnil, hdot⟩

/-- A node path written as steps and a stub: the name that the path ends in, as far as it goes. -/
structure Written (p : NodePath) (steps : List (List Char)) (stub : List Char) : Prop where
  text : p.chars = (steps ++ [stub]).flatMap ('/' :: ·)
  steps : ∀ name ∈ steps, IsStep name ∧ ':' ∉ name
  whole : '/' ∉ stub
  uncut : ':' ∉ stub

namespace Written

variable {p : NodePath} {steps : List (List Char)} {stub : List Char}

theorem whole_of_mem (h : p.Written steps stub) : ∀ name ∈ steps ++ [stub], '/' ∉ name := by
  intro name hn
  rcases List.mem_append.1 hn with hn | hn
  · exact (h.steps name hn).1.whole
  · rw [List.mem_singleton.1 hn]
    exact h.whole

theorem no_colon (h : p.Written steps stub) : ':' ∉ p.chars := by
  rw [h.text, List.mem_flatMap]
  rintro ⟨name, hn, hm⟩
  rcases List.mem_append.1 hn with hn | hn
  · exact (h.steps name hn).2 ((List.mem_cons.1 hm).resolve_left (by decide))
  · obtain rfl := List.mem_singleton.1 hn
    exact h.uncut ((List.mem_cons.1 hm).resolve_left (by decide))

/-- Only the stub can keep a path from being canonical. -/
theorem canonical_iff (h : p.Written steps stub) :
    p.Canonical ↔ ¬ (stub = ['.'] ∨ stub = ['.', '.'] ∨ stub = [] ∧ steps ≠ []) := by
  constructor
  · rintro (hroot | ⟨names, -, htext, hnames⟩) hstub
    · have he : steps ++ [stub] = [[]] := names_inj h.whole_of_mem (by simp) (by rw [← h.text, hroot]; rfl)
      obtain ⟨rfl, hs⟩ : steps = [] ∧ stub = [] := by simpa [List.append_eq_singleton_iff] using he
      simp [hs] at hstub
    · have he : steps ++ [stub] = names :=
        names_inj h.whole_of_mem (fun name hn => (hnames name hn).1.whole) (by rw [← h.text, htext])
      have hs := (hnames stub (by rw [← he]; simp)).1
      rcases hstub with hd | hd | ⟨hd, -⟩
      · exact hs.proper hd
      · exact hs.descends hd
      · exact hs.some_ hd
  · intro hstub
    rw [not_or, not_or, not_and_not_right] at hstub
    by_cases hs : stub = []
    · left
      rw [h.text, hs, hstub.2.2 hs]
      rfl
    · refine .inr ⟨steps ++ [stub], by simp, h.text, fun name hn => ?_⟩
      rcases List.mem_append.1 hn with hn | hn
      · exact h.steps name hn
      · rw [List.mem_singleton.1 hn]
        exact ⟨⟨hs, h.whole, hstub.1, hstub.2.1⟩, h.uncut⟩

/-- The directory of a node is inside the snapshot unless the path is nothing but `/..`. -/
theorem inside_iff (h : p.Written steps stub) (root : RawPath) :
    (Snapshot.nodeDir root p).Inside root ↔ p.chars ≠ ['/', '.', '.'] := by
  have hsteps : (steps.map encode).filter isProper = steps.map encode := by
    refine List.filter_eq_self.2 fun name hn => ?_
    obtain ⟨cs, hcs, rfl⟩ := List.mem_map.1 hn
    exact (h.steps cs hcs).1.encode.proper
  have hdown : ∀ name ∈ steps.map encode, name ≠ [dot, dot] := fun name hn => by
    obtain ⟨cs, hcs, rfl⟩ := List.mem_map.1 hn
    exact (h.steps cs hcs).1.encode.descends
  have hchars : p.chars = ['/', '.', '.'] ↔ steps = [] ∧ stub = ['.', '.'] := by
    rw [h.text]
    refine ⟨fun he => ?_, by rintro ⟨rfl, rfl⟩; rfl⟩
    have he : steps ++ [stub] = [['.', '.']] := names_inj h.whole_of_mem (by simp) he
    simpa [List.append_eq_singleton_iff] using he
  have hnames : (Snapshot.nodeDir root p).namesIn =
      root.namesIn ++ (steps.map encode ++ ([stub].map encode).filter isProper) := by
    rw [namesIn_nodeDir, h.text, namesIn_encode h.whole_of_mem, List.map_append, List.filter_append, hsteps]
  rw [RawPath.inside_iff (p.isAbsolute_nodeDir root) hnames, staysBelow_append hdown, Ne, hchars, not_and]
  by_cases hdots : stub = ['.', '.']
  · -- the stub leads one level up, so there must be one
    subst hdots
    have hfilter : ([['.', '.']].map encode).filter isProper = [[dot, dot]] := rfl
    rw [hfilter]
    cases steps with
    | nil => simp [staysBelow]
    | cons name steps =>
      rw [Nat.zero_add, List.map_cons, List.length_cons, staysBelow, if_pos rfl]
      simp [staysBelow]
  · have hstub : encode stub ≠ [dot, dot] := fun he => hdots (Text.Utf8.encode_injective (he.trans rfl))
    refine iff_of_true ?_ fun _ => hdots
    rw [List.map_singleton, List.filter_cons]
    split
    · rw [List.filter_nil, staysBelow_cons hstub, staysBelow]
    · rw [List.filter_nil, staysBelow]

end Written

end NodePath

end UsbInventory
