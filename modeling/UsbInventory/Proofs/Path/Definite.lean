/-
Paths in absolute form. They are names with one slash before each, perhaps with another slash in front of all and
perhaps with one at the end; every path that is not empty has such a form, and one that has it is its own absolute form,
whatever the working directory is. So making a path absolute twice is the same as doing it once.
-/
import UsbInventory.Proofs.Path.Absolute

namespace UsbInventory.RawPath

open FileSystem (pathOf endsWithSlash_append)

/-! ## Names behind slashes -/

/-- What stands in front of a path that is joined to stays there. -/
theorem append_join (front : RawPath) {p q : RawPath} (hp : p ≠ []) (hq : q.isAbsolute = false) :
    (front ++ p).join q = front ++ p.join q := by
  have hfull : (front ++ p).isEmpty = false := List.isEmpty_eq_false_iff.2 (List.append_ne_nil_of_right_ne_nil front hp)
  unfold join
  rw [hq, hfull, List.isEmpty_eq_false_iff.2 hp, endsWithSlash_append front hp]
  cases p.endsWithSlash with
  | true => exact List.append_assoc front p q
  | false => exact List.append_assoc front p (slash :: q)

theorem append_foldl_join (front : RawPath) {names : List RawPath} (h : ∀ name ∈ names, IsName name) :
    ∀ {p : RawPath}, p ≠ [] → names.foldl join (front ++ p) = front ++ names.foldl join p := by
  induction names with
  | nil => exact fun _ => rfl
  | cons name names ih =>
    intro p hp
    have hname := not_absolute_of_whole (h name List.mem_cons_self).whole
    rw [List.foldl_cons, List.foldl_cons, append_join front hp hname,
      ih (fun n hn => h n (List.mem_cons_of_mem name hn)) (join_ne_nil hp)]

theorem namesIn_pathOf {names : List RawPath} (h : ∀ name ∈ names, IsName name) : (pathOf names).namesIn = names := by
  by_cases hne : names = []
  · subst hne
    rfl
  · unfold namesIn
    rw [pieces_pathOf hne fun name hn => (h name hn).whole, List.filter_cons_of_neg (by simp [isProper]),
      List.filter_eq_self]
    exact fun name hn => (h name hn).proper

/-- The path of a location begins with one slash. -/
theorem pathOf_eq_cons {names : List RawPath} (h : ∀ name ∈ names, IsName name) :
    ∃ rest, pathOf names = slash :: rest ∧ rest.head? ≠ some slash := by
  cases names with
  | nil => exact ⟨[], rfl, nofun⟩
  | cons name names =>
    have hname := h name List.mem_cons_self
    obtain ⟨b, bytes, rfl⟩ := List.exists_cons_of_ne_nil hname.ne_nil
    refine ⟨b :: bytes ++ names.flatMap (slash :: ·), ?_, ?_⟩
    · rw [pathOf_eq (List.cons_ne_nil _ _), List.flatMap_cons]
      rfl
    · intro hslash
      obtain rfl := Option.some.inj hslash
      exact hname.whole List.mem_cons_self

/-! ## Definite paths -/

/-- What may stand in front of the slash that a definite path begins with: nothing, or another slash. -/
def IsFront (front : RawPath) : Prop := front = [] ∨ front = [slash]

/-- A path in absolute form. -/
inductive IsDefinite : RawPath → Prop where
  | bare {front : RawPath} {names : List RawPath} (hfront : IsFront front) (h : ∀ name ∈ names, IsName name) :
      IsDefinite (front ++ pathOf names)
  | slashed {front : RawPath} {names : List RawPath} (hfront : IsFront front) (h : ∀ name ∈ names, IsName name) :
      IsDefinite ((front ++ pathOf names).join [])

section Start

variable {front : RawPath}

theorem absoluteStart_front (hfront : IsFront front) {rest : RawPath} (h : rest.head? ≠ some slash) (cwd : RawPath) :
    absoluteStart cwd (front ++ slash :: rest) = front ++ [slash] := by
  have hrest : ∀ b bytes, rest = b :: bytes → b ≠ slash := by
    rintro b bytes rfl rfl
    exact h rfl
  unfold absoluteStart
  rcases hfront with rfl | rfl
  · cases rest with
    | nil => rfl
    | cons b bytes => simp [isAbsolute, hrest b bytes rfl]
  · cases rest with
    | nil => rfl
    | cons b bytes => simp [isAbsolute, hrest b bytes rfl]

theorem front_ne_nil (front : RawPath) (names : List RawPath) : front ++ pathOf names ≠ [] :=
  List.append_ne_nil_of_right_ne_nil front (pathOf_ne_nil names)

theorem absoluteStart_bare (hfront : IsFront front) {names : List RawPath} (h : ∀ name ∈ names, IsName name)
    (cwd : RawPath) : absoluteStart cwd (front ++ pathOf names) = front ++ [slash] := by
  obtain ⟨rest, hrest, hone⟩ := pathOf_eq_cons h
  rw [hrest]
  exact absoluteStart_front hfront hone cwd

theorem absoluteStart_slashed (hfront : IsFront front) {names : List RawPath} (h : ∀ name ∈ names, IsName name)
    (cwd : RawPath) : absoluteStart cwd ((front ++ pathOf names).join []) = front ++ [slash] := by
  obtain ⟨rest, hrest, hone⟩ := pathOf_eq_cons h
  have hjoin : (pathOf names).join [] = pathOf names ∨
      rest ≠ [] ∧ (pathOf names).join [] = slash :: (rest ++ [slash]) := by
    rw [hrest]
    cases rest with
    | nil => exact .inl rfl
    | cons b bytes =>
      cases hends : endsWithSlash (slash :: b :: bytes) with
      | true =>
        left
        simp [join, isAbsolute, hends]
      | false =>
        right
        simp [join, isAbsolute, hends]
  rw [append_join front (pathOf_ne_nil names) rfl]
  rcases hjoin with hsame | ⟨hsome, hslash⟩
  · rw [hsame]
    exact absoluteStart_bare hfront h cwd
  · rw [hslash]
    refine absoluteStart_front hfront ?_ cwd
    obtain ⟨b, bytes, rfl⟩ := List.exists_cons_of_ne_nil hsome
    exact hone

theorem namesIn_front (hfront : IsFront front) {names : List RawPath} (h : ∀ name ∈ names, IsName name) :
    (front ++ pathOf names).namesIn = names := by
  rcases hfront with rfl | rfl
  · exact namesIn_pathOf h
  · exact (namesIn_append [] (pathOf names)).trans (namesIn_pathOf h)

/-- Names that are joined to the slashes in front are written with one slash before each. -/
theorem foldl_join_front (front : RawPath) {names : List RawPath} (h : ∀ name ∈ names, IsName name) :
    names.foldl join (front ++ [slash]) = front ++ pathOf names := by
  have hroot : names.foldl join (pathOf []) = pathOf ([] ++ names) := foldl_join_pathOf (List.forall_mem_nil _) h
  rw [append_foldl_join front h (List.cons_ne_nil slash [])]
  exact congrArg (front ++ ·) hroot

end Start

theorem IsDefinite.isAbsolute {p : RawPath} (h : p.IsDefinite) : p.isAbsolute = true := by
  have hfull : ∀ {front : RawPath} {names : List RawPath}, IsFront front →
      (front ++ pathOf names).isAbsolute = true := by
    rintro front names (rfl | rfl)
    · exact isAbsolute_pathOf names
    · rfl
  cases h with
  | bare hfront _ => exact hfull hfront
  | slashed hfront _ =>
    rw [isAbsolute_join rfl]
    exact hfull hfront

/-- A path in absolute form is its own absolute form. -/
theorem IsDefinite.absolute_eq_self {p : RawPath} (h : p.IsDefinite) (cwd : RawPath) : absolute cwd p = p := by
  cases h with
  | @bare front names hfront h =>
    rw [absolute_eq (front_ne_nil front names), namesIn_front hfront h, absoluteStart_bare hfront h,
      foldl_join_front front h]
    split
    · next hends =>
      -- this is the path of the root, and no slash is added to its own
      simp [join, RawPath.isAbsolute, hends]
    · rfl
  | @slashed front names hfront h =>
    have hne := front_ne_nil front names
    have hends : ((front ++ pathOf names).join []).endsWithSlash = true := FileSystem.endsWithSlash_join hne rfl
    have hnames : ((front ++ pathOf names).join []).namesIn = names := by
      rw [namesIn_join rfl, namesIn_front hfront h]
      exact List.append_nil names
    rw [absolute_eq (join_ne_nil hne), if_pos hends, hnames, absoluteStart_slashed hfront h, foldl_join_front front h]

/-- The absolute form of a path that is not empty is definite. -/
theorem isDefinite_absolute {p : RawPath} (hp : p ≠ []) {work : Location} (hwork : ∀ name ∈ work, IsName name) :
    (absolute (pathOf work) p).IsDefinite := by
  have hnames : ∀ name ∈ p.namesIn, IsName name := fun _ => isName_of_mem_namesIn
  obtain ⟨front, names, hfront, hall, hfull⟩ : ∃ (front : RawPath) (names : List RawPath), IsFront front ∧
      (∀ name ∈ names, IsName name) ∧ p.namesIn.foldl join (absoluteStart (pathOf work) p) = front ++ pathOf names := by
    rcases absoluteStart_cases (pathOf work) p with ⟨-, hs⟩ | ⟨-, hs | hs⟩
    · refine ⟨[], work ++ p.namesIn, .inl rfl, ?_, ?_⟩
      · intro name hn
        rcases List.mem_append.1 hn with hn | hn
        · exact hwork name hn
        · exact hnames name hn
      · rw [hs]
        exact foldl_join_pathOf hwork hnames
    · exact ⟨[], p.namesIn, .inl rfl, hnames, by rw [hs]; exact foldl_join_front [] hnames⟩
    · exact ⟨[slash], p.namesIn, .inr rfl, hnames, by rw [hs]; exact foldl_join_front [slash] hnames⟩
  rw [absolute_eq hp, hfull]
  split
  · exact .slashed hfront hall
  · exact .bare hfront hall

end UsbInventory.RawPath
