/-
The absolute form of a path, found without a look at the files: a relative path is put below the working directory, and
empty names and `.` go, while `..` and a final slash stay. It asks for the same steps as the path, but for steps to `.`,
which stay where they are.
-/
import UsbInventory.Proofs.Files.Descent
import UsbInventory.Proofs.Path.Canonical

namespace UsbInventory

open RawPath

namespace RawPath

/-! ## Names in a row -/

theorem isName_of_mem_namesIn {p name : RawPath} (h : name ∈ p.namesIn) : IsName name := by
  obtain ⟨hmem, hproper⟩ := List.mem_filter.1 h
  exact ⟨whole_of_mem_pieces hmem, hproper⟩

theorem namesOf_name {name : RawPath} (h : IsName name) : FileSystem.namesOf name = [name] := by
  rw [FileSystem.namesOf, pieces_of_whole h.whole]
  simp [h.ne_nil]

/-- Names that are joined to a path one after the other are its last names. -/
theorem namesOf_foldl_join : ∀ (names : List RawPath) (start : RawPath), (∀ name ∈ names, IsName name) →
    FileSystem.namesOf (names.foldl join start) = FileSystem.namesOf start ++ names
  | [], start, _ => (List.append_nil _).symm
  | name :: names, start, h => by
    have hname := h name List.mem_cons_self
    have hjoin : FileSystem.namesOf (start.join name) = FileSystem.namesOf start ++ FileSystem.namesOf name :=
      filter_pieces_join rfl (not_absolute_of_whole hname.whole) start
    rw [List.foldl_cons, namesOf_foldl_join names _ fun n hn => h n (List.mem_cons_of_mem name hn), hjoin,
      namesOf_name hname, List.append_assoc]
    rfl

theorem foldl_join_ne_nil {start : RawPath} (h : start ≠ []) (names : List RawPath) : names.foldl join start ≠ [] := by
  induction names generalizing start with
  | nil => exact h
  | cons name names ih => exact ih (join_ne_nil h)

theorem isAbsolute_foldl_join {names : List RawPath} (h : ∀ name ∈ names, IsName name) (start : RawPath) :
    (names.foldl join start).isAbsolute = start.isAbsolute := by
  induction names generalizing start with
  | nil => rfl
  | cons name names ih =>
    rw [List.foldl_cons, ih fun n hn => h n (List.mem_cons_of_mem name hn),
      isAbsolute_join (not_absolute_of_whole (h name List.mem_cons_self).whole)]

theorem endsWithSlash_foldl_join {start : RawPath} (hstart : start ≠ []) {names : List RawPath} (hne : names ≠ [])
    (h : ∀ name ∈ names, IsName name) : (names.foldl join start).endsWithSlash = false := by
  obtain ⟨before, last, rfl⟩ := (List.eq_nil_or_concat names).resolve_left hne
  have hlast := h last (by simp)
  rw [List.concat_eq_append, List.foldl_append, List.foldl_cons, List.foldl_nil,
    FileSystem.endsWithSlash_join (foldl_join_ne_nil hstart before) (not_absolute_of_whole hlast.whole),
    not_endsWithSlash_of_whole hlast.whole, List.isEmpty_eq_false_iff.2 hlast.ne_nil]
  rfl

theorem mem_join {p q : RawPath} {b : UInt8} (h : b ∈ p.join q) : b ∈ p ∨ b = slash ∨ b ∈ q := by
  unfold join at h
  split at h
  · exact .inr (.inr h)
  · split at h
    · exact (List.mem_append.1 h).imp_right .inr
    · exact (List.mem_append.1 h).imp_right List.mem_cons.1

theorem mem_foldl_join {b : UInt8} {names : List RawPath} {start : RawPath} (h : b ∈ names.foldl join start) :
    b ∈ start ∨ b = slash ∨ ∃ name ∈ names, b ∈ name := by
  induction names generalizing start with
  | nil => exact .inl h
  | cons name names ih =>
    rcases ih h with h | h | ⟨n, hn, h⟩
    · rcases mem_join h with h | h | h
      · exact .inl h
      · exact .inr (.inl h)
      · exact .inr (.inr ⟨name, List.mem_cons_self, h⟩)
    · exact .inr (.inl h)
    · exact .inr (.inr ⟨n, List.mem_cons_of_mem name hn, h⟩)

/-! ## The absolute form -/

/-- Where the absolute form of a path begins. -/
def absoluteStart (cwd p : RawPath) : RawPath :=
  if !p.isAbsolute then cwd
  else if p.take 2 = [slash, slash] ∧ p.take 3 ≠ [slash, slash, slash] then [slash, slash]
  else [slash]

theorem absolute_eq {p : RawPath} (h : p ≠ []) (cwd : RawPath) :
    absolute cwd p = if p.endsWithSlash then (p.namesIn.foldl join (absoluteStart cwd p)).join []
      else p.namesIn.foldl join (absoluteStart cwd p) := by
  rw [absolute, if_neg (by simpa using h)]
  rfl

theorem absoluteStart_cases (cwd p : RawPath) :
    p.isAbsolute = false ∧ absoluteStart cwd p = cwd ∨
      p.isAbsolute = true ∧ (absoluteStart cwd p = [slash] ∨ absoluteStart cwd p = [slash, slash]) := by
  unfold absoluteStart
  cases p.isAbsolute with
  | false => exact .inl ⟨rfl, rfl⟩
  | true =>
    refine .inr ⟨rfl, ?_⟩
    rw [if_neg (by simp)]
    split
    · exact .inr rfl
    · exact .inl rfl

/-- A path without names is a run of slashes. -/
theorem eq_slash_of_namesOf_eq_nil {p : RawPath} (h : FileSystem.namesOf p = []) : ∀ b ∈ p, b = slash := by
  induction p with
  | nil => exact fun _ hb => nomatch hb
  | cons c rest ih =>
    unfold FileSystem.namesOf pieces at h
    split at h
    · next hc =>
      intro b hb
      rcases List.mem_cons.1 hb with rfl | hb
      · exact hc
      · exact ih h b hb
    · split at h
      · cases h
      · cases h

theorem namesOf_ne_nil {p : RawPath} (h : p ≠ []) (hends : p.endsWithSlash = false) : FileSystem.namesOf p ≠ [] := by
  intro hnone
  obtain ⟨before, last, rfl⟩ := (List.eq_nil_or_concat p).resolve_left h
  have hlast := eq_slash_of_namesOf_eq_nil hnone last (by simp)
  simp [endsWithSlash, hlast] at hends

theorem isAbsolute_absolute {cwd p : RawPath} (hp : p ≠ []) (hcwd : cwd.isAbsolute = true) :
    (absolute cwd p).isAbsolute = true := by
  have hfull := isAbsolute_foldl_join (fun _ => isName_of_mem_namesIn (p := p)) (absoluteStart cwd p)
  have hstart : (absoluteStart cwd p).isAbsolute = true := by
    rcases absoluteStart_cases cwd p with ⟨-, h⟩ | ⟨-, h | h⟩
    · rw [h, hcwd]
    · rw [h]
      rfl
    · rw [h]
      rfl
  rw [absolute_eq hp]
  split
  · rw [isAbsolute_join rfl, hfull, hstart]
  · rw [hfull, hstart]

end RawPath

/-! ## Idle steps -/

/-- Steps with some of those left out that stay where they are. -/
inductive Leaner : List RawPath → List RawPath → Prop where
  | nil : Leaner [] []
  | keep (name : RawPath) {todo less : List RawPath} (rest : Leaner todo less) : Leaner (name :: todo) (name :: less)
  | drop {todo less : List RawPath} (rest : Leaner todo less) : Leaner ([dot] :: todo) less

namespace Leaner

theorem refl : ∀ todo : List RawPath, Leaner todo todo
  | [] => .nil
  | name :: todo => .keep name (refl todo)

theorem append {todo less more less' : List RawPath} (h : Leaner todo less) (h' : Leaner more less') :
    Leaner (todo ++ more) (less ++ less') := by
  induction h with
  | nil => exact h'
  | keep name rest ih => exact .keep name ih
  | drop rest ih => exact .drop ih

/-- Of steps that all stay where they are, one can be kept. -/
theorem dot {todo : List RawPath} (h : Leaner todo []) (hne : todo ≠ []) : Leaner todo [[RawPath.dot]] := by
  cases h with
  | nil => exact absurd rfl hne
  | drop rest => exact .keep _ rest

theorem namesIn (p : RawPath) : Leaner (FileSystem.namesOf p) p.namesIn := by
  unfold FileSystem.namesOf RawPath.namesIn
  induction p.pieces with
  | nil => exact .nil
  | cons piece pieces ih =>
    cases hempty : piece.isEmpty with
    | true =>
      have hidle : isProper piece = false := by simp [isProper, hempty]
      simpa [List.filter_cons, hempty, hidle] using ih
    | false =>
      cases hproper : isProper piece with
      | true => simpa [List.filter_cons, hempty, hproper] using ih.keep piece
      | false =>
        obtain rfl : piece = [RawPath.dot] := by simpa [isProper, hempty] using hproper
        simpa [List.filter_cons, hproper] using ih.drop

end Leaner

namespace FileSystem

/-- The absolute form asks for the steps of its start, and then for those of the path without idle ones. -/
theorem steps_absolute {cwd p : RawPath} (hp : p ≠ []) (hcwd : cwd ≠ []) :
    ∃ less, Leaner (steps p) less ∧ steps (absolute cwd p) = namesOf (absoluteStart cwd p) ++ less := by
  have hnames : ∀ name ∈ p.namesIn, IsName name := fun _ => isName_of_mem_namesIn
  have hstart : absoluteStart cwd p ≠ [] := by
    rcases absoluteStart_cases cwd p with ⟨-, h⟩ | ⟨-, h | h⟩ <;> simp [h, hcwd]
  rw [absolute_eq hp]
  cases hends : p.endsWithSlash with
  | true =>
    refine ⟨p.namesIn ++ [[dot]], ?_, ?_⟩
    · rw [steps, if_pos hends]
      exact (Leaner.namesIn p).append (.refl _)
    · rw [if_pos rfl, steps_join (foldl_join_ne_nil hstart _) rfl, namesOf_foldl_join _ _ hnames, List.append_assoc]
      rfl
  | false =>
    have hsteps : steps p = namesOf p := by
      rw [steps, hends]
      rfl
    have hless := Leaner.namesIn p
    rw [if_neg Bool.false_ne_true, hsteps]
    by_cases hnone : p.namesIn = []
    · rw [hnone] at hless ⊢
      -- of the names of the path only its start is left, which may end in a slash of its own
      cases hslash : (absoluteStart cwd p).endsWithSlash with
      | true => exact ⟨[[dot]], hless.dot (namesOf_ne_nil hp hends), by rw [List.foldl_nil, steps, if_pos hslash]⟩
      | false =>
        refine ⟨[], hless, ?_⟩
        rw [List.foldl_nil, steps, hslash, List.append_nil]
        rfl
    · refine ⟨p.namesIn, hless, ?_⟩
      rw [steps, endsWithSlash_foldl_join hstart hnone hnames, namesOf_foldl_join _ _ hnames]
      rfl

/-- The absolute form of a path with a sound text has one as well. -/
theorem checkText_absolute {cwd p : RawPath} (hcwd : cwd ≠ []) (ended : 0 ∉ cwd) (h : checkText p = .ok ()) :
    checkText (absolute cwd p) = .ok () := by
  obtain ⟨hp, hended⟩ := checkText_eq_ok_iff.1 h
  have hstart : absoluteStart cwd p ≠ [] ∧ 0 ∉ absoluteStart cwd p := by
    rcases absoluteStart_cases cwd p with ⟨-, h⟩ | ⟨-, h | h⟩ <;> simp [h, hcwd, ended, slash]
  have hfull : ∀ names : List RawPath, (∀ name ∈ names, 0 ∉ name) → 0 ∉ names.foldl join (absoluteStart cwd p) := by
    intro names hnames h0
    rcases mem_foldl_join h0 with h | h | ⟨name, hn, h⟩
    · exact hstart.2 h
    · cases h
    · exact hnames name hn h
  have hnames : ∀ name ∈ p.namesIn, 0 ∉ name := fun name hn h0 =>
    hended (mem_of_mem_pieces (List.mem_filter.1 hn).1 h0).1
  obtain ⟨names, hends, heq⟩ : ∃ names : List RawPath, (∀ name ∈ names, 0 ∉ name) ∧
      absolute cwd p = names.foldl join (absoluteStart cwd p) := by
    rw [absolute_eq hp]
    split
    · refine ⟨p.namesIn ++ [[]], fun name hn => ?_, by rw [List.foldl_append]; rfl⟩
      rcases List.mem_append.1 hn with hn | hn
      · exact hnames name hn
      · rw [List.mem_singleton.1 hn]
        exact List.not_mem_nil
    · exact ⟨p.namesIn, hnames, rfl⟩
  rw [heq]
  exact checkText_eq_ok_iff.2 ⟨foldl_join_ne_nil hstart.1 names, hfull names hends⟩

theorem steps_ne_nil {p : RawPath} (h : p ≠ []) : steps p ≠ [] := by
  unfold steps
  cases hends : p.endsWithSlash with
  | true => simp
  | false => simpa using namesOf_ne_nil h hends

end FileSystem

end UsbInventory
