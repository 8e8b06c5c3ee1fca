/-
What a resolved path stands for below the device-tree root, in every case and however the root is written. The root
counts by its components: a path without them in front is outside, and otherwise the names that are left are joined and
cut just before their first colon, so a colon in the root never counts. Hence cutting undoes composing: a minor device
composed from a root, a node path and a suffix leads back to the node.
-/
import UsbInventory.Proofs.Files.Locations
import UsbInventory.Proofs.Pass.NodePaths

namespace UsbInventory

open RawPath
open Text.Utf8 (encode)

/-! ## Roots in any spelling -/

namespace RawPath

theorem components_absolute {root : RawPath} (h : root.isAbsolute = true) :
    root.components = .root :: root.namesIn.map .name := by
  unfold components opening
  rw [if_pos h]
  rfl

/-- Names written as a path and joined to the path of a location make that of the location below it. -/
theorem join_ofPieces {loc : Location} {names : List RawPath} (hne : names ≠ []) (h : ∀ name ∈ loc, IsName name)
    (hn : ∀ name ∈ names, IsName name) :
    (FileSystem.pathOf loc).join (ofPieces names) = FileSystem.pathOf (loc ++ names) := by
  have hslash := slash_ofPieces hne
  have habsolute : (ofPieces names).isAbsolute = false := by
    -- a slash at the beginning would be a second one before the first name
    obtain ⟨first, more, rfl⟩ := List.exists_cons_of_ne_nil hne
    have hfirst := hn first List.mem_cons_self
    obtain ⟨b, rest, rfl⟩ := List.exists_cons_of_ne_nil hfirst.ne_nil
    rw [List.flatMap_cons, List.cons_append, List.cons_append] at hslash
    rw [(List.cons.inj hslash).2, isAbsolute, List.head?_cons, beq_eq_false_iff_ne]
    intro hb
    exact hfirst.whole (Option.some.inj hb ▸ List.mem_cons_self)
  by_cases hloc : loc = []
  · subst hloc
    unfold RawPath.join
    rw [habsolute, List.nil_append, pathOf_eq hne, ← hslash]
    rfl
  · unfold RawPath.join
    rw [habsolute, endsWithSlash_pathOf hloc h, List.isEmpty_eq_false_iff.2 (pathOf_ne_nil loc),
      pathOf_eq (List.append_ne_nil_of_right_ne_nil loc hne), List.flatMap_append, ← hslash, pathOf_eq hloc]
    rfl

end RawPath

theorem RawPath.IsCanonical.isAbsolute {p : RawPath} (h : p.IsCanonical) : p.isAbsolute = true := by
  obtain ⟨names, rfl, -⟩ := h
  exact isAbsolute_pathOf names

namespace Witness

/-! ## What a path stands for -/

/-- What a resolved path stands for below a root: nothing, where the root is not in front of it or what is left is no
text, and otherwise the node whose path is what is left, cut and with a slash before it. -/
inductive StandsFor (p root : RawPath) : Except CandidateError NodeCut → Prop where
  | outside (apart : ¬ root.components <+: p.components) : StandsFor p root (.error (.outsideDeviceTree p root))
  | notText {below : List RawPath} (inside : p.components = root.components ++ below.map .name)
      (malformed : ∀ cs, encode cs ≠ ofPieces below) : StandsFor p root (.error (.notUtf8 p))
  | node {below : List RawPath} {cs kept : List Char} {node : NodePath}
      (inside : p.components = root.components ++ below.map .name) (text : encode cs = ofPieces below)
      (cut : CutText cs kept) (chars : node.chars = '/' :: kept) :
      StandsFor p root (.ok ⟨node, cs.contains ':'⟩)

section

variable {p root : RawPath} {below : List RawPath}

theorem stripBase?_of_inside (hp : p.IsCanonical) (hroot : root.isAbsolute = true)
    (inside : p.components = root.components ++ below.map .name) : p.stripBase? root = some (ofPieces below) := by
  obtain ⟨names, rfl, hnames⟩ := hp
  rw [components_canonical (isStep_of_mem hnames), components_absolute hroot, List.cons_append, ← List.map_append]
    at inside
  obtain rfl := (List.map_inj_right fun _ _ => Component.name.inj).1 (List.cons.inj inside).2
  exact stripBase?_canonical (components_absolute hroot) fun name hn =>
    (hnames name (List.mem_append_right root.namesIn hn)).toIsName

/-- The components of a canonical path behind those of a root are names. -/
theorem exists_inside (hp : p.IsCanonical) (hroot : root.isAbsolute = true)
    (hfront : root.components <+: p.components) :
    ∃ below : List RawPath, p.components = root.components ++ below.map .name := by
  obtain ⟨names, rfl, hnames⟩ := hp
  rw [components_canonical (isStep_of_mem hnames), components_absolute hroot, List.prefix_cons_inj] at hfront
  obtain ⟨below, rfl⟩ := (List.prefix_map_iff_of_injective fun _ _ => Component.name.inj).1 hfront
  refine ⟨below, ?_⟩
  rw [components_canonical (isStep_of_mem hnames), components_absolute hroot, List.map_append, List.cons_append]

/-- What a path stands for by its components is what is cut of it. -/
theorem standsFor_iff_cuts (hp : p.IsCanonical) (hroot : root.isAbsolute = true)
    {result : Except CandidateError NodeCut} : StandsFor p root result ↔ Cuts p root result := by
  constructor
  · intro h
    cases h with
    | outside apart =>
      refine .outside (Option.eq_none_iff_forall_ne_some.2 fun left hs => apart (prefix_of_stripBase? hs))
    | notText inside malformed => exact .notText (stripBase?_of_inside hp hroot inside) malformed
    | node inside text cut chars => exact .node (stripBase?_of_inside hp hroot inside) text cut chars
  · intro h
    cases h with
    | outside apart =>
      refine .outside fun hfront => ?_
      obtain ⟨below, inside⟩ := exists_inside hp hroot hfront
      rw [stripBase?_of_inside hp hroot inside] at apart
      cases apart
    | notText hs malformed =>
      obtain ⟨below, inside⟩ := exists_inside hp hroot (prefix_of_stripBase? hs)
      rw [stripBase?_of_inside hp hroot inside] at hs
      exact .notText inside (Option.some.inj hs ▸ malformed)
    | node hs text cut chars =>
      obtain ⟨below, inside⟩ := exists_inside hp hroot (prefix_of_stripBase? hs)
      rw [stripBase?_of_inside hp hroot inside] at hs
      exact .node inside (text.trans (Option.some.inj hs).symm) cut chars

end

end Witness

/-! ## Composing -/

namespace NodePath

theorem chars_eq_cons (p : NodePath) : p.chars = '/' :: p.chars.tail := by
  obtain ⟨c, cs, hc⟩ := List.exists_cons_of_ne_nil (List.ne_nil_of_mem (List.mem_of_head? p.absolute))
  have habsolute := p.absolute
  rw [hc] at habsolute ⊢
  obtain rfl := Option.some.inj habsolute
  rfl

/-- A name with a suffix after a colon leads down as well. -/
theorem IsStep.minor {name suffix : List Char} (h : IsStep name) (hsuffix : '/' ∉ suffix) :
    IsStep (name ++ ':' :: suffix) := by
  have hcolon : ':' ∈ name ++ ':' :: suffix := by simp
  refine ⟨List.ne_nil_of_mem hcolon, ?_, fun he => ?_, fun he => ?_⟩
  · rw [List.mem_append, List.mem_cons, not_or, not_or]
    exact ⟨h.whole, by decide, hsuffix⟩
  · rw [he] at hcolon
    exact absurd hcolon (by decide)
  · rw [he] at hcolon
    exact absurd hcolon (by decide)

/-- The names of a minor device: those of its node, with the suffix at the last one. -/
theorem Canonical.minor {p : NodePath} (h : p.Canonical) (hp : p.chars ≠ ['/']) {suffix : List Char}
    (hsuffix : '/' ∉ suffix) : ∃ names : List (List Char), names ≠ [] ∧ (∀ name ∈ names, IsStep name) ∧
      '/' :: (p.chars.tail ++ ':' :: suffix) = names.flatMap ('/' :: ·) := by
  obtain ⟨names, hne, htext, hnames⟩ := h.resolve_left hp
  obtain ⟨front, last, rfl⟩ := (List.eq_nil_or_concat names).resolve_left hne
  rw [List.concat_eq_append] at htext hnames
  refine ⟨front ++ [last ++ ':' :: suffix], by simp, fun name hn => ?_, ?_⟩
  · rcases List.mem_append.1 hn with hn | hn
    · exact (hnames name (List.mem_append_left _ hn)).1
    · obtain rfl := List.mem_singleton.1 hn
      exact (hnames last (by simp)).1.minor hsuffix
  · rw [← List.cons_append, ← p.chars_eq_cons, htext]
    simp

theorem Canonical.no_colon {p : NodePath} (h : p.Canonical) : ':' ∉ p.chars := by
  rcases h with h | ⟨names, -, htext, hnames⟩
  · rw [h]
    decide
  · rw [htext, List.mem_flatMap]
    rintro ⟨name, hn, hm⟩
    exact (hnames name hn).2 ((List.mem_cons.1 hm).resolve_left (by decide))

end NodePath

namespace Witness

/-- The path of a minor device of a node stands for the node. -/
theorem standsFor_minor {node : NodePath} (hnode : node.Canonical) (hbelow : node.chars ≠ ['/']) {root : RawPath}
    (hroot : root.IsCanonical) {suffix : List Char} (hsuffix : '/' ∉ suffix) :
    (root.join (encode (node.chars.tail ++ ':' :: suffix))).IsCanonical ∧
    StandsFor (root.join (encode (node.chars.tail ++ ':' :: suffix))) root (.ok ⟨node, true⟩) := by
  obtain ⟨names, hne, hsteps, htext⟩ := hnode.minor hbelow hsuffix
  obtain ⟨above, rfl, habove⟩ := hroot
  have hraw : ∀ name ∈ names.map encode, RawPath.IsStep name := by
    intro name hn
    obtain ⟨cs, hcs, rfl⟩ := List.mem_map.1 hn
    exact (hsteps cs hcs).encode
  have hsome : names.map encode ≠ [] := by simpa using hne
  have hbytes : encode (node.chars.tail ++ ':' :: suffix) = ofPieces (names.map encode) := by
    have hslash : slash :: encode (node.chars.tail ++ ':' :: suffix) = slash :: ofPieces (names.map encode) := by
      rw [slash_ofPieces hsome, ← encode_flatMap, ← htext]
      rfl
    exact (List.cons.inj hslash).2
  have hall : ∀ name ∈ above ++ names.map encode, RawPath.IsStep name := fun name hn =>
    (List.mem_append.1 hn).elim (habove name) (hraw name)
  have inside : (FileSystem.pathOf (above ++ names.map encode)).components =
      (FileSystem.pathOf above).components ++ (names.map encode).map .name := by
    rw [components_canonical (isStep_of_mem hall), components_canonical (isStep_of_mem habove), List.map_append,
      List.cons_append]
  have huncut : ':' ∉ node.chars.tail := fun hm => hnode.no_colon (List.mem_of_mem_tail hm)
  have hcolon : (node.chars.tail ++ ':' :: suffix).contains ':' = true := by simp
  rw [show (FileSystem.pathOf above).join (encode (node.chars.tail ++ ':' :: suffix)) =
    FileSystem.pathOf (above ++ names.map encode) by
      rw [hbytes, join_ofPieces hsome (isStep_of_mem habove) (isStep_of_mem hraw)]]
  exact ⟨⟨_, rfl, hall⟩, hcolon ▸ .node inside hbytes (.colon huncut) node.chars_eq_cons⟩

end Witness

open Witness

/-- A canonical path stands below a root, in any spelling, for what its remaining components say, and for nothing else;
and the path of a minor device of a node stands for that node. -/
theorem resolved_path_stands_for :
    (∀ p root : RawPath, p.IsCanonical → root.isAbsolute = true → ∀ result,
      nodeOf p root = result ↔ StandsFor p root result) ∧
    ∀ (node : NodePath) (root : RawPath) (suffix : List Char), node.Canonical → node.chars ≠ ['/'] →
      root.IsCanonical → '/' ∉ suffix →
      nodeOf (root.join (encode (node.chars.tail ++ ':' :: suffix))) root = .ok ⟨node, true⟩ := by
  refine ⟨fun p root hp hroot result => nodeOf_eq_iff.trans (standsFor_iff_cuts hp hroot).symm,
    fun node root suffix hnode hbelow hroot hsuffix => ?_⟩
  obtain ⟨hcanonical, hminor⟩ := standsFor_minor hnode hbelow hroot hsuffix
  exact ((standsFor_iff_cuts hcanonical hroot.isAbsolute).1 hminor).nodeOf_eq

/-- A root with a colon in it, written with idle slashes and a `.`. -/
def colonRoot : RawPath := ofString "//srv/./a:b//"

/-- Below such a root a path is cut at its own first colon, and a directory beside the root is outside. -/
theorem colonRoot_stands_for :
    let inside := FileSystem.pathOf (["srv", "a:b", "pci@0", "device@2:a12.1:x"].map ofString)
    let beside := FileSystem.pathOf (["srv", "a:bc"].map ofString)
    inside.IsCanonical ∧ beside.IsCanonical ∧ colonRoot.isAbsolute = true ∧
      nodeOf inside colonRoot = .ok ⟨⟨"/pci@0/device@2".toList, by decide⟩, true⟩ ∧
      nodeOf beside colonRoot = .error (.outsideDeviceTree beside colonRoot) := by
  intro inside beside
  have canonical : ∀ {names : List RawPath}, (∀ name ∈ names, IsFileName name) →
      (FileSystem.pathOf names).IsCanonical := fun h =>
    ⟨_, rfl, fun name hn => ⟨(h name hn).toIsName, (h name hn).ascends⟩⟩
  have hinside : inside.IsCanonical := canonical (by decide +kernel)
  have hbeside : beside.IsCanonical := canonical (by decide +kernel)
  have hroot : colonRoot.isAbsolute = true := by decide +kernel
  refine ⟨hinside, hbeside, hroot, ?_, ?_⟩
  · refine (resolved_path_stands_for.1 _ _ hinside hroot _).2 ?_
    exact @StandsFor.node inside colonRoot (["pci@0", "device@2:a12.1:x"].map ofString)
      "pci@0/device@2:a12.1:x".toList "pci@0/device@2".toList _ (by decide +kernel) (by decide +kernel)
      (@CutText.colon "pci@0/device@2".toList "a12.1:x".toList (by decide)) rfl
  · exact (resolved_path_stands_for.1 _ _ hbeside hroot _).2 (.outside (by decide +kernel))

end UsbInventory
