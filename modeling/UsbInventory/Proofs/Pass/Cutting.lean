/-
Cutting a node path out of a resolved path, by cases: nothing is left below the device-tree root, or what is left is no
text, or it is a text, which is cut just before its first colon and gets a slash in front, so that it always is the
path of a node.
-/
import Mathlib.Data.List.TakeWhile
import UsbInventory.Pass.Witness
import UsbInventory.Proofs.Text.Utf8

namespace UsbInventory

namespace Witness

open Text.Utf8 (encode)

/-- What is left of a text that is cut just before its first colon, if it has one. -/
inductive CutText : List Char → List Char → Prop where
  | whole {cs : List Char} (uncut : ':' ∉ cs) : CutText cs cs
  | colon {kept minor : List Char} (uncut : ':' ∉ kept) : CutText (kept ++ ':' :: minor) kept

theorem exists_cutText (cs : List Char) : ∃ kept, CutText cs kept := by
  by_cases hc : ':' ∈ cs
  · obtain ⟨kept, minor, rfl, uncut⟩ := List.eq_append_cons_of_mem hc
    exact ⟨kept, .colon uncut⟩
  · exact ⟨cs, .whole hc⟩

/-- The slash in front of a text is not cut. -/
theorem CutText.takeWhile_slash {cs kept : List Char} (h : CutText cs kept) :
    ('/' :: cs).takeWhile (· != ':') = '/' :: kept := by
  have hkept : ∀ {l : List Char}, ':' ∉ l → ∀ c ∈ l, (c != ':') = true := fun hl c hc =>
    bne_iff_ne.2 fun he => hl (he ▸ hc)
  rw [List.takeWhile_cons_of_pos (by decide)]
  cases h with
  | whole uncut => rw [List.takeWhile_eq_self_iff.2 (hkept uncut)]
  | colon uncut =>
    rw [List.takeWhile_append_of_pos (hkept uncut), List.takeWhile_cons_of_neg (by simp), List.append_nil]

/-- Everything that can come of a resolved path, by what is left of it below a root. -/
inductive Cuts (p root : RawPath) : Except CandidateError NodeCut → Prop where
  | outside (apart : p.stripBase? root = none) : Cuts p root (.error (.outsideDeviceTree p root))
  | notText {left : RawPath} (inside : p.stripBase? root = some left) (malformed : ∀ cs, encode cs ≠ left) :
      Cuts p root (.error (.notUtf8 p))
  | node {left : RawPath} {cs kept : List Char} {node : NodePath} (inside : p.stripBase? root = some left)
      (text : encode cs = left) (cut : CutText cs kept) (chars : node.chars = '/' :: kept) :
      Cuts p root (.ok ⟨node, cs.contains ':'⟩)

variable {p root : RawPath} {result : Except CandidateError NodeCut}

theorem Cuts.nodeOf_eq (h : Cuts p root result) : nodeOf p root = result := by
  cases h with
  | outside apart =>
    unfold nodeOf
    rw [apart]
  | @notText left inside malformed =>
    unfold nodeOf
    rw [inside]
    dsimp only
    cases hdecode : Text.Utf8.decode? left with
    | none => rfl
    | some cs => exact absurd (Text.Utf8.encode_of_decode? hdecode) (malformed cs)
  | @node left cs kept node inside text cut chars =>
    have hdecode : Text.Utf8.decode? left = some cs := text ▸ Text.Utf8.decode?_encode cs
    have hnode : NodePath.ofChars? ('/' :: kept) = some node := chars ▸ dif_pos node.absolute
    unfold nodeOf
    rw [inside]
    dsimp only
    rw [hdecode]
    dsimp only
    rw [cut.takeWhile_slash, hnode]
    simp

theorem exists_cuts (p root : RawPath) : ∃ result, Cuts p root result := by
  cases inside : p.stripBase? root with
  | none => exact ⟨_, .outside inside⟩
  | some left =>
    by_cases htext : ∃ cs, encode cs = left
    · obtain ⟨cs, text⟩ := htext
      obtain ⟨kept, cut⟩ := exists_cutText cs
      exact ⟨.ok ⟨⟨'/' :: kept, rfl⟩, cs.contains ':'⟩, .node inside text cut rfl⟩
    · exact ⟨_, .notText inside fun cs hcs => htext ⟨cs, hcs⟩⟩

/-- Resolved paths are cut in one of these ways, and in one only. -/
theorem nodeOf_eq_iff : nodeOf p root = result ↔ Cuts p root result := by
  refine ⟨?_, Cuts.nodeOf_eq⟩
  rintro rfl
  obtain ⟨result, h⟩ := exists_cuts p root
  rwa [h.nodeOf_eq]

/-- A witness is only found outside for want of anything left below the root. -/
theorem nodeOf_outside_iff (p root : RawPath) :
    nodeOf p root = .error (.outsideDeviceTree p root) ↔ p.stripBase? root = none := by
  rw [nodeOf_eq_iff]
  refine ⟨fun h => ?_, .outside⟩
  cases h with
  | outside apart => exact apart

end Witness

end UsbInventory
