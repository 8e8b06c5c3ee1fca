/-
The names of devices as names of files. They are short, have neither slashes nor NUL, and begin with something else
than a dot; and they tell devices apart, by the numbers of which they are made.
-/
import Mathlib.Data.Nat.Digits.Defs
import UsbInventory.Proofs.Files.Locations
import UsbInventory.Proofs.Pass.Naming
import UsbInventory.Proofs.Pattern.GroupName

namespace UsbInventory

open RawPath (ofString IsFileName)

/-! ## Short names -/

/-- A short text that names a file which is not hidden. -/
structure ShortName (s : String) : Prop where
  some_ : s.toList ≠ []
  shown : s.toList.head? ≠ some '.'
  whole : '/' ∉ s.toList
  ended : '\x00' ∉ s.toList
  short : s.toList.length ≤ 16

namespace ShortName

variable {s : String}

theorem isHidden (h : ShortName s) : RawPath.isHidden (ofString s) = false := by
  obtain ⟨c, cs, hs⟩ := List.exists_cons_of_ne_nil h.some_
  obtain ⟨b, bs, hb⟩ := List.exists_cons_of_ne_nil (Text.Utf8.encodeChar_ne_nil c)
  unfold RawPath.isHidden ofString
  rw [hs, Text.Utf8.encode_cons, hb, beq_eq_false_iff_ne]
  intro hd
  -- the dot is a byte of the first character, so the character is the dot
  have hm : UInt8.ofNat 46 ∈ Text.Utf8.encodeChar c := by
    rw [hb, show b = UInt8.ofNat 46 from Option.some.inj hd]
    exact List.mem_cons_self
  have hc : c = '.' := by
    rw [← Char.ofNat_toNat c, (Text.Utf8.byte_mem_encodeChar (by decide)).1 hm]
  exact h.shown (by rw [hs, hc]; rfl)

theorem length_le (h : ShortName s) : (ofString s).length ≤ 64 :=
  Nat.le_trans (Text.Utf8.length_encode_le s.toList) (Nat.mul_le_mul_left 4 h.short)

theorem isFileName (h : ShortName s) : IsFileName (ofString s) where
  toIsName := RawPath.isName_ofString h.whole h.some_ fun hd => h.shown (by rw [hd]; rfl)
  ascends hd := by
    have hs : s.toList = ['.', '.'] := Text.Utf8.encode_injective (show Text.Utf8.encode s.toList = _ from hd)
    exact h.shown (by rw [hs]; rfl)
  ended hm := h.ended ((Text.Utf8.byte_mem_encode (c := '\x00') (by decide)).1 hm)
  short := Nat.le_trans h.length_le (by decide)

theorem isComponent (h : ShortName s) : BoundedPath.isComponent (ofString s) = true := by
  have hw := h.isFileName.whole
  unfold BoundedPath.isComponent
  simp [h.isFileName.ne_nil, hw]

/-- Short names in a row make a location that its path can lead to. -/
theorem plain {names : List String} (hne : names ≠ []) (h : ∀ n ∈ names, ShortName n) (hlen : names.length ≤ 15) :
    Location.Plain (names.map ofString) where
  some_ := by simpa using hne
  names := List.forall_mem_map.2 fun n hn => (h n hn).isFileName
  shallow := by
    unfold FileSystem.maxPath
    rw [List.length_map]
    omega

end ShortName

/-! ## Names by numbers -/

/-- A number after a mark is a short name. -/
theorem ShortName.of_number {s : String} (mark : List Char) {n : Nat} (hs : s.toList = mark ++ Nat.toDigits 10 n)
    (hn : n < 100000) (hlen : mark.length ≤ 11) (hmark : '.' ∉ mark ∧ '/' ∉ mark ∧ '\x00' ∉ mark) : ShortName s := by
  have hdigits : (Nat.toDigits 10 n).length ≤ 5 := Nat.toDigits_length 10 n 5 (by decide) hn
  have hmem : ∀ {c : Char}, c.isDigit = false → c ∉ mark → c ∉ s.toList := by
    intro c hc hm
    rw [hs, List.mem_append, not_or]
    exact ⟨hm, Decimal.notMem_toDigits hc⟩
  refine ⟨?_, fun hd => hmem rfl hmark.1 (List.mem_of_head? hd), hmem rfl hmark.2.1, hmem rfl hmark.2.2, ?_⟩
  · rw [hs]
    exact fun h => Nat.toDigits_ne_nil (List.append_eq_nil_iff.1 h).2
  · rw [hs, List.length_append]
    omega

namespace AttachedDevice

variable (d : AttachedDevice)

/-- The number of the instance of a device in its group. -/
def instanceName : String := toString (256 * d.bus.toNat + d.address.toNat)

theorem shortName_busName : ShortName d.busName :=
  .of_number _ d.busName_toList (Nat.lt_trans d.bus.toNat_lt (by decide)) (by decide) (by decide)

theorem shortName_unitName : ShortName d.unitName :=
  .of_number _ d.unitName_toList (Nat.lt_trans d.address.toNat_lt (by decide)) (by decide) (by decide)

variable {d} {d' : AttachedDevice}

theorem busName_inj : d'.busName = d.busName ↔ d'.bus = d.bus := by
  rw [← String.toList_inj, busName_toList, busName_toList, List.append_cancel_left_eq]
  exact ⟨fun h => UInt8.toNat_inj.1 (Decimal.toDigits_inj h), fun h => by rw [h]⟩

theorem unitName_inj : d'.unitName = d.unitName ↔ d'.address = d.address := by
  rw [← String.toList_inj, unitName_toList, unitName_toList, List.append_cancel_left_eq]
  exact ⟨fun h => UInt8.toNat_inj.1 (Decimal.toDigits_inj h), fun h => by rw [h]⟩

end AttachedDevice

end UsbInventory
