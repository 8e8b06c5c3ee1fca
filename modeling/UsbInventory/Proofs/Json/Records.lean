/-
Records in JSON. A record is written as an object of its fields; the fields are found again by their names, in whatever
order they stand and whatever stands beside them, as long as no key stands twice.
-/
import UsbInventory.Json.Typed
import UsbInventory.Proofs.Json.Reading
import UsbInventory.Proofs.Number.Spelling

namespace UsbInventory

/-- Where every key stands once, the values under a key are the one that a look-up gives. -/
theorem filter_eq_lookup {α : Type} {name : String} : ∀ {entries : List (String × α)},
    (entries.map (·.1)).Nodup → (entries.filter (·.1 == name)).map (·.2) = (entries.lookup name).toList
  | [], _ => rfl
  | (key, v) :: entries, h => by
    simp only [List.map_cons, List.nodup_cons] at h
    have ih : (entries.filter (·.1 == name)).map (·.2) = (entries.lookup name).toList := filter_eq_lookup h.2
    by_cases hk : key = name
    · subst hk
      have hother : entries.filter (·.1 == key) = [] := by
        rw [List.filter_eq_nil_iff]
        rintro e he
        rw [beq_iff_eq]
        rintro rfl
        exact h.1 (List.mem_map_of_mem he)
      simp [hother]
    · have hk' : (name == key) = false := by simpa using Ne.symm hk
      rw [List.filter_cons_of_neg (by simpa using hk), List.lookup_cons, hk', ih]

namespace Json

/-! ## Writing -/

theorem readable_ofString (s : String) : Readable (ofString s) := .string s.toList

theorem readable_ofNat (n : Nat) : Readable (ofNat n) := by
  refine .number ?_
  rw [Decimal.toString_toList]
  exact readNumber_toDigits n

theorem readable_ofStrings (texts : List String) : Readable (.array (texts.map ofString)) := by
  refine .array fun v hv => ?_
  obtain ⟨s, -, rfl⟩ := List.mem_map.1 hv
  exact readable_ofString s

theorem readable_ofMembers {members : List (String × Json)} (h : ∀ m ∈ members, Readable m.2) :
    Readable (ofMembers members) := by
  refine .object (fun m hm => ?_) (fun m hm => ?_) <;> obtain ⟨e, he, rfl⟩ := List.mem_map.1 hm
  · rfl
  · exact h e he

/-! ## Reading -/

theorem toNat?_ofNat {bound n : Nat} (h : n ≤ bound) : toNat? bound (ofNat n) = some n := by
  have hall : (Nat.toDigits 10 n).all Char.isDigit = true := by
    simpa using fun c hc => Decimal.isDigit_of_mem hc
  have hread := (Numeral.spells_toDigits (by decide : 1 < 10) n).unsigned (by decide) h
  rw [ofNat, toNat?, Decimal.toString_toList, if_pos hall, hread]
  rfl

theorem toText?_ofString (s : String) : toText? (ofString s) = some s := by
  simp [toText?, ofString, toChars?]

theorem choiceName?_ofString (s : String) : choiceName? (ofString s) = some s := by
  simp [ofString, choiceName?]

theorem toTexts?_ofString (texts : List String) : toList? toText? (.array (texts.map ofString)) = some texts := by
  rw [toList?, List.mapM_map, show toText? ∘ ofString = pure from funext toText?_ofString]
  exact List.mapM_pure.trans (congrArg some (List.map_id' texts))

/-- The member of a record with a name is what a look-up gives. -/
theorem member?_ofMembers (name : String) : ∀ members : List (String × Json),
    (ofMembers members).member? name = members.lookup name
  | [] => rfl
  | (key, v) :: members => by
    have ih : (ofMembers members).member? name = members.lookup name := member?_ofMembers name members
    simp only [ofMembers, member?, List.map_cons, List.find?_cons] at ih ⊢
    by_cases hk : key = name
    · simp [hk]
    · have hkey : (some key.toList == some name.toList) = false := by simpa [String.toList_inj] using hk
      have hname : (name == key) = false := by simpa using Ne.symm hk
      rw [hkey, List.lookup_cons, hname]
      exact ih

/-- The fields of a record are found by their names, wherever they stand. -/
theorem fields?_ofMembers {members : List (String × Json)} (h : (members.map (·.1)).Nodup) (names : List String) :
    (ofMembers members).fields? names = some (names.map fun name => members.lookup name) := by
  have hvalues : ∀ name : String, ((members.map fun m => (some m.1.toList, m.2)).filter
      (·.1 == some name.toList)).map (·.2) = (members.lookup name).toList := by
    intro name
    rw [← filter_eq_lookup h, List.filter_map, List.map_map]
    have hkey : ∀ m : String × Json, (some m.1.toList == some name.toList) = (m.1 == name) := by
      intro m
      rw [Bool.eq_iff_iff]
      simp [String.toList_inj]
    simp [Function.comp_def, hkey]
  have hone : ∀ v : Option Json, ¬ 1 < v.toList.length := by rintro (_ | v) <;> simp
  have hhead : ∀ v : Option Json, v.toList.head? = v := by rintro (_ | v) <;> rfl
  simp [ofMembers, fields?, hvalues, hone, hhead]

end Json

end UsbInventory
