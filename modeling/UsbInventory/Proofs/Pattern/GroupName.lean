/-
Names of groups. Two numbers in hexadecimal with a dot between them match the pattern that the settings have by
default: it is read as two runs of hexadecimal digits around a dot, from the start of the name to its end.
-/
import UsbInventory.Pattern.Size
import UsbInventory.Proofs.Pattern.Matching
import UsbInventory.Settings.Basic
import UsbInventory.Text.Quoted

namespace UsbInventory

/-! ## Hexadecimal digits -/

namespace Text

theorem exists_of_mem_hexDigits (n : Nat) : ∀ c ∈ hexDigits n, ∃ d < 16, c = digitChar d := by
  induction n using hexDigits.induct with
  | case1 n hlow =>
    intro c hc
    rw [hexDigits, if_pos hlow] at hc
    exact ⟨n, hlow, List.mem_singleton.1 hc⟩
  | case2 n hhigh ih =>
    intro c hc
    rw [hexDigits, if_neg hhigh] at hc
    rcases List.mem_append.1 hc with hc | hc
    · exact ih c hc
    · exact ⟨n % 16, Nat.mod_lt n (by decide), List.mem_singleton.1 hc⟩

/-- What holds of the sixteen digits holds of every digit of a number. -/
theorem of_mem_hexDigits {p : Char → Bool} (h : ∀ d < 16, p (digitChar d) = true) {n : Nat} {c : Char}
    (hc : c ∈ hexDigits n) : p c = true := by
  obtain ⟨d, hd, rfl⟩ := exists_of_mem_hexDigits n c hc
  exact h d hd

end Text

/-! ## The pattern for names of groups -/

namespace Pattern

/-- The digits of numbers in hexadecimal, lower case. -/
def hexClass : Text.CodeSet := ⟨[48, 58, 97, 103]⟩

/-- The pattern for names of groups, as it is read. -/
def groupName : Pattern :=
  .seq (.anchor .textStart) (.seq (.times (.chars hexClass) 1 none) (.seq (.chars ⟨[46, 47]⟩)
    (.seq (.times (.chars hexClass) 1 none) (.anchor .textEnd))))

theorem parse_defaultGroupPattern : parse defaultGroupPattern = .ok groupName := by
  have h : (parse defaultGroupPattern).toOption = some groupName := by decide +kernel
  cases hp : parse defaultGroupPattern with
  | error e =>
    rw [hp] at h
    cases h
  | ok p =>
    rw [hp] at h
    exact congrArg _ (Option.some.inj h)

/-- Two runs of hexadecimal digits with a dot between them are the name of a group. -/
theorem isMatch_runs {a b : List Char} (ha : a ≠ []) (hb : b ≠ []) (hda : ∀ c ∈ a, hexClass.holds c = true)
    (hdb : ∀ c ∈ b, hexClass.holds c = true) : groupName.isMatch (a ++ '.' :: b) = true := by
  have hend : ∀ before, Takes (.anchor .textEnd) before [] [] := fun _ => takes_anchor rfl
  have hdot : ∀ before after, Takes (.chars ⟨[46, 47]⟩) before ['.'] after := fun _ _ => takes_char (by decide)
  have htakes : Takes groupName [] ([] ++ (a ++ (['.'] ++ (b ++ [])))) [] :=
    takes_seq (takes_anchor rfl) (takes_seq (takes_run ha hda)
      (takes_seq (hdot _ _) (takes_seq (takes_run hb hdb) (hend _))))
  simpa using isMatch_of_takes htakes

end Pattern

end UsbInventory
