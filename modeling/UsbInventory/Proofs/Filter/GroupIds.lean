/-
Groups and devices under the same filters. The name of a group spells two ids in hexadecimal, with any number of zeros
in front; reading it gives back the ids, however many digits it has. So the walk, which filters names, and the pass over
the bus, which filters numbers, admit the same ids.
-/
import UsbInventory.Backend.Basic
import UsbInventory.Proofs.Filter.Admission
import UsbInventory.Proofs.Filter.Grammar

namespace UsbInventory

/-! ## Numbers in hexadecimal -/

namespace Text

/-- A number in hexadecimal, lower case, with some zeros in front. -/
def zeroPadded (zeros n : Nat) : List Char := List.replicate zeros '0' ++ hexDigits n

theorem spells_hexDigits (n : Nat) : Numeral.Spells 16 n (hexDigits n) := by
  have hdigit : ∀ d < 16, Numeral.IsDigit d (digitChar d) := by
    intro d hd
    left
    revert d
    decide
  induction n using hexDigits.induct with
  | case1 n hlow =>
    rw [hexDigits, if_pos hlow]
    exact .digit hlow (hdigit n hlow)
  | case2 n hhigh ih =>
    have hlow : n % 16 < 16 := Nat.mod_lt n (by decide)
    have h := ih.next hlow (hdigit _ hlow)
    rw [Nat.div_add_mod'] at h
    rwa [hexDigits, if_neg hhigh]

theorem spells_zeroPadded (zeros n : Nat) : Numeral.Spells 16 n (zeroPadded zeros n) := (spells_hexDigits n).zeros zeros

/-- What holds of the sixteen digits holds of every digit of a padded number. -/
theorem of_mem_zeroPadded {p : Char → Bool} (h : ∀ d < 16, p (digitChar d) = true) {zeros n : Nat} {c : Char}
    (hc : c ∈ zeroPadded zeros n) : p c = true := by
  rcases List.mem_append.1 hc with hc | hc
  · rw [List.eq_of_mem_replicate hc]
    exact h 0 (by decide)
  · exact of_mem_hexDigits h hc

end Text

/-! ## Reading the name of a group -/

open Text (zeroPadded)

theorem hexId?_zeroPadded (zeros : Nat) (id : UInt16) : hexId? (zeroPadded zeros id.toNat) = some id := by
  have hbound : id.toNat ≤ 0xFFFF := Nat.le_of_lt_succ id.toNat_lt
  unfold hexId?
  rw [(Text.spells_zeroPadded zeros id.toNat).unsigned (by decide) hbound]
  exact congrArg some UInt16.ofNat_toNat

/-- The name of a group for two ids, with some zeros in front of each. -/
def groupNamed (vendorZeros : Nat) (vendor : UInt16) (productZeros : Nat) (product : UInt16) : List Char :=
  zeroPadded vendorZeros vendor.toNat ++ '.' :: zeroPadded productZeros product.toNat

section Named

variable (m n : Nat) (vendor product : UInt16)

theorem groupIds?_groupNamed : groupIds? (groupNamed m vendor n product) = some (vendor, product) := by
  have hdot : '.' ∉ zeroPadded m vendor.toNat := by
    intro hmem
    have h : ('.' != '.') = true := Text.of_mem_zeroPadded (p := (· != '.')) (by decide) hmem
    cases h
  unfold groupIds? groupNamed
  rw [splitAt?_append hdot]
  simp only [Option.bind_eq_bind, Option.bind_some, hexId?_zeroPadded]
  rfl

theorem isMatch_groupNamed : Pattern.groupName.isMatch (groupNamed m vendor n product) = true := by
  have hrun : ∀ zeros k, ∀ c ∈ zeroPadded zeros k, Pattern.hexClass.holds c = true :=
    fun _ _ _ => Text.of_mem_zeroPadded (by decide)
  exact Pattern.isMatch_runs (Text.spells_zeroPadded _ _).ne_nil (Text.spells_zeroPadded _ _).ne_nil (hrun _ _)
    (hrun _ _)

/-- Filters admit the name as they allow the ids. -/
theorem admits_groupNamed (filters : List DeviceFilter) : Walk.admits filters (groupNamed m vendor n product) =
    DeviceFilter.allowed filters vendor product := by
  unfold Walk.admits DeviceFilter.allowed
  rw [groupIds?_groupNamed]
  cases filters <;> rfl

end Named

/-! ## Both backends -/

/-- Filters mean the same to both backends. Where all of them can be read, the walk admits a group that is named for
some ids, whatever zeros stand in front of these, exactly if a device with the ids on the bus is identified and not
filtered out. The name always matches the pattern that the settings have by default. -/
theorem backends_filter_alike {texts : List String} {filters : List DeviceFilter}
    (h : DeviceFilter.parseAll texts = .ok filters) (m n : Nat) (vendor product : UInt16) :
    (∃ pattern, Pattern.parse defaultGroupPattern = .ok pattern ∧
      pattern.isMatch (groupNamed m vendor n product) = true) ∧
    ∀ (settings : DiscoverySettings) (directories : Directories) (tree : DeviceTree) (w : Walk) (c : Configuration)
      (bus : Bus), settings.filters = texts → Walk.ofSettings settings directories tree = .ok w →
      c.discovery.filters = texts → c.backendKind = .libusb → bus.setup = 0 →
      ∃ inForce, Backend.create c bus = .ok (.bus inForce) ∧
        ∀ d : AttachedDevice, d.vendor = vendor → d.product = product → d.descriptor = 0 →
          d.outcome inForce =
            if Walk.admits w.filters (groupNamed m vendor n product) then .identified d.identity else .filtered := by
  refine ⟨⟨_, Pattern.parse_defaultGroupPattern, isMatch_groupNamed m n vendor product⟩, ?_⟩
  intro settings directories tree w c bus hsettings hw hc hkind hsetup
  refine ⟨filters, ?_, ?_⟩
  · unfold Backend.create
    rw [hkind, hc, h]
    exact if_neg (not_not.2 hsetup)
  · intro d hvendor hproduct hdescriptor
    obtain ⟨pattern, -, rfl⟩ := Walk.ofSettings_ok hw
    dsimp only
    rw [hsettings, Walk.usableFilters_of_parseAll h, admits_groupNamed]
    unfold AttachedDevice.outcome
    rw [if_neg (not_not.2 hdescriptor), hvendor, hproduct]
    cases DeviceFilter.allowed filters vendor product <;> rfl

/-- A filter on a vendor admits a padded name and a device with its ids, and neither for another vendor. -/
theorem vendor_filters_alike : ∃ filters,
    Backend.create { discovery := ({} : DiscoverySettings).filteredBy ["0x0A12:*"] } {} = .ok (.bus filters) ∧
    Walk.admits (Walk.usableFilters ["0x0A12:*"]) "00a12.01".toList = true ∧
    Walk.admits (Walk.usableFilters ["0x0A12:*"]) "bda.1".toList = false ∧
    ∀ d : AttachedDevice, d.product = 1 → d.descriptor = 0 →
      (d.vendor = 0xa12 → d.outcome filters = .identified d.identity) ∧
      (d.vendor = 0xbda → d.outcome filters = .filtered) := by
  have hread : DeviceFilter.parseAll ["0x0A12:*"] = .ok [⟨some 0xa12, none⟩] := by rfl
  have hw := ofSettings_filteredBy ["0x0A12:*"] sampleFiles.directories sampleTree
  have hname : groupNamed 2 0xa12 1 1 = "00a12.01".toList := by decide +kernel
  have hother : groupNamed 0 0xbda 0 1 = "bda.1".toList := by decide +kernel
  obtain ⟨filters, hcreate, hvendor⟩ := (backends_filter_alike hread 2 1 0xa12 1).2 _ _ _ _
    { discovery := ({} : DiscoverySettings).filteredBy ["0x0A12:*"] } {} rfl hw rfl rfl rfl
  obtain ⟨filters', hcreate', hvendor'⟩ := (backends_filter_alike hread 0 0 0xbda 1).2 _ _ _ _
    { discovery := ({} : DiscoverySettings).filteredBy ["0x0A12:*"] } {} rfl hw rfl rfl rfl
  rw [hname] at hvendor
  rw [hother] at hvendor'
  rw [hcreate] at hcreate'
  cases hcreate'
  exact ⟨filters, hcreate, by decide, by decide, fun d hproduct hdescriptor =>
    ⟨fun hv => hvendor d hv hproduct hdescriptor, fun hv => hvendor' d hv hproduct hdescriptor⟩⟩

end UsbInventory
