/-
Configurations that pass their checks. What is checked of the filters, of the name of the witness file and of the
capacity is all that later steps ask of them: no backend meets a filter that it cannot read, and no walk a component
that it has to refuse. So a backend is only missing where the bus or the device tree is, and a pass only fails for its
root or its pattern.
-/
import UsbInventory.Proofs.Filter.Admission
import UsbInventory.Proofs.Pass.Skipping
import UsbInventory.Proofs.Pass.Survey
import UsbInventory.Proofs.Path.Components
import UsbInventory.Proofs.Files.Names

namespace UsbInventory

/-! ## Checks -/

/-- A text names a component exactly if it is not empty and has no slash. -/
theorem RawPath.isComponent_ofString {s : String} :
    BoundedPath.isComponent (ofString s) = true ↔ s.isEmpty = false ∧ s.toList.contains '/' = false := by
  have hempty : (ofString s).isEmpty = s.isEmpty := by
    rw [Bool.eq_iff_iff, List.isEmpty_iff, String.isEmpty_iff]
    exact ofString_inj (t := "")
  have hslash : (ofString s).contains slash = s.toList.contains '/' := by
    rw [Bool.eq_iff_iff, List.contains_iff_mem, List.contains_iff_mem]
    exact slash_mem_ofString
  unfold BoundedPath.isComponent
  rw [hempty, hslash, Bool.and_eq_true, Bool.not_eq_true', Bool.not_eq_true']

namespace Configuration

/-- What is checked of a configuration. -/
structure Valid (c : Configuration) : Prop where
  logLevel : c.general.logLevel ∈ InvalidSetting.levelNames
  witnessFile : BoundedPath.isComponent (RawPath.ofString c.discovery.witnessFile) = true
  pathCapacity : c.discovery.pathCapacity ≠ 0
  devicesRoot : c.discovery.devicesRoot.isAbsolute = true
  filters : ∃ filters, DeviceFilter.parseAll c.discovery.filters = .ok filters

theorem validate_eq_ok {c : Configuration} : c.validate = .ok () ↔ c.Valid := by
  unfold validate
  dsimp only
  constructor
  · intro h
    split at h
    · cases h
    rename_i hlevel
    split at h
    · cases h
    rename_i hfile
    split at h
    · cases h
    rename_i hcapacity
    split at h
    · cases h
    rename_i hroot
    split at h
    · rename_i filters hfilters
      refine ⟨?_, RawPath.isComponent_ofString.2 ?_, hcapacity, ?_, filters, hfilters⟩
      · simpa using hlevel
      · simpa using hfile
      · simpa using hroot
    · cases h
  · rintro ⟨hlevel, hfile, hcapacity, hroot, filters, hfilters⟩
    obtain ⟨hempty, hslash⟩ := RawPath.isComponent_ofString.1 hfile
    rw [if_neg (by simpa using hlevel), if_neg (by rw [hempty, hslash]; decide), if_neg hcapacity,
      if_neg (by rw [hroot]; decide), hfilters]

/-- A configuration stands for one of the two backends. -/
theorem backendKind_cases (c : Configuration) : c.backendKind = .devinfo ∨ c.backendKind = .libusb := by
  unfold backendKind
  cases c.general.backend with
  | auto =>
    cases c.discovery.snapshotRoot with
    | none => exact .inr rfl
    | some root => exact .inl rfl
  | devinfo => exact .inl rfl
  | libusb => exact .inr rfl

end Configuration

/-! ## Backends -/

/-- A backend with filters that can be read is only missing for want of the bus or of a device tree. -/
theorem Backend.create_eq_error {c : Configuration} {filters : List DeviceFilter}
    (h : DeviceFilter.parseAll c.discovery.filters = .ok filters) {bus : Bus} {e : BackendFailure} :
    Backend.create c bus = .error e ↔
      (c.backendKind = .libusb ∧ bus.setup ≠ 0 ∧ e = .busSetup bus.setup) ∨
      (c.backendKind = .devinfo ∧ c.discovery.snapshotRoot = none ∧ e = .noDeviceTree) := by
  unfold Backend.create
  rcases c.backendKind_cases with hkind | hkind
  · rw [hkind]
    cases c.discovery.snapshotRoot <;> simp [eq_comm]
  · rw [hkind, h]
    by_cases hsetup : bus.setup = 0
    · simp [hsetup]
    · simp [hsetup, eq_comm]

/-- The checks of a configuration suffice. None of its filters is left out of a walk or refused by the bus, so a backend
is only missing where the bus cannot be used or there is no device tree. Over directories that list names, a pass of
the walk comes to its end, and whatever it skipped on the way was too long or was not what the file system led to; or
it fails, over a root that cannot be read or a pattern that cannot be. -/
theorem valid_configuration_suffices {c : Configuration} (h : c.validate = .ok ()) :
    (∃ filters, DeviceFilter.parseAll c.discovery.filters = .ok filters ∧
      Walk.usableFilters c.discovery.filters = filters ∧ Walk.badFilters c.discovery.filters = []) ∧
    (∀ (bus : Bus) (e : BackendFailure), Backend.create c bus = .error e ↔
      (c.backendKind = .libusb ∧ bus.setup ≠ 0 ∧ e = .busSetup bus.setup) ∨
      (c.backendKind = .devinfo ∧ c.discovery.snapshotRoot = none ∧ e = .noDeviceTree)) ∧
    ∀ (directories : Directories) (tree : DeviceTree), directories.ListsNames →
      (∃ r, survey c.discovery directories tree = .ok r ∧ r.SkipsExternally ∧
        ∀ {σ : Type} (tell : σ → RegistryCall → σ) (registry : σ),
          discover tell c.discovery directories tree registry =
            ((RegistryCall.ofPass r.devices r.summary).foldl tell registry, .ok r.summary)) ∨
      ∃ e, ((∃ cause, directories.readDir c.discovery.devUsbRoot = .error cause ∧
            e = .rootUnreadable c.discovery.devUsbRoot cause) ∨
          ∃ cause, Pattern.parse c.discovery.groupPattern = .error cause ∧
            e = .badPattern c.discovery.groupPattern cause) ∧
        ∀ {σ : Type} (tell : σ → RegistryCall → σ) (registry : σ),
          discover tell c.discovery directories tree registry = (registry, .error e) := by
  obtain ⟨-, hfile, -, -, filters, hfilters⟩ := Configuration.validate_eq_ok.1 h
  refine ⟨⟨filters, hfilters, Walk.usableFilters_of_parseAll hfilters, Walk.badFilters_of_parseAll hfilters⟩,
    fun bus e => Backend.create_eq_error hfilters, ?_⟩
  intro directories tree hnames
  cases hs : survey c.discovery directories tree with
  | ok r =>
    refine .inl ⟨r, rfl, skipsExternally_of_survey hs hnames hfile, fun tell registry => ?_⟩
    rw [discover_eq_survey, hs]
  | error e =>
    refine .inr ⟨e, survey_eq_error hs, fun tell registry => ?_⟩
    rw [discover_eq_survey, hs]

/-- With a filter, the sample is walked to the end and an instance without a witness skipped for that; a bus that cannot
be used is the one thing that keeps the backend from being created. -/
theorem sample_configuration_suffices :
    let c : Configuration := { discovery := ({} : DiscoverySettings).filteredBy ["0x0a12:*"] }
    c.validate = .ok () ∧ Walk.badFilters ["0x0a12:*"] = [] ∧
    (∀ e, Backend.create c { setup := -3 } = .error e ↔ e = .busSetup (-3)) ∧
    ∃ r, survey c.discovery sampleFiles.directories sampleTree = .ok r ∧ r.summary.instancesSkipped = 1 ∧
      r.SkipsExternally := by
  intro c
  have hvalid : c.validate = .ok () := ok_of_toOption (by decide +kernel)
  have hnames : sampleFiles.directories.ListsNames :=
    (FileSystem.Named.lawful (show sampleFiles.Named by decide)).components
  obtain ⟨⟨filters, -, -, hbad⟩, hcreate, hwalk⟩ := valid_configuration_suffices hvalid
  refine ⟨hvalid, hbad, fun e => ?_, ?_⟩
  · rw [hcreate]
    constructor
    · rintro (⟨-, -, rfl⟩ | ⟨hkind, -, -⟩)
      · rfl
      · cases hkind
    · rintro rfl
      exact .inl ⟨rfl, by decide, rfl⟩
  · have hskipped : (survey c.discovery sampleFiles.directories sampleTree).toOption.map
        (fun r => r.summary.instancesSkipped) = some 1 := by
      decide +kernel
    obtain ⟨r, hr, hone⟩ := Option.map_eq_some_iff.1 hskipped
    have hr := ok_of_toOption hr
    rcases hwalk sampleFiles.directories sampleTree hnames with ⟨r', hr', hexternal, -⟩ | ⟨e, -, hfail⟩
    · rw [hr] at hr'
      cases hr'
      exact ⟨r, hr, hone, hexternal⟩
    · have hends := congrArg Prod.snd (hfail RegistryCall.record [])
      rw [discover_eq_survey, hr] at hends
      cases hends

end UsbInventory
