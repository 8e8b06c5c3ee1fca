/-
Which groups the filters of a walk admit. A walk leaves out the texts of its filters that cannot be read. With one that
can be read it admits a group only where some text asks for its ids; with none left it has no filters, and no filters
admit every group, so a list of nothing but bad texts restricts nothing.
-/
import UsbInventory.Proofs.Pass.Counters
import UsbInventory.Proofs.Pattern.GroupName

namespace UsbInventory

variable {texts : List String} {filters : List DeviceFilter}

/-! ## Reading -/

namespace DeviceFilter

/-- Whether a text is a filter. -/
def isFilter (text : String) : Bool := (parse text).toOption.isSome

theorem isFilter_iff {text : String} : isFilter text = true ↔ ∃ f, parse text = .ok f := by
  unfold isFilter
  cases parse text with
  | error e => simp [Except.toOption]
  | ok f => simp [Except.toOption]

theorem parseAll_cons (text : String) (texts : List String) :
    parseAll (text :: texts) = (parse text).bind fun f => (parseAll texts).map (f :: ·) := by
  unfold parseAll
  rw [List.mapM_cons]
  cases parse text with
  | error e => rfl
  | ok f => cases texts.mapM parse <;> rfl

/-- A list is read exactly if each of its texts is, in its place. -/
theorem parseAll_eq_ok : ∀ {texts : List String} {filters : List DeviceFilter},
    parseAll texts = .ok filters ↔ texts.map parse = filters.map .ok
  | [], filters => by
    constructor
    · intro h
      cases h
      rfl
    · intro h
      rw [List.map_eq_nil_iff.1 h.symm]
      rfl
  | text :: texts, filters => by
    rw [parseAll_cons, List.map_cons]
    constructor
    · intro h
      cases hp : parse text with
      | error e =>
        rw [hp] at h
        cases h
      | ok f =>
        cases hrest : parseAll texts with
        | error e =>
          rw [hp, hrest] at h
          cases h
        | ok fs =>
          rw [hp, hrest] at h
          cases h
          rw [parseAll_eq_ok.1 hrest]
          rfl
    · intro h
      cases filters with
      | nil => cases h
      | cons f fs =>
        obtain ⟨hp, hrest⟩ := List.cons.inj h
        rw [hp, parseAll_eq_ok.2 hrest]
        rfl

end DeviceFilter

namespace Walk

open DeviceFilter (isFilter isFilter_iff)

theorem mem_usableFilters {f : DeviceFilter} :
    f ∈ usableFilters texts ↔ ∃ text ∈ texts, DeviceFilter.parse text = .ok f := by
  unfold usableFilters
  rw [List.mem_filterMap]
  constructor
  · rintro ⟨text, hm, hf⟩
    exact ⟨text, hm, ok_of_toOption hf⟩
  · rintro ⟨text, hm, hf⟩
    exact ⟨text, hm, by rw [hf]; rfl⟩

/-- No filter is left exactly if no text is one. -/
theorem usableFilters_eq_nil : usableFilters texts = [] ↔ ∀ text ∈ texts, isFilter text = false := by
  rw [List.eq_nil_iff_forall_not_mem]
  constructor
  · intro h text hm
    cases hf : isFilter text with
    | false => rfl
    | true =>
      obtain ⟨f, hp⟩ := isFilter_iff.1 hf
      exact absurd (mem_usableFilters.2 ⟨text, hm, hp⟩) (h f)
  · intro h f hf
    obtain ⟨text, hm, hp⟩ := mem_usableFilters.1 hf
    have hread := isFilter_iff.2 ⟨f, hp⟩
    rw [h text hm] at hread
    cases hread

/-- A list that can be read as a whole is kept as it is read. -/
theorem usableFilters_of_parseAll (h : DeviceFilter.parseAll texts = .ok filters) : usableFilters texts = filters := by
  have hmap : usableFilters texts = (texts.map DeviceFilter.parse).filterMap Except.toOption := by
    rw [List.filterMap_map]
    rfl
  rw [hmap, DeviceFilter.parseAll_eq_ok.1 h, List.filterMap_map]
  exact List.filterMap_some

theorem badFilters_of_parseAll (h : DeviceFilter.parseAll texts = .ok filters) : badFilters texts = [] := by
  have hall := DeviceFilter.parseAll_eq_ok.1 h
  unfold badFilters
  rw [List.filterMap_eq_nil_iff]
  intro text hm
  have hread : DeviceFilter.parse text ∈ filters.map Except.ok := hall ▸ List.mem_map_of_mem hm
  obtain ⟨f, -, hf⟩ := List.mem_map.1 hread
  rw [← hf]

/-! ## Admission -/

/-- Filters admit a group whose ids one of them accepts, and no filters admit every group. -/
theorem admits_iff {group : List Char} : admits filters group = true ↔
    filters = [] ∨ ∃ f ∈ filters, ∃ vendor product,
      groupIds? group = some (vendor, product) ∧ f.accepts vendor product = true := by
  unfold admits DeviceFilter.allowed
  cases filters with
  | nil => simp
  | cons f fs =>
    constructor
    · intro h
      cases hids : groupIds? group with
      | none =>
        rw [hids] at h
        cases h
      | some ids =>
        obtain ⟨vendor, product⟩ := ids
        rw [hids] at h
        obtain ⟨g, hg, haccepts⟩ := List.any_eq_true.1 h
        exact .inr ⟨g, hg, vendor, product, rfl, haccepts⟩
    · rintro (h | ⟨g, hg, vendor, product, hids, haccepts⟩)
      · cases h
      · rw [hids]
        exact List.any_eq_true.2 ⟨g, hg, haccepts⟩

/-- A group whose ids one of the texts asks for. -/
def Wanted (texts : List String) (group : List Char) : Prop :=
  ∃ text ∈ texts, ∃ f vendor product, DeviceFilter.parse text = .ok f ∧
    groupIds? group = some (vendor, product) ∧ f.accepts vendor product = true

/-- What is left of a list admits the groups that are wanted, or all groups. -/
theorem admits_usableFilters {group : List Char} : admits (usableFilters texts) group = true ↔
    (∀ text ∈ texts, isFilter text = false) ∨ Wanted texts group := by
  rw [admits_iff, usableFilters_eq_nil]
  refine or_congr_right ⟨?_, ?_⟩
  · rintro ⟨f, hf, vendor, product, hids, haccepts⟩
    obtain ⟨text, hm, hp⟩ := mem_usableFilters.1 hf
    exact ⟨text, hm, f, vendor, product, hp, hids, haccepts⟩
  · rintro ⟨text, hm, f, vendor, product, hp, hids, haccepts⟩
    exact ⟨f, mem_usableFilters.2 ⟨text, hm, hp⟩, vendor, product, hids, haccepts⟩

/-- What is wanted is asked for by a text that can be read. -/
theorem Wanted.exists_isFilter {group : List Char} (h : Wanted texts group) : ∃ text ∈ texts, isFilter text = true := by
  obtain ⟨text, hm, f, -, -, hp, -⟩ := h
  exact ⟨text, hm, isFilter_iff.2 ⟨f, hp⟩⟩

end Walk

/-- Settings with other filters. -/
def DiscoverySettings.filteredBy (settings : DiscoverySettings) (texts : List String) : DiscoverySettings :=
  { settings with filters := texts }

/-- Of the texts of its filters, a pass depends only on the filters that can be read. -/
theorem discover_filteredBy {σ : Type} {settings : DiscoverySettings}
    (h : Walk.usableFilters texts = Walk.usableFilters settings.filters) (directories : Directories)
    (tree : DeviceTree) (tell : σ → RegistryCall → σ) (registry : σ) :
    discover tell (settings.filteredBy texts) directories tree registry =
      discover tell settings directories tree registry := by
  unfold discover Walk.ofSettings DiscoverySettings.filteredBy
  dsimp only
  rw [h]
  cases Pattern.parse settings.groupPattern <;> rfl

theorem ofSettings_filteredBy (texts : List String) (directories : Directories) (tree : DeviceTree) :
    Walk.ofSettings (({} : DiscoverySettings).filteredBy texts) directories tree =
      .ok ⟨({} : DiscoverySettings).filteredBy texts, Pattern.groupName, Walk.usableFilters texts, directories,
        tree⟩ := by
  unfold Walk.ofSettings DiscoverySettings.filteredBy
  dsimp only
  rw [Pattern.parse_defaultGroupPattern]

open DeviceFilter (isFilter)

/-- A walk fails closed exactly if one of its filters can be read. Then it admits the groups that a text which can be
read asks for, and no other; where none can be read it admits every group, and the pass is the one without filters. -/
theorem walk_restricted_iff {settings : DiscoverySettings} {directories : Directories} {tree : DeviceTree} {w : Walk}
    (h : Walk.ofSettings settings directories tree = .ok w) :
    (∀ group, Walk.admits w.filters group = true ↔
      (∀ text ∈ settings.filters, isFilter text = false) ∨ Walk.Wanted settings.filters group) ∧
    ((∀ group, Walk.admits w.filters group = true → Walk.Wanted settings.filters group) ↔
      ∃ text ∈ settings.filters, isFilter text = true) ∧
    ((∀ text ∈ settings.filters, isFilter text = false) →
      ∀ {σ : Type} (tell : σ → RegistryCall → σ) (registry : σ),
        discover tell settings directories tree registry =
          discover tell (settings.filteredBy []) directories tree registry) := by
  obtain ⟨pattern, -, rfl⟩ := Walk.ofSettings_ok h
  have hadmits : ∀ group, Walk.admits (Walk.usableFilters settings.filters) group = true ↔
      (∀ text ∈ settings.filters, isFilter text = false) ∨ Walk.Wanted settings.filters group :=
    fun _ => Walk.admits_usableFilters
  refine ⟨hadmits, ⟨fun hclosed => ?_, ?_⟩, fun hbad _ tell registry => ?_⟩
  · by_cases hbad : ∀ text ∈ settings.filters, isFilter text = false
    -- the walk would admit the empty name as well, and no text asks for that
    · exact (hclosed [] ((hadmits []).2 (.inl hbad))).exists_isFilter
    · simpa using hbad
  · rintro ⟨text, hm, hread⟩ group hadmitted
    rcases (hadmits group).1 hadmitted with hbad | hwanted
    · rw [hbad text hm] at hread
      cases hread
    · exact hwanted
  · refine (discover_filteredBy ?_ directories tree tell registry).symm
    rw [Walk.usableFilters_eq_nil.2 hbad]
    rfl

/-- Next to a filter that can be read, a bad one only drops out; alone it admits a group that no text asks for. -/
theorem bad_filter_restricts_beside_good :
    (∀ group, Walk.admits (Walk.usableFilters ["a12:1", "0x0a12:*"]) group = true →
      Walk.Wanted ["a12:1", "0x0a12:*"] group) ∧
    Walk.admits (Walk.usableFilters ["a12:1"]) "bda.8153".toList = true ∧
    ¬ Walk.Wanted ["a12:1"] "bda.8153".toList := by
  have hbeside := walk_restricted_iff
    (ofSettings_filteredBy ["a12:1", "0x0a12:*"] sampleFiles.directories sampleTree)
  have halone := walk_restricted_iff (ofSettings_filteredBy ["a12:1"] sampleFiles.directories sampleTree)
  have hbad : ∀ text ∈ ["a12:1"], isFilter text = false := by decide
  refine ⟨hbeside.2.1.2 ⟨"0x0a12:*", by simp [DiscoverySettings.filteredBy], by decide⟩,
    (halone.1 _).2 (.inl hbad), fun hwanted => ?_⟩
  obtain ⟨text, hm, hread⟩ := hwanted.exists_isFilter
  rw [hbad text hm] at hread
  cases hread

/-- A list with one filter, which lacks its marker, is not empty and admits a group that it does not ask for. -/
theorem not_every_list_restricts :
    ¬ ∀ (settings : DiscoverySettings) (directories : Directories) (tree : DeviceTree) (w : Walk) (group : List Char),
      settings.filters ≠ [] → Walk.ofSettings settings directories tree = .ok w →
      Walk.admits w.filters group = true → Walk.Wanted settings.filters group := by
  intro h
  have hwanted := h _ _ _ _ "bda.8153".toList (List.cons_ne_nil "a12:1" [])
    (ofSettings_filteredBy ["a12:1"] sampleFiles.directories sampleTree) (by decide)
  obtain ⟨text, hm, hread⟩ := hwanted.exists_isFilter
  obtain rfl := List.mem_singleton.1 hm
  revert hread
  decide

end UsbInventory
