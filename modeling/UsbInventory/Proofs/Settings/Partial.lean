/-
Configurations that are written in part. A document in TOML is read section by section and field by field, and sets what
it says; what is not set has its standard value, whether a section is left out or one of its fields. Every choice of
fields has a document, and the full one is what a configuration is written as.
-/
import UsbInventory.Proofs.Settings.Exchange
import UsbInventory.Proofs.Toml.Documents
import UsbInventory.Settings.Document

namespace UsbInventory

/-! ## Fields of TOML tables -/

namespace Toml

/-- The fields of a record are found by their names, wherever they stand. -/
theorem fields?_ofEntries (entries : List (String × Toml)) (names : List String) :
    (ofEntries entries).fields? names = some (names.map fun name => entries.lookup name) := by
  have hfind : ∀ name : String, find? name.toList (entries.map fun e => (e.1.toList, e.2)) = entries.lookup name := by
    intro name
    induction entries with
    | nil => rfl
    | cons e entries ih =>
      have hkey : (e.1.toList == name.toList) = (name == e.1) := by
        rw [Bool.eq_iff_iff, beq_iff_eq, beq_iff_eq, String.toList_inj]
        exact eq_comm
      rw [List.map_cons, find?, List.find?_cons, List.lookup_cons]
      dsimp only
      rw [hkey]
      cases name == e.1 with
      | true => rfl
      | false => exact ih
  simp [ofEntries, fields?, hfind]

theorem orElse_of_sets {α : Type} {p : Prop} [Decidable p] {standard x : α} {read : Toml → Option α} {v : Toml}
    (h : read v = some x) : orElse standard read (if p then some v else none) = some (if p then x else standard) := by
  by_cases hp : p
  · simp [hp, orElse, h]
  · simp [hp, orElse]

/-- A text as a value. -/
def ofString (s : String) : Toml := .string s.toList

theorem toText?_ofString (s : String) : toText? (ofString s) = some s := by simp [toText?, ofString]

theorem choiceName?_ofString (s : String) : choiceName? (ofString s) = some s := by simp [choiceName?, ofString]

theorem toTexts?_ofString (texts : List String) : toTexts? (.array (texts.map ofString)) = some texts := by
  rw [toTexts?, List.mapM_map, show toText? ∘ ofString = pure from funext toText?_ofString]
  exact List.mapM_pure.trans (congrArg some (List.map_id' texts))

theorem toNat?_integer (n : Nat) : toNat? (.integer n) = some n := by simp [toNat?]

theorem orElse_section {α : Type} (standard : α) {x : α} {read : Toml → Option α}
    {part : Option (List (String × Toml))} (empty : read (ofEntries []) = some standard)
    (h : read (ofEntries (part.getD [])) = some x) : orElse standard read (part.map ofEntries) = some x := by
  cases part with
  | none => exact empty.symm.trans h
  | some part => exact h

end Toml

/-! ## Sections of TOML documents -/

/-- The fields of the general section as they are written. -/
def GeneralSettings.entries (g : GeneralSettings) : List (String × Toml) :=
  [("log_level", Toml.ofString g.logLevel), ("backend", Toml.ofString g.backend.name),
    ("output", Toml.ofString g.output.name)]

theorem GeneralSettings.ofToml?_of_sets {g : GeneralSettings} {keys : List String} {given : List (String × Toml)}
    (h : SetsFields names keys g.entries given) : ofToml? (Toml.ofEntries given) = some (g.overlay keys) := by
  have hlevel := h "log_level" (by decide)
  have hbackend := h "backend" (by decide)
  have houtput := h "output" (by decide)
  simp only [entries, List.lookup_cons, String.reduceBEq] at hlevel hbackend houtput
  have hkind : ((Toml.ofString g.backend.name).choiceName?.bind BackendKind.ofName?) = some g.backend := by
    simp [Toml.choiceName?_ofString, BackendKind.ofName?_name]
  have hformat : ((Toml.ofString g.output.name).choiceName?.bind OutputFormat.ofName?) = some g.output := by
    simp [Toml.choiceName?_ofString, OutputFormat.ofName?_name]
  unfold ofToml?
  rw [Toml.fields?_ofEntries]
  simp only [names, List.map_cons, List.map_nil, Option.bind_eq_bind, Option.bind_some, hlevel, hbackend, houtput,
    Toml.orElse_of_sets (Toml.toText?_ofString _)]
  rw [Toml.orElse_of_sets hkind, Toml.orElse_of_sets hformat]
  rfl

namespace DiscoverySettings

/-- A path as it is written. -/
def pathEntry (p : RawPath) : Toml := .string ((Text.Utf8.decode? p).getD [])

/-- The fields of the discovery section as they are written. Where there is no snapshot, nothing is written for it. -/
def entries (d : DiscoverySettings) : List (String × Toml) :=
  [("dev_usb_root", pathEntry d.devUsbRoot), ("devices_root", pathEntry d.devicesRoot),
    ("witness_file", Toml.ofString d.witnessFile), ("group_pattern", Toml.ofString d.groupPattern),
    ("path_capacity", .integer d.pathCapacity), ("num_configs_policy", Toml.ofString d.numConfigsPolicy.name),
    ("filters", .array (d.filters.map Toml.ofString))] ++
  d.snapshotRoot.toList.map fun root => ("snapshot_root", pathEntry root)

theorem toPath?_pathEntry {p : RawPath} (h : p.text?.isSome = true) : Toml.toPath? (pathEntry p) = some p := by
  obtain ⟨cs, hcs, hp⟩ := RawPath.exists_text h
  simp [pathEntry, Toml.toPath?, hcs, hp]

theorem ofToml?_of_sets {d : DiscoverySettings} {keys : List String} {given : List (String × Toml)}
    (textual : d.Textual) (h : SetsFields names keys d.entries given) :
    ofToml? (Toml.ofEntries given) = some (d.overlay keys) := by
  have hdev := h "dev_usb_root" (by decide)
  have hdevices := h "devices_root" (by decide)
  have hwitness := h "witness_file" (by decide)
  have hpattern := h "group_pattern" (by decide)
  have hcapacity := h "path_capacity" (by decide)
  have hpolicy := h "num_configs_policy" (by decide)
  have hfilters := h "filters" (by decide)
  have hsnapshot := h "snapshot_root" (by decide)
  simp only [entries, List.cons_append, List.nil_append, List.lookup_cons, String.reduceBEq]
    at hdev hdevices hwitness hpattern hcapacity hpolicy hfilters hsnapshot
  have hroot : Toml.orElse none (fun v => v.toPath?.map some) (given.lookup "snapshot_root") =
      some (if "snapshot_root" ∈ keys then d.snapshotRoot else none) := by
    rw [hsnapshot]
    cases hroot : d.snapshotRoot with
    | none => simp [Toml.orElse]
    | some root =>
      have hpath := toPath?_pathEntry (textual.snapshotRoot root hroot)
      rw [Option.toList_some, List.map_cons, List.lookup_cons_self]
      exact Toml.orElse_of_sets (by rw [hpath, Option.map_some])
  have hchoice : ((Toml.ofString d.numConfigsPolicy.name).choiceName?.bind NumConfigsPolicy.ofName?) =
      some d.numConfigsPolicy := by
    simp [Toml.choiceName?_ofString, NumConfigsPolicy.ofName?_name]
  unfold ofToml?
  rw [Toml.fields?_ofEntries]
  simp only [names, List.map_cons, List.map_nil, Option.bind_eq_bind, Option.bind_some, hdev, hdevices, hwitness,
    hpattern, hcapacity, hpolicy, hfilters, hroot, Toml.orElse_of_sets (toPath?_pathEntry textual.devUsbRoot),
    Toml.orElse_of_sets (toPath?_pathEntry textual.devicesRoot), Toml.orElse_of_sets (Toml.toText?_ofString _),
    Toml.orElse_of_sets (Toml.toNat?_integer _), Toml.orElse_of_sets (Toml.toTexts?_ofString _)]
  rw [Toml.orElse_of_sets hchoice]
  rfl

end DiscoverySettings

/-- A document of sections is read as the overlay of what it sets. -/
theorem Configuration.ofDocument?_of_sets {c : Configuration} {keys : List String}
    {doc : List (String × List Toml.Assignment)} (textual : c.discovery.Textual)
    (h : SetsSections keys c.general.entries c.discovery.entries
      (doc.map fun part => (part.1, Toml.entriesOf part.2))) :
    ofDocument? (Toml.documentChars doc) = some (c.overlay keys) := by
  have hparse : Toml.parse (Toml.documentChars doc) = some (Toml.ofEntries
      ((doc.map fun part => (part.1, Toml.entriesOf part.2)).map fun part => (part.1, Toml.ofEntries part.2))) := by
    rw [List.map_map]
    refine Toml.parse_documentChars ?_ fun part hpart => ?_
    · have honce := h.once
      rwa [List.map_map] at honce
    · have hfields := h.fieldsOnce _ (List.mem_map_of_mem hpart)
      rwa [Toml.entriesOf, List.map_map] at hfields
  have hgeneral := Toml.orElse_section ({} : GeneralSettings) (by decide +kernel)
    (GeneralSettings.ofToml?_of_sets h.general)
  have hdiscovery := Toml.orElse_section ({} : DiscoverySettings) (by decide +kernel)
    (DiscoverySettings.ofToml?_of_sets textual h.discovery)
  rw [lookup_sections] at hgeneral hdiscovery
  unfold ofDocument?
  rw [hparse]
  simp only [Option.bind_eq_bind, Option.bind_some, Toml.fields?_ofEntries, names, List.map_cons, List.map_nil,
    lookup_sections, hgeneral, hdiscovery]
  rfl

/-! ## Documents of a configuration -/

/-- The lines of the general section. -/
def GeneralSettings.assignments (g : GeneralSettings) : List Toml.Assignment :=
  [.ofWritten "log_level" (.string g.logLevel.toList) (by simp),
    .ofWritten "backend" (.string g.backend.name.toList) (by simp),
    .ofWritten "output" (.string g.output.name.toList) (by simp)]

/-- The line that a path stands on. -/
def DiscoverySettings.pathAssignment (key : String) (p : RawPath) : Toml.Assignment :=
  .ofWritten key (.string ((Text.Utf8.decode? p).getD [])) (by simp)

/-- The lines of the discovery section. -/
def DiscoverySettings.assignments (d : DiscoverySettings) (fits : d.pathCapacity ≤ Toml.maxInteger) :
    List Toml.Assignment :=
  [pathAssignment "dev_usb_root" d.devUsbRoot, pathAssignment "devices_root" d.devicesRoot,
    .ofWritten "witness_file" (.string d.witnessFile.toList) (by simp),
    .ofWritten "group_pattern" (.string d.groupPattern.toList) (by simp),
    .ofWritten "path_capacity" (.integer d.pathCapacity) (by simpa using fits),
    .ofWritten "num_configs_policy" (.string d.numConfigsPolicy.name.toList) (by simp),
    .ofWritten "filters" (.strings (d.filters.map String.toList)) (by simp)] ++
  d.snapshotRoot.toList.map (pathAssignment "snapshot_root")

theorem GeneralSettings.entriesOf_assignments (g : GeneralSettings) : Toml.entriesOf g.assignments = g.entries := rfl

theorem DiscoverySettings.entriesOf_assignments (d : DiscoverySettings) (fits : d.pathCapacity ≤ Toml.maxInteger) :
    Toml.entriesOf (d.assignments fits) = d.entries := by
  have hfilters : (d.filters.map String.toList).map Toml.string = d.filters.map Toml.ofString := List.map_map
  simp only [Toml.entriesOf, assignments, entries, List.map_append, List.map_cons, List.map_nil, List.map_map,
    pathAssignment, pathEntry, Toml.Assignment.ofWritten, Toml.Written.value, Toml.ofString, hfilters]
  rfl

/-- The document that sets the fields in `keys` of a configuration. -/
def Configuration.document (c : Configuration) (fits : c.discovery.pathCapacity ≤ Toml.maxInteger)
    (keys : List String) : List (String × List Toml.Assignment) :=
  [("general", c.general.assignments.filter (·.key ∈ keys)),
    ("discovery", (c.discovery.assignments fits).filter (·.key ∈ keys))]

theorem Configuration.setsSections_document (c : Configuration) (fits : c.discovery.pathCapacity ≤ Toml.maxInteger)
    (keys : List String) : SetsSections keys c.general.entries c.discovery.entries
      ((c.document fits keys).map fun part => (part.1, Toml.entriesOf part.2)) := by
  have hfilter : ∀ as : List Toml.Assignment,
      Toml.entriesOf (as.filter (·.key ∈ keys)) = (Toml.entriesOf as).filter (·.1 ∈ keys) := by
    intro as
    rw [Toml.entriesOf, Toml.entriesOf, List.filter_map]
    rfl
  simp only [document, List.map_cons, List.map_nil, hfilter, GeneralSettings.entriesOf_assignments,
    DiscoverySettings.entriesOf_assignments]
  have hgeneral : (c.general.entries.map (·.1)).Nodup := show GeneralSettings.names.Nodup by decide
  have hdiscovery : (c.discovery.entries.map (·.1)).Nodup := by
    cases hroot : c.discovery.snapshotRoot <;> simp [DiscoverySettings.entries, hroot]
  have hkept : ∀ {entries : List (String × Toml)}, (entries.map (·.1)).Nodup →
      ((entries.filter (·.1 ∈ keys)).map (·.1)).Nodup := fun h => h.sublist (List.filter_sublist.map _)
  refine ⟨SetsFields.filter _ _ _, SetsFields.filter _ _ _, show names.Nodup by decide, ?_⟩
  rintro part hpart
  simp only [List.mem_cons, List.not_mem_nil, or_false] at hpart
  rcases hpart with rfl | rfl
  · exact hkept hgeneral
  · exact hkept hdiscovery

/-! ## Partial configurations -/

/-- A document that sets some of the fields of a configuration is read as the overlay of these on the standard
configuration, in TOML as in JSON. Fields and sections may stand in any order and beside others, and a section without
fields may be empty or left out. -/
theorem partial_configuration_overlays {c : Configuration} (textual : c.discovery.Textual) (keys : List String) :
    (∀ doc : List (String × List Toml.Assignment),
      SetsSections keys c.general.entries c.discovery.entries
        (doc.map fun part => (part.1, Toml.entriesOf part.2)) →
      Configuration.ofDocument? (Toml.documentChars doc) = some (c.overlay keys)) ∧
    ∀ doc : List (String × List (String × Json)), c.discovery.pathCapacity ≤ maxCapacity →
      SetsSections keys c.general.members c.discovery.members doc →
      (∀ part ∈ doc, ∀ field ∈ part.2, Json.Readable field.2) →
      (Json.parse (Json.ofSections doc).render).bind Configuration.ofJson? = some (c.overlay keys) := by
  refine ⟨fun doc => Configuration.ofDocument?_of_sets textual, fun doc fits sets readable => ?_⟩
  rw [(Json.readable_ofSections readable).parse_render, Option.bind_some,
    Configuration.ofJson?_of_sets textual fits sets]

/-- The standard configuration but for a choice, a path with an end of line, a capacity and two filters. -/
def variedConfiguration : Configuration :=
  { general := { backend := .devinfo }
    discovery :=
      { devicesRoot := RawPath.ofString "/dev\nices"
        pathCapacity := 512
        filters := ["0a12:*", "it's \"é\""] } }

/-- A document without a general section that sets the capacity and the filters, beside a field that is unknown. -/
def variedDocument : List (String × List Toml.Assignment) :=
  [("discovery",
    [{ key := "seen by", text := ['t', 'r', 'u', 'e'], value := .boolean true, reads := fun _ => rfl },
      .ofWritten "filters" (.strings (variedConfiguration.discovery.filters.map String.toList)) (by simp),
      .ofWritten "path_capacity" (.integer 512) (by simp [Toml.maxInteger])])]

example : String.ofList (Toml.documentChars variedDocument) =
    "[discovery]\n\"seen by\" = true\nfilters = [\n    \"0a12:*\",\n    \"\"\"it's \"é\"\"\"\",\n]\n" ++
      "path_capacity = 512\n" := by
  decide +kernel

/-- The same as JSON, the general section being empty. -/
def variedMembers : List (String × List (String × Json)) :=
  [("discovery",
    [("seen by", .array [.null, .object []]),
      ("filters", .array (variedConfiguration.discovery.filters.map Json.ofString)),
      ("path_capacity", Json.ofNat 512)]), ("general", [])]

theorem varied_configuration_overlays :
    let keys := ["path_capacity", "filters"]
    variedConfiguration.overlay keys =
      { discovery := { pathCapacity := 512, filters := ["0a12:*", "it's \"é\""] } } ∧
    Configuration.ofDocument? (Toml.documentChars variedDocument) = some (variedConfiguration.overlay keys) ∧
    (Json.parse (Json.ofSections variedMembers).render).bind Configuration.ofJson? =
      some (variedConfiguration.overlay keys) := by
  intro keys
  have htextual : variedConfiguration.discovery.Textual := by
    refine ⟨by decide, by decide, ?_⟩
    rintro root ⟨⟩
  have htoml : SetsSections keys variedConfiguration.general.entries variedConfiguration.discovery.entries
      (variedDocument.map fun part => (part.1, Toml.entriesOf part.2)) := by
    refine ⟨?_, ?_, by decide, ?_⟩
    · intro name hname
      simp only [GeneralSettings.names, List.mem_cons, List.not_mem_nil, or_false] at hname
      rcases hname with rfl | rfl | rfl <;> rfl
    · intro name hname
      simp only [DiscoverySettings.names, List.mem_cons, List.not_mem_nil, or_false] at hname
      rcases hname with rfl | rfl | rfl | rfl | rfl | rfl | rfl | rfl <;> rfl
    · simp [variedDocument, Toml.entriesOf, Toml.Assignment.ofWritten]
  have hjson : SetsSections keys variedConfiguration.general.members variedConfiguration.discovery.members
      variedMembers := by
    refine ⟨?_, ?_, by decide, ?_⟩
    · intro name hname
      simp only [GeneralSettings.names, List.mem_cons, List.not_mem_nil, or_false] at hname
      rcases hname with rfl | rfl | rfl <;> rfl
    · intro name hname
      simp only [DiscoverySettings.names, List.mem_cons, List.not_mem_nil, or_false] at hname
      rcases hname with rfl | rfl | rfl | rfl | rfl | rfl | rfl | rfl <;> rfl
    · simp [variedMembers]
  have hreadable : ∀ part ∈ variedMembers, ∀ field ∈ part.2, Json.Readable field.2 := by
    have hnote : Json.Readable (.array [.null, .object []]) := by
      refine .array fun v hv => ?_
      simp only [List.mem_cons, List.not_mem_nil, or_false] at hv
      rcases hv with rfl | rfl
      · exact .null
      · exact .object (by simp) (by simp)
    intro part hpart field hfield
    simp only [variedMembers, List.mem_cons, List.not_mem_nil, or_false] at hpart
    rcases hpart with rfl | rfl
    · simp only [List.mem_cons, List.not_mem_nil, or_false] at hfield
      rcases hfield with rfl | rfl | rfl
      · exact hnote
      · exact Json.readable_ofStrings _
      · exact Json.readable_ofNat 512
    · cases hfield
  obtain ⟨toml, json⟩ := partial_configuration_overlays htextual keys
  exact ⟨by decide +kernel, toml variedDocument htoml, json variedMembers (by decide) hjson hreadable⟩

end UsbInventory
