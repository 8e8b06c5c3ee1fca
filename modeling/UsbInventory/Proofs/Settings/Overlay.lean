/-
Documents that set some of the fields of a configuration. Each field that a document sets has the value that it is set
to, and each field that it leaves out has its standard one, in whatever order the fields stand, whatever stands beside
them, and whether a section without fields is empty or left out.
-/
import UsbInventory.Proofs.Json.Records
import UsbInventory.Proofs.Path.Components
import UsbInventory.Settings.Exchange

namespace UsbInventory

/-- Whether the entries `given` set, of the fields `names` of a record, exactly those whose names are in `keys`, each to
the value that it has among `all`. Entries under other names are free. -/
def SetsFields {α : Type} (names keys : List String) (all given : List (String × α)) : Prop :=
  ∀ name ∈ names, given.lookup name = if name ∈ keys then all.lookup name else none

theorem SetsFields.self {α : Type} {names keys : List String} (h : names ⊆ keys) (all : List (String × α)) :
    SetsFields names keys all all := by
  intro name hname
  rw [if_pos (h hname)]

theorem SetsFields.filter {α : Type} (names keys : List String) (all : List (String × α)) :
    SetsFields names keys all (all.filter (·.1 ∈ keys)) := by
  intro name _
  induction all with
  | nil => simp
  | cons field all ih =>
    rcases field with ⟨key, v⟩
    by_cases hname : name = key
    · subst hname
      by_cases hkey : name ∈ keys
      · simp [hkey]
      · simpa [hkey] using ih
    · have hbeq : (name == key) = false := by simpa using hname
      by_cases hkey : key ∈ keys
      · simp [hkey, List.lookup_cons, hbeq, ih]
      · simp [hkey, List.lookup_cons, hbeq, ih]

/-! ## Overlays -/

/-- The fields in `keys` as they are, and the standard ones elsewhere. -/
def GeneralSettings.overlay (keys : List String) (g : GeneralSettings) : GeneralSettings :=
  let standard : GeneralSettings := {}
  { logLevel := if "log_level" ∈ keys then g.logLevel else standard.logLevel
    backend := if "backend" ∈ keys then g.backend else standard.backend
    output := if "output" ∈ keys then g.output else standard.output }

/-- The fields in `keys` as they are, and the standard ones elsewhere. -/
def DiscoverySettings.overlay (keys : List String) (d : DiscoverySettings) : DiscoverySettings :=
  let standard : DiscoverySettings := {}
  { devUsbRoot := if "dev_usb_root" ∈ keys then d.devUsbRoot else standard.devUsbRoot
    devicesRoot := if "devices_root" ∈ keys then d.devicesRoot else standard.devicesRoot
    witnessFile := if "witness_file" ∈ keys then d.witnessFile else standard.witnessFile
    groupPattern := if "group_pattern" ∈ keys then d.groupPattern else standard.groupPattern
    pathCapacity := if "path_capacity" ∈ keys then d.pathCapacity else standard.pathCapacity
    numConfigsPolicy := if "num_configs_policy" ∈ keys then d.numConfigsPolicy else standard.numConfigsPolicy
    filters := if "filters" ∈ keys then d.filters else standard.filters
    snapshotRoot := if "snapshot_root" ∈ keys then d.snapshotRoot else standard.snapshotRoot }

/-- The configuration with the fields in `keys` as they are, and the standard ones elsewhere. -/
def Configuration.overlay (keys : List String) (c : Configuration) : Configuration :=
  { general := c.general.overlay keys
    discovery := c.discovery.overlay keys }

/-- Whether all paths of the settings are texts. -/
structure DiscoverySettings.Textual (d : DiscoverySettings) : Prop where
  devUsbRoot : (RawPath.text? d.devUsbRoot).isSome = true
  devicesRoot : (RawPath.text? d.devicesRoot).isSome = true
  snapshotRoot : ∀ root ∈ d.snapshotRoot, (RawPath.text? root).isSome = true

theorem RawPath.exists_text {p : RawPath} (h : p.text?.isSome = true) :
    ∃ cs, Text.Utf8.decode? p = some cs ∧ Text.Utf8.encode cs = p := by
  obtain ⟨s, hs⟩ := Option.isSome_iff_exists.1 h
  obtain ⟨cs, hcs, -⟩ := Option.map_eq_some_iff.1 hs
  exact ⟨cs, hcs, Text.Utf8.encode_of_decode? hcs⟩

/-! ## Choices -/

theorem BackendKind.ofName?_name (k : BackendKind) : ofName? k.name = some k := by cases k <;> decide
theorem OutputFormat.ofName?_name (f : OutputFormat) : ofName? f.name = some f := by cases f <;> decide
theorem NumConfigsPolicy.ofName?_name (p : NumConfigsPolicy) : ofName? p.name = some p := by cases p <;> decide

theorem BackendKind.ofJson?_toJson (k : BackendKind) : ofJson? k.toJson = some k := by
  simp [ofJson?, toJson, Json.choiceName?_ofString, ofName?_name]

theorem OutputFormat.ofJson?_toJson (f : OutputFormat) : ofJson? f.toJson = some f := by
  simp [ofJson?, toJson, Json.choiceName?_ofString, ofName?_name]

theorem NumConfigsPolicy.ofJson?_toJson (p : NumConfigsPolicy) : ofJson? p.toJson = some p := by
  simp [ofJson?, toJson, Json.choiceName?_ofString, ofName?_name]

/-! ## JSON -/

namespace Json

theorem orElse_of_sets {α : Type} {p : Prop} [Decidable p] {standard x : α} {read : Json → Option α} {v : Json}
    (h : read v = some x) : orElse standard read (if p then some v else none) = some (if p then x else standard) := by
  by_cases hp : p
  · simp [hp, orElse, h]
  · simp [hp, orElse]

end Json

/-- The fields of the general section as they are written. -/
def GeneralSettings.members (g : GeneralSettings) : List (String × Json) :=
  [("log_level", Json.ofString g.logLevel), ("backend", g.backend.toJson), ("output", g.output.toJson)]

theorem GeneralSettings.ofJson?_of_sets {g : GeneralSettings} {keys : List String} {given : List (String × Json)}
    (h : SetsFields names keys g.members given) (once : (given.map (·.1)).Nodup) :
    ofJson? (Json.ofMembers given) = some (g.overlay keys) := by
  have hlevel := h "log_level" (by decide)
  have hbackend := h "backend" (by decide)
  have houtput := h "output" (by decide)
  simp only [members, List.lookup_cons, String.reduceBEq] at hlevel hbackend houtput
  unfold ofJson?
  rw [Json.fields?_ofMembers once]
  simp only [names, List.map_cons, List.map_nil, Option.bind_eq_bind, Option.bind_some, hlevel, hbackend, houtput,
    Json.orElse_of_sets (Json.toText?_ofString _), Json.orElse_of_sets (BackendKind.ofJson?_toJson _),
    Json.orElse_of_sets (OutputFormat.ofJson?_toJson _)]
  rfl

namespace DiscoverySettings

/-- A path as it is written; one that is not a text has no text there either. -/
def pathMember (p : RawPath) : Json := .string (Text.Utf8.decode? p)

/-- The fields of the discovery section as they are written. -/
def members (d : DiscoverySettings) : List (String × Json) :=
  [("dev_usb_root", pathMember d.devUsbRoot), ("devices_root", pathMember d.devicesRoot),
    ("witness_file", Json.ofString d.witnessFile), ("group_pattern", Json.ofString d.groupPattern),
    ("path_capacity", Json.ofNat d.pathCapacity), ("num_configs_policy", d.numConfigsPolicy.toJson),
    ("filters", .array (d.filters.map Json.ofString)), ("snapshot_root", d.snapshotRoot.elim .null pathMember)]

theorem ofJson?_pathMember {p : RawPath} (h : p.text?.isSome = true) : RawPath.ofJson? (pathMember p) = some p := by
  obtain ⟨cs, hcs, hp⟩ := RawPath.exists_text h
  simp [pathMember, RawPath.ofJson?, Json.toChars?, hcs, hp]

theorem nullable_pathMember {root : Option RawPath} (h : ∀ p ∈ root, p.text?.isSome = true) :
    Json.nullable RawPath.ofJson? (root.elim .null pathMember) = some root := by
  cases root with
  | none => rfl
  | some p => exact congrArg (Option.map some) (ofJson?_pathMember (h p rfl))

theorem ofJson?_of_sets {d : DiscoverySettings} {keys : List String} {given : List (String × Json)}
    (textual : d.Textual) (fits : d.pathCapacity ≤ maxCapacity) (h : SetsFields names keys d.members given)
    (once : (given.map (·.1)).Nodup) : ofJson? (Json.ofMembers given) = some (d.overlay keys) := by
  have hdev := h "dev_usb_root" (by decide)
  have hdevices := h "devices_root" (by decide)
  have hwitness := h "witness_file" (by decide)
  have hpattern := h "group_pattern" (by decide)
  have hcapacity := h "path_capacity" (by decide)
  have hpolicy := h "num_configs_policy" (by decide)
  have hfilters := h "filters" (by decide)
  have hsnapshot := h "snapshot_root" (by decide)
  simp only [members, List.lookup_cons, String.reduceBEq]
    at hdev hdevices hwitness hpattern hcapacity hpolicy hfilters hsnapshot
  unfold ofJson?
  rw [Json.fields?_ofMembers once]
  simp only [names, List.map_cons, List.map_nil, Option.bind_eq_bind, Option.bind_some, hdev, hdevices, hwitness,
    hpattern, hcapacity, hpolicy, hfilters, hsnapshot, Json.orElse_of_sets (ofJson?_pathMember textual.devUsbRoot),
    Json.orElse_of_sets (ofJson?_pathMember textual.devicesRoot), Json.orElse_of_sets (Json.toText?_ofString _),
    Json.orElse_of_sets (Json.toNat?_ofNat fits), Json.orElse_of_sets (NumConfigsPolicy.ofJson?_toJson _),
    Json.orElse_of_sets (Json.toTexts?_ofString _), Json.orElse_of_sets (nullable_pathMember textual.snapshotRoot)]
  rfl

end DiscoverySettings

/-! ## Sections -/

/-- Whether a document of sections sets exactly the fields in `keys`, `general` and `discovery` being the sections in
full. A section that is left out sets nothing. -/
structure SetsSections {α : Type} (keys : List String) (general discovery : List (String × α))
    (doc : List (String × List (String × α))) : Prop where
  general : SetsFields GeneralSettings.names keys general ((doc.lookup "general").getD [])
  discovery : SetsFields DiscoverySettings.names keys discovery ((doc.lookup "discovery").getD [])
  once : (doc.map (·.1)).Nodup
  fieldsOnce : ∀ part ∈ doc, (part.2.map (·.1)).Nodup

theorem lookup_sections {α β : Type} (f : α → β) (name : String) : ∀ doc : List (String × α),
    (doc.map fun part => (part.1, f part.2)).lookup name = (doc.lookup name).map f
  | [] => rfl
  | (key, part) :: doc => by
    rw [List.map_cons, List.lookup_cons, List.lookup_cons]
    cases name == key with
    | true => rfl
    | false => exact lookup_sections f name doc

/-- A section that is found has each of its fields once, as does one that is left out. -/
theorem SetsSections.nodup_section {α : Type} {keys : List String} {general discovery : List (String × α)}
    {doc : List (String × List (String × α))} (h : SetsSections keys general discovery doc) (name : String) :
    (((doc.lookup name).getD []).map (·.1)).Nodup := by
  cases hl : doc.lookup name with
  | none => simp
  | some part =>
    obtain ⟨before, after, hdoc, -⟩ := List.lookup_eq_some_iff.1 hl
    exact h.fieldsOnce (name, part) (by simp [hdoc])

namespace Json

/-- A document of sections. -/
def ofSections (doc : List (String × List (String × Json))) : Json :=
  ofMembers (doc.map fun part => (part.1, ofMembers part.2))

theorem orElse_section {α : Type} (standard : α) {x : α} {read : Json → Option α} {part : Option (List (String × Json))}
    (empty : read (ofMembers []) = some standard) (h : read (ofMembers (part.getD [])) = some x) :
    orElse standard read (part.map ofMembers) = some x := by
  cases part with
  | none => exact empty.symm.trans h
  | some part => exact h

end Json

/-- A document of sections is read as the overlay of what it sets. -/
theorem Configuration.ofJson?_of_sets {c : Configuration} {keys : List String}
    {doc : List (String × List (String × Json))} (textual : c.discovery.Textual)
    (fits : c.discovery.pathCapacity ≤ maxCapacity)
    (h : SetsSections keys c.general.members c.discovery.members doc) :
    ofJson? (Json.ofSections doc) = some (c.overlay keys) := by
  have hgeneral := Json.orElse_section ({} : GeneralSettings) (by decide +kernel)
    (GeneralSettings.ofJson?_of_sets h.general (h.nodup_section "general"))
  have hdiscovery := Json.orElse_section ({} : DiscoverySettings) (by decide +kernel)
    (DiscoverySettings.ofJson?_of_sets textual fits h.discovery (h.nodup_section "discovery"))
  have hnames : (doc.map fun part => (part.1, Json.ofMembers part.2)).map (·.1) = doc.map (·.1) := by
    rw [List.map_map]
    rfl
  unfold ofJson? Json.ofSections
  rw [Json.fields?_ofMembers (hnames ▸ h.once)]
  simp only [names, List.map_cons, List.map_nil, lookup_sections, Option.bind_eq_bind, Option.bind_some, hgeneral,
    hdiscovery]
  rfl

end UsbInventory
