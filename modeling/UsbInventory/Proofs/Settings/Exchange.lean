/-
Values that are exchanged as JSON come back as they were. Each is written as a text that is read as what was written,
and each is found in that again: numbers within the bounds of their types, choices by their names, records by the names
of their fields.
-/
import UsbInventory.Identity.Exchange
import UsbInventory.Proofs.Settings.Overlay

namespace UsbInventory

/-- Whether every value comes back from the text that it is written as. -/
def Exchanges {α : Type} (write : α → Json) (read : Json → Option α) : Prop :=
  ∀ x, (Json.parse (write x).render).bind read = some x

theorem exchanges_of {α : Type} {write : α → Json} {read : Json → Option α} (readable : ∀ x, Json.Readable (write x))
    (returns : ∀ x, read (write x) = some x) : Exchanges write read := by
  intro x
  rw [(readable x).parse_render, Option.bind_some, returns x]

/-! ## Identities -/

theorem SessionId.ofJson?_toJson (id : SessionId) : ofJson? id.toJson = some id := by
  have hbound : id.value.toNat ≤ 18446744073709551615 := by
    have := id.value.toNat_lt
    omega
  simp [ofJson?, toJson, Json.toNat?_ofNat hbound]

theorem DeviceSpeed.ofJson?_toJson (s : DeviceSpeed) : ofJson? s.toJson = some s := by
  have hname : ofName? s.name = some s := by cases s <;> decide
  simp [ofJson?, toJson, Json.choiceName?_ofString, hname]

theorem NodePath.ofJson?_toJson (p : NodePath) : ofJson? p.toJson = some p := by
  simp [ofJson?, toJson, Json.toChars?, ofChars?, p.absolute]

/-- A text is taken for a node path exactly if it is absolute. -/
theorem NodePath.isSome_ofJson? (s : String) :
    (ofJson? (Json.ofString s)).isSome = true ↔ s.toList.head? = some '/' := by
  unfold ofJson? Json.ofString Json.toChars? ofChars?
  by_cases h : s.toList.head? = some '/' <;> simp [h]

namespace PassSummary

theorem counterOfJson?_ofNat (n : UInt32) : counterOfJson? (Json.ofNat n.toNat) = some n := by
  have hbound : n.toNat ≤ 4294967295 := by
    have := n.toNat_lt
    omega
  simp [counterOfJson?, Json.toNat?_ofNat hbound]

theorem ofJson?_toJson (s : PassSummary) : ofJson? s.toJson = some s := by
  have honce : ((s.counters.map fun c => (c.1, Json.ofNat c.2.toNat)).map (·.1)).Nodup := by
    rw [List.map_map]
    exact show names.Nodup by decide
  unfold ofJson? toJson
  rw [Json.fields?_ofMembers honce]
  simp [names, counters, List.lookup_cons, Json.required, counterOfJson?_ofNat]

theorem readable_toJson (s : PassSummary) : Json.Readable s.toJson := by
  refine Json.readable_ofMembers fun m hm => ?_
  obtain ⟨c, -, rfl⟩ := List.mem_map.1 hm
  exact Json.readable_ofNat _

end PassSummary

/-! ## Configurations -/

namespace Configuration

/-- The names of all fields. -/
def keys : List String := GeneralSettings.names ++ DiscoverySettings.names

/-- Nothing is left to the standard where all fields are set. -/
theorem overlay_keys (c : Configuration) : c.overlay keys = c := by
  simp [overlay, GeneralSettings.overlay, DiscoverySettings.overlay, keys, GeneralSettings.names,
    DiscoverySettings.names]

/-- The sections of a configuration in full. -/
def sections (c : Configuration) : List (String × List (String × Json)) :=
  [("general", c.general.members), ("discovery", c.discovery.members)]

theorem setsSections_sections (c : Configuration) :
    SetsSections keys c.general.members c.discovery.members c.sections := by
  refine ⟨SetsFields.self (by decide) _, SetsFields.self (by decide) _, ?_, ?_⟩
  · exact show names.Nodup by decide
  · rintro part hpart
    rcases (by simpa [sections] using hpart) with rfl | rfl
    · exact show GeneralSettings.names.Nodup by decide
    · exact show DiscoverySettings.names.Nodup by decide

theorem toJson?_eq {c : Configuration} (h : c.discovery.Textual) : c.toJson? = some (Json.ofSections c.sections) := by
  obtain ⟨dev, hdev, -⟩ := RawPath.exists_text h.devUsbRoot
  obtain ⟨devices, hdevices, -⟩ := RawPath.exists_text h.devicesRoot
  have hpath : ∀ {p : RawPath} {cs : List Char}, Text.Utf8.decode? p = some cs →
      RawPath.toJson? p = some (DiscoverySettings.pathMember p) := by
    intro p cs hp
    simp [RawPath.toJson?, DiscoverySettings.pathMember, hp]
  cases hroot : c.discovery.snapshotRoot with
  | none =>
    simp [toJson?, DiscoverySettings.toJson?, hpath hdev, hpath hdevices, hroot, Json.ofSections, sections,
      DiscoverySettings.members, GeneralSettings.toJson, GeneralSettings.members]
  | some root =>
    obtain ⟨snapshot, hsnapshot, -⟩ := RawPath.exists_text (h.snapshotRoot root hroot)
    simp [toJson?, DiscoverySettings.toJson?, hpath hdev, hpath hdevices, hpath hsnapshot, hroot, Json.ofSections,
      sections, DiscoverySettings.members, GeneralSettings.toJson, GeneralSettings.members]

end Configuration

/-- A document of sections reads back if the values of its fields do. -/
theorem Json.readable_ofSections {doc : List (String × List (String × Json))}
    (h : ∀ part ∈ doc, ∀ m ∈ part.2, Readable m.2) : Readable (ofSections doc) := by
  refine readable_ofMembers fun m hm => ?_
  obtain ⟨part, hpart, rfl⟩ := List.mem_map.1 hm
  exact readable_ofMembers (h part hpart)

/-- The values of the fields read back, if the paths among them are texts. -/
theorem Configuration.readable_sections {c : Configuration} (h : c.discovery.Textual) :
    ∀ part ∈ c.sections, ∀ m ∈ part.2, Json.Readable m.2 := by
  have hpath : ∀ {p : RawPath}, (RawPath.text? p).isSome = true → Json.Readable (DiscoverySettings.pathMember p) := by
    intro p hp
    obtain ⟨cs, hcs, -⟩ := RawPath.exists_text hp
    rw [DiscoverySettings.pathMember, hcs]
    exact .string cs
  have hsnapshot : Json.Readable (c.discovery.snapshotRoot.elim .null DiscoverySettings.pathMember) := by
    cases hroot : c.discovery.snapshotRoot with
    | none => exact .null
    | some root => exact hpath (h.snapshotRoot root hroot)
  simp only [sections, GeneralSettings.members, DiscoverySettings.members, List.forall_mem_cons, hpath h.devUsbRoot,
    hpath h.devicesRoot, hsnapshot, Json.readable_ofStrings, Json.readable_ofString, Json.readable_ofNat,
    BackendKind.toJson, OutputFormat.toJson, NumConfigsPolicy.toJson]
  simp

/-- A configuration comes back from the text that it is written as, if its paths are texts and its capacity fits in a
machine word. -/
theorem Configuration.returns {c : Configuration} (textual : c.discovery.Textual)
    (fits : c.discovery.pathCapacity ≤ maxCapacity) :
    ∃ v, c.toJson? = some v ∧ (Json.parse v.render).bind ofJson? = some c := by
  refine ⟨Json.ofSections c.sections, toJson?_eq textual, ?_⟩
  rw [(Json.readable_ofSections (readable_sections textual)).parse_render, Option.bind_some,
    ofJson?_of_sets textual fits c.setsSections_sections, overlay_keys]

/-! ## Exchange -/

/-- All values that are exchanged come back from their texts: every session, speed, node path, summary and choice, and
every configuration whose paths are texts. Of all texts, exactly the absolute ones are taken for node paths. -/
theorem exchanged_values_return :
    Exchanges SessionId.toJson SessionId.ofJson? ∧
    Exchanges DeviceSpeed.toJson DeviceSpeed.ofJson? ∧
    Exchanges NodePath.toJson NodePath.ofJson? ∧
    Exchanges PassSummary.toJson PassSummary.ofJson? ∧
    Exchanges BackendKind.toJson BackendKind.ofJson? ∧
    Exchanges OutputFormat.toJson OutputFormat.ofJson? ∧
    Exchanges NumConfigsPolicy.toJson NumConfigsPolicy.ofJson? ∧
    (∀ c : Configuration, c.discovery.Textual → c.discovery.pathCapacity ≤ maxCapacity →
      ∃ v, c.toJson? = some v ∧ (Json.parse v.render).bind Configuration.ofJson? = some c) ∧
    ∀ s : String, ((Json.parse (Json.ofString s).render).bind NodePath.ofJson?).isSome = true ↔
      s.toList.head? = some '/' := by
  refine ⟨?_, ?_, ?_, ?_, ?_, ?_, ?_, fun c => Configuration.returns, fun s => ?_⟩
  · exact exchanges_of (fun id => Json.readable_ofNat _) SessionId.ofJson?_toJson
  · exact exchanges_of (fun s => Json.readable_ofString _) DeviceSpeed.ofJson?_toJson
  · exact exchanges_of (fun p => .string p.chars) NodePath.ofJson?_toJson
  · exact exchanges_of PassSummary.readable_toJson PassSummary.ofJson?_toJson
  · exact exchanges_of (fun k => Json.readable_ofString _) BackendKind.ofJson?_toJson
  · exact exchanges_of (fun f => Json.readable_ofString _) OutputFormat.ofJson?_toJson
  · exact exchanges_of (fun p => Json.readable_ofString _) NumConfigsPolicy.ofJson?_toJson
  · rw [(Json.readable_ofString s).parse_render, Option.bind_some, NodePath.isSome_ofJson?]

/-- A configuration with quotes, a backslash, an end of line and a letter beyond ASCII in its texts, and with the
greatest capacity. -/
def escapedConfiguration : Configuration :=
  { general := { backend := .devinfo }
    discovery :=
      { devicesRoot := RawPath.ofString "/de\"vi\\ces\n"
        pathCapacity := maxCapacity
        filters := ["0a12:*", "\x01é"]
        snapshotRoot := some (RawPath.ofString "/𝄞") } }

theorem escaped_configuration_returns : escapedConfiguration.discovery.Textual ∧
    ∃ v, escapedConfiguration.toJson? = some v ∧
      (Json.parse v.render).bind Configuration.ofJson? = some escapedConfiguration := by
  have htextual : escapedConfiguration.discovery.Textual := by
    refine ⟨by decide, by decide, ?_⟩
    rintro root ⟨⟩
    decide
  exact ⟨htextual, exchanged_values_return.2.2.2.2.2.2.2.1 escapedConfiguration htextual (by decide)⟩

end UsbInventory
