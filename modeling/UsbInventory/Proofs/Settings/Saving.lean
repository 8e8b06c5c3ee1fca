/-
Configurations in files. A configuration that has been saved stands in its file as the document of all its fields, and
is read from there as it was. What TOML cannot say is found out before anything is made or written.
-/
import UsbInventory.Proofs.Files.Writing
import UsbInventory.Proofs.Pass.Counters
import UsbInventory.Proofs.Pass.Inspection
import UsbInventory.Proofs.Settings.Partial
import UsbInventory.Settings.Files

namespace UsbInventory

/-! ## Documents -/

/-- A section of bare keys is written as the lines of its assignments. -/
theorem Toml.section_eq {name : String} {written : List (String × Written)} {as : List Assignment}
    (hname : keyChars name = name.toList) (hkeys : ∀ w ∈ written, keyChars w.1 = w.1.toList)
    (h : as.map (fun a => (a.key, a.text)) = written.map fun w => (w.1, w.2.chars)) :
    section_ name written = sectionChars (name, as) := by
  have hlines : as.flatMap Assignment.chars =
      (as.map fun a => (a.key, a.text)).flatMap fun line => keyChars line.1 ++ [' ', '=', ' '] ++ line.2 ++ ['\n'] := by
    rw [List.flatMap_map]
    rfl
  have hwritten : (written.flatMap fun w => assignment w.1 w.2) =
      (written.map fun w => (w.1, w.2.chars)).flatMap fun line =>
        keyChars line.1 ++ [' ', '=', ' '] ++ line.2 ++ ['\n'] := by
    rw [List.flatMap_map]
    refine List.flatMap_congr fun w hw => ?_
    rw [assignment, hkeys w hw]
  rw [section_, sectionChars, hname, hlines, h, ← hwritten]

namespace Configuration

theorem writtenPath_eq {p : RawPath} (h : p.text?.isSome = true) :
    writtenPath p = .ok (.string ((Text.Utf8.decode? p).getD [])) := by
  obtain ⟨cs, hcs, -⟩ := RawPath.exists_text h
  rw [writtenPath, hcs]
  rfl

theorem text_of_writtenPath {p : RawPath} {w : Toml.Written} (h : writtenPath p = .ok w) : p.text?.isSome = true := by
  unfold writtenPath at h
  split at h
  · next cs hcs => simp [RawPath.text?, hcs]
  · cases h

theorem fits_of_writtenNat {n : Nat} {w : Toml.Written} (h : writtenNat n = .ok w) : n ≤ Toml.maxInteger := by
  unfold writtenNat at h
  split at h
  · assumption
  · cases h

theorem document_keys (c : Configuration) (fits : c.discovery.pathCapacity ≤ Toml.maxInteger) :
    c.document fits keys = [("general", c.general.assignments), ("discovery", c.discovery.assignments fits)] := by
  have hgeneral : c.general.assignments.filter (·.key ∈ keys) = c.general.assignments := by
    rw [List.filter_eq_self]
    simp [GeneralSettings.assignments, Toml.Assignment.ofWritten, keys, GeneralSettings.names]
  have hdiscovery : (c.discovery.assignments fits).filter (·.key ∈ keys) = c.discovery.assignments fits := by
    rw [List.filter_eq_self]
    simp [DiscoverySettings.assignments, DiscoverySettings.pathAssignment, Toml.Assignment.ofWritten, keys,
      DiscoverySettings.names]
  rw [document, hgeneral, hdiscovery]

/-- A configuration that can be written is written as the document of all its fields. -/
theorem toDocument_eq {c : Configuration} (textual : c.discovery.Textual)
    (fits : c.discovery.pathCapacity ≤ Toml.maxInteger) :
    c.toDocument = .ok (Toml.documentChars (c.document fits keys)) := by
  have hbare : ∀ key ∈ names ++ keys, Toml.keyChars key = key.toList := by decide +kernel
  have hgeneral : Toml.section_ "general"
      [("log_level", .string c.general.logLevel.toList), ("backend", .string c.general.backend.name.toList),
        ("output", .string c.general.output.name.toList)] =
      Toml.sectionChars ("general", c.general.assignments) := by
    refine Toml.section_eq (hbare _ (by decide)) (fun w hw => hbare w.1 ?_) rfl
    revert w
    simp [names, keys, GeneralSettings.names]
  have hdiscovery : Toml.section_ "discovery"
      ([("dev_usb_root", .string ((Text.Utf8.decode? c.discovery.devUsbRoot).getD [])),
        ("devices_root", .string ((Text.Utf8.decode? c.discovery.devicesRoot).getD [])),
        ("witness_file", .string c.discovery.witnessFile.toList),
        ("group_pattern", .string c.discovery.groupPattern.toList),
        ("path_capacity", .integer c.discovery.pathCapacity),
        ("num_configs_policy", .string c.discovery.numConfigsPolicy.name.toList),
        ("filters", .strings (c.discovery.filters.map String.toList))] ++
      c.discovery.snapshotRoot.toList.map fun root =>
        ("snapshot_root", .string ((Text.Utf8.decode? root).getD []))) =
      Toml.sectionChars ("discovery", c.discovery.assignments fits) := by
    refine Toml.section_eq (hbare _ (by decide)) (fun w hw => hbare w.1 ?_) ?_
    · revert w
      simp [names, keys, DiscoverySettings.names]
    · simp only [DiscoverySettings.assignments, List.map_append, List.map_map]
      rfl
  have hchars : Toml.documentChars [("general", c.general.assignments), ("discovery", c.discovery.assignments fits)] =
      Toml.sectionChars ("general", c.general.assignments) ++
        '\n' :: Toml.sectionChars ("discovery", c.discovery.assignments fits) := rfl
  rw [document_keys, hchars, ← hgeneral, ← hdiscovery]
  simp only [toDocument, writtenPath_eq textual.devUsbRoot, writtenPath_eq textual.devicesRoot, writtenNat,
    if_pos fits]
  cases hroot : c.discovery.snapshotRoot with
  | none => rfl
  | some root =>
    simp only [writtenPath_eq (textual.snapshotRoot root hroot)]
    rfl

/-- What is written has only texts for paths, and a capacity that TOML can say. -/
theorem of_toDocument {c : Configuration} {text : List Char} (h : c.toDocument = .ok text) :
    c.discovery.Textual ∧ c.discovery.pathCapacity ≤ Toml.maxInteger := by
  unfold toDocument at h
  obtain ⟨dev, hdev, h⟩ := ok_of_bind h
  obtain ⟨devices, hdevices, h⟩ := ok_of_bind h
  obtain ⟨capacity, hcapacity, h⟩ := ok_of_bind h
  refine ⟨⟨text_of_writtenPath hdev, text_of_writtenPath hdevices, ?_⟩, fits_of_writtenNat hcapacity⟩
  intro root hroot
  rw [hroot] at h
  obtain ⟨snapshot, hsnapshot, -⟩ := ok_of_bind h
  cases hpath : writtenPath root with
  | error e => simp [hpath, Except.map] at hsnapshot
  | ok w => exact text_of_writtenPath hpath

theorem toDocument_error_iff {c : Configuration} : (∃ e, c.toDocument = .error e) ↔
    ¬(c.discovery.Textual ∧ c.discovery.pathCapacity ≤ Toml.maxInteger) := by
  constructor
  · rintro ⟨e, he⟩ ⟨textual, fits⟩
    rw [toDocument_eq textual fits] at he
    cases he
  · intro h
    cases hdocument : c.toDocument with
    | error e => exact ⟨e, rfl⟩
    | ok text => exact absurd (of_toDocument hdocument) h

/-! ## Files -/

/-- A document is written after directories were made for it, if they could be. -/
theorem save_cases {c : Configuration} {text : List Char} (h : c.toDocument = .ok text) (fs : FileSystem)
    (path : RawPath) : ∃ made, fs.Grown made ∧
      ((∃ above e, c.save fs path = (made, .error (.directory above e))) ∨
        c.save fs path = match made.writeFile path (Text.Utf8.encode text) with
          | .ok written => (written, .ok ())
          | .error e => (made, .error (.file path e))) := by
  unfold save
  rw [h]
  dsimp only
  cases RawPath.parent? path with
  | none => exact ⟨fs, .refl fs, .inr rfl⟩
  | some above =>
    refine ⟨(fs.makeDirAll above).1, fs.grown_makeDirAll above, ?_⟩
    dsimp only
    cases (fs.makeDirAll above).2 with
    | error e => exact .inl ⟨above, e, rfl⟩
    | ok _ => exact .inr rfl

/-- A configuration that has been saved stands in its file as its document, in what the file system has grown to. -/
theorem textContent_saved {c : Configuration} {fs fs' : FileSystem} {path : RawPath}
    (there : (fs.find? fs.workDir).isSome = true) (h : c.save fs path = (fs', .ok ())) :
    ∃ text, c.toDocument = .ok text ∧ fs'.textContent path = .ok (String.ofList text) := by
  cases hdocument : c.toDocument with
  | error e =>
    rw [save, hdocument] at h
    cases h
  | ok text =>
    refine ⟨text, rfl, ?_⟩
    obtain ⟨made, hgrown, ⟨above, e, hfailed⟩ | hsaved⟩ := save_cases hdocument fs path
    · rw [hfailed] at h
      cases h
    have hwrite : made.writeFile path (Text.Utf8.encode text) = .ok fs' := by
      rw [hsaved] at h
      split at h
      · next written hwritten =>
        cases h
        exact hwritten
      · cases h
    obtain ⟨e, he⟩ := Option.isSome_iff_exists.1 there
    obtain ⟨e', he', -⟩ := hgrown.root _ _ he
    have there' : (made.find? made.workDir).isSome = true := by
      rw [hgrown.workDir]
      exact Option.isSome_iff_exists.2 ⟨e', he'⟩
    have hlook := (FileSystem.look_written there' hwrite).1
    refine FileSystem.textContent_of_look ?_
    rw [RawPath.ofString, String.toList_ofList]
    exact hlook

end Configuration

/-- A configuration that is saved and valid is loaded again as it was, if its paths are definite. One that TOML cannot
say is refused, and nothing is written or made for it. -/
theorem saved_configuration_loads {fs : FileSystem} (there : (fs.find? fs.workDir).isSome = true) (c : Configuration)
    (path : RawPath) :
    (∀ (env : Environment) (fs' : FileSystem), c.validate = .ok () → c.save fs path = (fs', .ok ()) →
      c.expandPaths env fs' = c → Configuration.load env fs' (some path) = .ok c) ∧
    ((∃ e, c.save fs path = (fs, .error (.unwritable e))) ↔
      ¬(c.discovery.Textual ∧ c.discovery.pathCapacity ≤ Toml.maxInteger)) := by
  refine ⟨fun env fs' valid saved definite => ?_, ?_⟩
  · obtain ⟨text, hdocument, htext⟩ := Configuration.textContent_saved there saved
    obtain ⟨textual, fits⟩ := Configuration.of_toDocument hdocument
    have hread := Configuration.ofDocument?_of_sets textual (c.setsSections_document fits Configuration.keys)
    rw [Configuration.toDocument_eq textual fits] at hdocument
    cases hdocument
    rw [Configuration.overlay_keys] at hread
    simp only [Configuration.load, Configuration.loadFile, htext, String.toList_ofList, hread, definite, valid]
  · rw [← Configuration.toDocument_error_iff]
    constructor
    · rintro ⟨e, he⟩
      cases hdocument : c.toDocument with
      | error e => exact ⟨e, rfl⟩
      | ok text =>
        obtain ⟨made, -, ⟨above, e, hfailed⟩ | hsaved⟩ := Configuration.save_cases hdocument fs path
        · rw [hfailed] at he
          cases he
        · rw [hsaved] at he
          split at he <;> cases he
    · rintro ⟨e, he⟩
      refine ⟨e, ?_⟩
      rw [Configuration.save, he]

/-- A device tree, and a home directory with a link to it; the home directory is the working directory. -/
def homeFiles : FileSystem :=
  { root := .directory
      [(RawPath.ofString "devices", .directory []),
        (RawPath.ofString "home", .directory [(RawPath.ofString "user", .directory [])]),
        (RawPath.ofString "config", .link (RawPath.ofString "home/user"))]
    workDir := [RawPath.ofString "home", RawPath.ofString "user"] }

/-- A configuration with definite paths, and with a pattern that no form over one line can hold. -/
def definiteConfiguration : Configuration :=
  { general := { output := .json }
    discovery :=
      { groupPattern := "\"\"\"a\\b'''\n\x07"
        pathCapacity := Toml.maxInteger
        filters := ["0x0a12:*"]
        snapshotRoot := some (RawPath.ofString "/snap 'é'") } }

/-- The configuration is saved behind the link, in a directory that is made for it, and loaded again; with a greater
capacity it is not written at all. -/
theorem definite_configuration_loads :
    let path := RawPath.ofString "/config/nested/enumerator.toml"
    let fs' := (definiteConfiguration.save homeFiles path).1
    Configuration.load default fs' (some path) = .ok definiteConfiguration ∧
    fs'.pathExists (RawPath.ofString "nested/enumerator.toml") = true ∧
    ∃ e, Configuration.save { discovery := { pathCapacity := Toml.maxInteger + 1 } } homeFiles path =
      (homeFiles, .error (.unwritable e)) := by
  intro path fs'
  have there : (homeFiles.find? homeFiles.workDir).isSome = true := by decide
  have valid : definiteConfiguration.validate = .ok () := ok_of_toOption (by decide +kernel)
  have hok : (definiteConfiguration.save homeFiles path).2 = .ok () := ok_of_toOption (by decide +kernel)
  have saved : definiteConfiguration.save homeFiles path = (fs', .ok ()) := by rw [← hok]
  have definite : definiteConfiguration.expandPaths default fs' = definiteConfiguration := by decide +kernel
  refine ⟨(saved_configuration_loads there _ path).1 default fs' valid saved definite, by decide +kernel, ?_⟩
  refine (saved_configuration_loads there _ path).2.2 ?_
  rintro ⟨-, hfits⟩
  exact absurd hfits (Nat.not_succ_le_self Toml.maxInteger)

end UsbInventory
