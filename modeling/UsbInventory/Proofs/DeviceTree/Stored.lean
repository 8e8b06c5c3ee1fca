/-
Device trees that are stored as snapshots. A tree in memory gives every node its properties; a snapshot stores it if
each node is a directory at its place below the root, each property a file there that lists the values, and whatever
else the directory holds is a directory again. Such a snapshot answers as the tree does, look-up by look-up, so the
resolver makes the same of both.

The root may be any path that leads to a directory: the way to it is followed once, and from its place on there are no
links.
-/
import UsbInventory.Proofs.DeviceTree.Listing
import UsbInventory.Proofs.DeviceTree.Properties
import UsbInventory.Proofs.Files.Descent
import UsbInventory.Proofs.Pass.Inspection
import UsbInventory.Proofs.Path.NodeNames

namespace UsbInventory

open RawPath
open Text.Utf8 (encode)

/-! ## Trees in memory -/

/-- The properties of a node, by name. -/
abbrev Properties := List (String × List Int)

/-- A device tree in memory: nodes by path, with their properties. -/
structure MemoryTree where
  nodes : List (NodePath × Properties)

namespace MemoryTree

/-- A node that has the given properties and no others. -/
def nodeOf (properties : Properties) : DeviceNode :=
  ⟨fun name =>
    match properties.lookup name with
    | some vs => .values vs
    | none => .absent (.system SystemError.noEntry)⟩

/-- The tree as a pass sees it. -/
def tree (t : MemoryTree) : DeviceTree :=
  ⟨fun path =>
    match t.nodes.lookup path with
    | some properties => .ok (nodeOf properties)
    | none => .error (.system SystemError.noEntry)⟩

end MemoryTree

/-! ## Snapshots of a tree -/

namespace Snapshot

/-- A directory holds the properties of a node: each is a file that lists its values, and under any other name is
nothing or a directory, that of a child. -/
structure Holds (es : List (RawPath × Entry)) (properties : Properties) : Prop where
  stored : ∀ name vs, properties.lookup name = some vs →
    ∃ text, es.lookup (RawPath.ofString name) = some (.file (RawPath.ofString text)) ∧ Listing vs text.toList
  others : ∀ name, properties.lookup name = none → ∀ e, es.lookup (RawPath.ofString name) = some e →
    ∃ below, e = .directory below

/-- A node path written as names of files from the root down. -/
def IsPathOf (path : NodePath) (names : List (List Char)) : Prop :=
  path.chars = NodePath.textOf names ∧ ∀ name ∈ names, IsFileName (encode name)

/-- A path leads to a snapshot of a tree: every node is a directory below that place, and holds its properties. -/
def Stores (fs : FileSystem) (root : RawPath) (t : MemoryTree) : Prop :=
  ∃ place, fs.locate root = .ok place ∧ ∀ path properties, t.nodes.lookup path = some properties →
    ∃ names es, IsPathOf path names ∧ place.entry.find? (names.map encode) = some (.directory es) ∧ Holds es properties

/-- The properties of a tree have names of files, and below the root of a snapshot the paths of its nodes and
properties are short enough for the system. -/
structure Fits (root : RawPath) (t : MemoryTree) : Prop where
  nodes : ∀ path properties, t.nodes.lookup path = some properties → (nodeDir root path).length < FileSystem.maxPath
  properties : ∀ path properties, t.nodes.lookup path = some properties → ∀ name vs, properties.lookup name = some vs →
    IsFileName (RawPath.ofString name) ∧
      ((nodeDir root path).join (RawPath.ofString name)).length < FileSystem.maxPath

theorem holds_nil {es : List (RawPath × Entry)} (h : ∀ e ∈ es.map (·.2), ∃ below, e = .directory below) :
    Holds es [] :=
  ⟨nofun, fun _ _ e he => h e (List.mem_map_of_mem (mem_of_lookup he))⟩

/-- With a file that lists its values a directory holds one more property. -/
theorem Holds.file {es : List (RawPath × Entry)} {properties : Properties} {text : String} {vs : List Int}
    (h : Holds es properties) (name : String) (hl : Listing vs text.toList) :
    Holds ((RawPath.ofString name, .file (RawPath.ofString text)) :: es) ((name, vs) :: properties) := by
  have hname : ∀ {n : String}, n ≠ name →
      (n == name) = false ∧ (RawPath.ofString n == RawPath.ofString name) = false :=
    fun hne => ⟨beq_eq_false_iff_ne.2 hne, beq_eq_false_iff_ne.2 fun he => hne (RawPath.ofString_inj.1 he)⟩
  constructor
  · intro n us hu
    by_cases hn : n = name
    · subst hn
      rw [List.lookup_cons_self] at hu ⊢
      cases hu
      exact ⟨text, rfl, hl⟩
    · rw [List.lookup_cons, (hname hn).1] at hu
      rw [List.lookup_cons, (hname hn).2]
      exact h.stored n us hu
  · intro n hu e he
    by_cases hn : n = name
    · subst hn
      rw [List.lookup_cons_self] at hu
      cases hu
    · rw [List.lookup_cons, (hname hn).1] at hu
      rw [List.lookup_cons, (hname hn).2] at he
      exact h.others n hu e he

/-! ## Look-ups -/

section Lookups

variable {fs : FileSystem} {dir : RawPath} {p : Place} {es : List (RawPath × Entry)} {properties : Properties}
  {name : String}

/-- A stored property is found with its values. -/
theorem lookupIn_stored {vs : List Int} (hdir : fs.locate dir = .ok p) (hes : p.entry = .directory es)
    (h : Holds es properties) (hn : IsFileName (RawPath.ofString name))
    (short : (dir.join (RawPath.ofString name)).length < FileSystem.maxPath)
    (hl : properties.lookup name = some vs) : lookupIn fs dir name = .values vs := by
  obtain ⟨text, hfile, hlisting⟩ := h.stored name vs hl
  have hproper : isPropertyName name = true := by
    refine isPropertyName_iff.2 ⟨fun he => hn.ne_nil ?_, fun hs => hn.whole (slash_mem_ofString.2 hs)⟩
    rw [RawPath.ofString, he]
    rfl
  obtain ⟨r, hr, hentry⟩ := FileSystem.locate_join_names hdir hn.not_absolute
    (FileSystem.stepsBelow_name hn.whole hn.ne_nil) (by simpa using hn) hn.ended short
    (e := .file (RawPath.ofString text)) (by rw [hes, Entry.find?, hfile]; rfl) nofun
  have htext : fs.textContent (dir.join (RawPath.ofString name)) = .ok text :=
    FileSystem.textContent_of_look (by rw [FileSystem.look, hr, ← hentry]; rfl)
  exact lookupIn_of_text hproper htext hlisting.parseValues

/-- Any other property is absent. -/
theorem lookupIn_absent (hdir : fs.locate dir = .ok p) (hes : p.entry = .directory es) (h : Holds es properties)
    (whole : '/' ∉ name.toList) (hl : properties.lookup name = none) :
    ∃ cause, lookupIn fs dir name = .absent cause := by
  by_cases hsome : name.toList = []
  · have hname : isPropertyName name = false :=
      Bool.eq_false_iff.2 fun hp => (isPropertyName_iff.1 hp).1 hsome
    unfold lookupIn
    rw [hname]
    exact ⟨_, rfl⟩
  · have hne : RawPath.ofString name ≠ [] := fun he => hsome (Text.Utf8.encode_injective (he.trans rfl))
    cases hc : fs.textContent (dir.join (RawPath.ofString name)) with
    | error e => exact lookupIn_of_error hc
    | ok text =>
      -- what is read is a file, and a name that is not stored leads to none
      obtain ⟨bytes, hlook⟩ := FileSystem.look_of_textContent hc
      unfold FileSystem.look at hlook
      cases hr : fs.locate (dir.join (RawPath.ofString name)) with
      | error e =>
        rw [hr] at hlook
        cases hlook
      | ok r =>
        obtain ⟨below, hbelow⟩ := FileSystem.locate_join_directory hdir hes (fun hs => whole (slash_mem_ofString.1 hs))
          hne (h.others name hl) hr
        rw [hr] at hlook
        have hfile : r.entry = .file bytes := Except.ok.inj hlook
        rw [hbelow] at hfile
        cases hfile

end Lookups

/-! ## Nodes -/

section Nodes

variable {fs : FileSystem} {root : RawPath} {t : MemoryTree} {path : NodePath} {properties : Properties}

/-- What a node path adds to the root of a snapshot is the path of its names without the first slash. -/
theorem slash_below {names : List (List Char)} (h : IsPathOf path names) (hne : names ≠ []) :
    slash :: encode (path.chars.dropWhile (· == '/')) = FileSystem.pathOf (names.map encode) := by
  have hslash : path.chars = '/' :: path.chars.dropWhile (· == '/') := by
    obtain ⟨name, rest, rfl⟩ := List.exists_cons_of_ne_nil hne
    have hfile := h.2 name List.mem_cons_self
    have hname := NodePath.isStep_of_encode ⟨hfile.toIsName, hfile.ascends⟩
    obtain ⟨c, cs, rfl⟩ := List.exists_cons_of_ne_nil hname.some_
    have hc : c ≠ '/' := fun he => hname.whole (he ▸ List.mem_cons_self)
    rw [h.1]
    simp [NodePath.textOf, hc]
  rw [← NodePath.encode_textOf, ← h.1]
  nth_rewrite 2 [hslash]
  rfl

theorem locate_nodeDir {names : List (List Char)} {p : Place} {es : List (RawPath × Entry)}
    (hroot : fs.locate root = .ok p) (h : IsPathOf path names)
    (short : (nodeDir root path).length < FileSystem.maxPath)
    (hf : p.entry.find? (names.map encode) = some (.directory es)) :
    ∃ r, fs.locate (nodeDir root path) = .ok r ∧ r.entry = .directory es := by
  by_cases hne : names = []
  · subst hne
    have hes : p.entry = .directory es := Option.some.inj hf
    have hbelow : path.chars.dropWhile (· == '/') = [] := by rw [h.1]; rfl
    unfold nodeDir at short ⊢
    rw [hbelow] at short ⊢
    exact ⟨p, FileSystem.locate_join_nil hroot hes short, hes⟩
  · have hbelow := slash_below h hne
    have hall : ∀ name ∈ names.map encode, IsFileName name := by simpa using h.2
    have hended : 0 ∉ slash :: encode (path.chars.dropWhile (· == '/')) := by
      rw [hbelow]
      exact ended_pathOf fun name hm => (hall name hm).ended
    exact FileSystem.locate_join_names hroot path.relative_below_root
      (FileSystem.stepsBelow_of_slash hbelow (by simpa using hne) fun name hm => (hall name hm).toIsName) hall
      (fun h0 => hended (List.mem_cons_of_mem _ h0)) short hf nofun

/-- The directory of a stored node opens, and answers for its properties. -/
theorem open_stored (h : Stores fs root t) (fits : Fits root t) (hl : t.nodes.lookup path = some properties) :
    ∃ node, openNode fs root path = .ok node ∧ ∀ name : String, '/' ∉ name.toList →
      (∀ vs, properties.lookup name = some vs → node.lookup name = .values vs) ∧
      (properties.lookup name = none → ∃ cause, node.lookup name = .absent cause) := by
  obtain ⟨p, hroot, hnodes⟩ := h
  obtain ⟨names, es, hpath, hf, holds⟩ := hnodes path properties hl
  obtain ⟨r, hr, hes⟩ := locate_nodeDir hroot hpath (fits.nodes path properties hl) hf
  refine ⟨⟨lookupIn fs (nodeDir root path)⟩, ?_, fun name whole => ⟨fun vs hv => ?_, fun hv => ?_⟩⟩
  · unfold openNode
    dsimp only
    rw [FileSystem.look, hr, Except.map, hes]
    rfl
  · obtain ⟨hname, hshort⟩ := fits.properties path properties hl name vs hv
    exact lookupIn_stored hr hes holds hname hshort hv
  · exact lookupIn_absent hr hes holds whole hv

end Nodes

end Snapshot

/-- A snapshot of a tree stands for it: every node opens, a property is found with exactly its values, anything else
is absent, and the resolver comes to the same identity or error as over the tree, under either policy. -/
theorem snapshot_refines_tree {fs : FileSystem} {root : RawPath} {t : MemoryTree} (h : Snapshot.Stores fs root t)
    (fits : Snapshot.Fits root t) {path : NodePath} {properties : Properties}
    (hl : t.nodes.lookup path = some properties) :
    (∃ node, (Snapshot.tree fs root).openNode path = .ok node ∧ ∀ name : String, '/' ∉ name.toList →
      (∀ vs, properties.lookup name = some vs → node.lookup name = .values vs) ∧
      (properties.lookup name = none → ∃ cause, node.lookup name = .absent cause)) ∧
    ∀ policy, (Resolution.resolve (Snapshot.tree fs root) policy path).result =
      (Resolution.resolve t.tree policy path).result := by
  obtain ⟨node, hopen, hlookup⟩ := Snapshot.open_stored h fits hl
  refine ⟨⟨node, hopen, hlookup⟩, fun policy => ?_⟩
  have hmemory : t.tree.openNode path = .ok (MemoryTree.nodeOf properties) := by
    unfold MemoryTree.tree
    dsimp only
    rw [hl]
  have hproperty : ∀ name ∈ Resolution.propertyNames,
      node.property name = (MemoryTree.nodeOf properties).property name := by
    intro name hname
    have hwhole : ∀ name ∈ Resolution.propertyNames, '/' ∉ name.toList := by decide
    obtain ⟨hstored, habsent⟩ := hlookup name (hwhole name hname)
    show IntProperty.ofLookup (node.lookup name) = IntProperty.ofLookup ((MemoryTree.nodeOf properties).lookup name)
    cases hv : properties.lookup name with
    | some vs => simp only [MemoryTree.nodeOf, hv, hstored vs hv]
    | none =>
      obtain ⟨cause, hcause⟩ := habsent hv
      simp only [MemoryTree.nodeOf, hv, hcause]
      rfl
  have hopen : (Snapshot.tree fs root).openNode path = .ok node := hopen
  unfold Resolution.resolve
  rw [hopen, hmemory]
  exact Resolution.inspect_congr hproperty policy path

/-- The path of a device below a hub. -/
def storedDevice : NodePath := ⟨['/', 'h', 'u', 'b', '/', 'd', '@', '2'], rfl⟩

/-- A hub with a device, each with a property that holds a negative number. -/
def storedTree : MemoryTree :=
  ⟨[(⟨['/', 'h', 'u', 'b'], rfl⟩, [("reg", [-5])]),
    (storedDevice, [(Property.busNumber, [1]), (Property.numConfigs, [1]), ("reg", [-5, 7])])]⟩

/-- The directory of the device. -/
def storedEntries : List (RawPath × Entry) :=
  let file (text : String) : Entry := .file (RawPath.ofString text)
  [(RawPath.ofString Property.busNumber, file "1"), (RawPath.ofString Property.numConfigs, file "1"),
    (RawPath.ofString "reg", file " 0xfffffffb\t7\n")]

/-- The tree as files, once in decimal and once in hexadecimal, behind a link. -/
def storedFiles : FileSystem :=
  let hub : Entry := .directory
    [(RawPath.ofString "reg", .file (RawPath.ofString "-5")), (RawPath.ofString "d@2", .directory storedEntries)]
  ⟨.directory [(RawPath.ofString "data", .directory [(RawPath.ofString "hub", hub)]),
    (RawPath.ofString "props", .link (RawPath.ofString "data"))], []⟩

namespace Snapshot

open Numeral in
theorem holds_storedEntries :
    Holds storedEntries [(Property.busNumber, [1]), (Property.numConfigs, [1]), ("reg", [-5, 7])] := by
  have hone : Listing [1] "1".toList := .single (.decimal (spells_toDigits (by decide) 1) (by decide))
  have hseven : Word 7 ['7'] := .decimal (spells_toDigits (by decide) 7) (by decide)
  have hpattern : Spells 16 0xfffffffb "fffffffb".toList := spells_toDigits (by decide) 0xfffffffb
  have hfive : Word (-5) ('0' :: 'x' :: "fffffffb".toList) :=
    .pattern (.inl rfl) hpattern (by decide) (by decide) (by decide)
  have hrest : Listing [7] (['\t'] ++ ['7'] ++ ['\n']) :=
    .cons (by simp [Text.isBlank]) hseven (by simp [Text.isBlank]) (.nil (by simp [Text.isBlank]))
  have hreg : Listing [-5, 7] ([' '] ++ '0' :: 'x' :: "fffffffb".toList ++ (['\t'] ++ ['7'] ++ ['\n'])) :=
    .cons (by simp [Text.isBlank]) hfive (by simp [Text.isBlank]) hrest
  exact .file (.file (.file (holds_nil (by simp)) "reg" hreg) Property.numConfigs hone) Property.busNumber hone

open Numeral in
theorem storedFiles_stores : Stores storedFiles (RawPath.ofString "/props/") storedTree := by
  have hfive : Listing [-5] "-5".toList := .single (.minus (spells_toDigits (by decide) 5) (by decide))
  refine ⟨_, rfl, fun path properties hl => ?_⟩
  rcases List.mem_cons.1 (mem_of_lookup hl) with he | hm
  · cases he
    refine ⟨[['h', 'u', 'b']], _, ⟨rfl, by decide⟩, rfl, ?_⟩
    exact .file (holds_nil (by simp)) "reg" hfive
  · cases List.mem_singleton.1 hm
    exact ⟨[['h', 'u', 'b'], ['d', '@', '2']], _, ⟨rfl, by decide⟩, rfl, holds_storedEntries⟩

theorem storedTree_fits : Fits (RawPath.ofString "/props/") storedTree := by
  have hall : ∀ node ∈ storedTree.nodes,
      (nodeDir (RawPath.ofString "/props/") node.1).length < FileSystem.maxPath ∧
      ∀ property ∈ node.2, IsFileName (RawPath.ofString property.1) ∧
        ((nodeDir (RawPath.ofString "/props/") node.1).join (RawPath.ofString property.1)).length <
          FileSystem.maxPath := by
    decide +kernel
  exact ⟨fun path properties hl => (hall _ (mem_of_lookup hl)).1, fun path properties hl name vs hv =>
    (hall _ (mem_of_lookup hl)).2 _ (mem_of_lookup hv)⟩

end Snapshot

/-- The device is found in the snapshot with its properties. -/
theorem stored_device_refines :
    Snapshot.Stores storedFiles (RawPath.ofString "/props/") storedTree ∧
    Snapshot.Fits (RawPath.ofString "/props/") storedTree ∧
    ∃ node, Snapshot.openNode storedFiles (RawPath.ofString "/props/") storedDevice = .ok node ∧
      node.lookup "reg" = .values [-5, 7] ∧ (∃ cause, node.lookup "low-speed" = .absent cause) ∧
      (Resolution.resolve (Snapshot.tree storedFiles (RawPath.ofString "/props/")) .required storedDevice).result =
        (Resolution.resolve storedTree.tree .required storedDevice).result := by
  have hl : storedTree.nodes.lookup storedDevice =
      some [(Property.busNumber, [1]), (Property.numConfigs, [1]), ("reg", [-5, 7])] := by decide
  obtain ⟨⟨node, hopen, hlookup⟩, hresolve⟩ :=
    snapshot_refines_tree Snapshot.storedFiles_stores Snapshot.storedTree_fits hl
  exact ⟨Snapshot.storedFiles_stores, Snapshot.storedTree_fits, node, hopen,
    (hlookup "reg" (by decide)).1 _ (by decide), (hlookup "low-speed" (by decide)).2 (by decide), hresolve .required⟩

end UsbInventory
