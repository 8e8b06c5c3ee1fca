/-
What a pass registers, told by the names in the listings and by whole paths: a group is gone into if its path
is short enough and has a listing, and an instance leads to a node if the path of its witness is short enough and
resolves to a place in the device tree. The nodes of the walk are the nodes listed in this way, provided that
the name of the witness file is a component; otherwise no instance has a witness and there are none.

Paths are composed component by component, so this is where the checks on the way are seen to agree with one
check at the end.
-/
import Mathlib.Data.List.Basic
import UsbInventory.Proofs.Files.Names
import UsbInventory.Proofs.Path.Joining
import UsbInventory.Proofs.Pass.Counters

namespace UsbInventory

/-! ## Composed paths -/

namespace Witness

variable {settings : DiscoverySettings} {name : RawPath}

theorem groupPath_of_fits (hr : settings.devUsbRoot ≠ []) (hn : BoundedPath.isComponent name = true)
    (h : (settings.devUsbRoot.join name).length < settings.pathCapacity) :
    groupPath settings name = .ok ⟨settings.devUsbRoot.join name, settings.pathCapacity, h⟩ := by
  have hroot : settings.devUsbRoot.length < settings.pathCapacity := by
    by_cases hc : settings.devUsbRoot.length < settings.pathCapacity
    · exact hc
    · have hle := BoundedPath.length_le_length_join (p := ⟨settings.devUsbRoot, _, Nat.lt_succ_self _⟩) hn
      exact absurd (Nat.lt_of_le_of_lt hle h) hc
  unfold groupPath BoundedPath.ofPath
  rw [dif_pos hroot]
  exact BoundedPath.join_of_fits (p := ⟨settings.devUsbRoot, settings.pathCapacity, hroot⟩) hr hn h

theorem groupPath_of_long (hr : settings.devUsbRoot ≠ []) (hn : BoundedPath.isComponent name = true)
    (h : ¬ (settings.devUsbRoot.join name).length < settings.pathCapacity) :
    ∃ e, groupPath settings name = .error e := by
  unfold groupPath BoundedPath.ofPath
  split
  · next hroot =>
    exact ⟨_, BoundedPath.join_of_long (p := ⟨settings.devUsbRoot, settings.pathCapacity, hroot⟩) hr hn h⟩
  · exact ⟨_, rfl⟩

/-- The path of a witness is composed exactly if it is short enough. -/
theorem pathOf_toOption {group : BoundedPath} (hg : group.path ≠ []) (hn : BoundedPath.isComponent name = true)
    (hw : BoundedPath.isComponent (RawPath.ofString settings.witnessFile) = true) :
    (pathOf settings group name).toOption.map BoundedPath.path =
      if ((group.path.join name).join (RawPath.ofString settings.witnessFile)).length < group.capacity then
        some ((group.path.join name).join (RawPath.ofString settings.witnessFile))
      else none := by
  unfold pathOf
  by_cases hi : (group.path.join name).length < group.capacity
  · have hne : group.path.join name ≠ [] := RawPath.join_ne_nil hg
    rw [BoundedPath.join_of_fits hg hn hi]
    show (BoundedPath.join ⟨group.path.join name, group.capacity, hi⟩ _).toOption.map BoundedPath.path = _
    split
    · next h =>
      rw [BoundedPath.join_of_fits hne hw h]
      rfl
    · next h =>
      rw [BoundedPath.join_of_long hne hw h]
      rfl
  · have hle := BoundedPath.length_le_length_join (p := ⟨group.path.join name, _, Nat.lt_succ_self _⟩) hw
    rw [BoundedPath.join_of_long hg hn hi, if_neg fun h => hi (Nat.lt_of_le_of_lt hle h)]
    rfl

/-- A witness file that is no component is found in no instance. -/
theorem pathOf_of_not_component (group : BoundedPath)
    (hw : BoundedPath.isComponent (RawPath.ofString settings.witnessFile) = false) :
    (pathOf settings group name).toOption = none := by
  unfold pathOf
  cases group.join name with
  | error e => rfl
  | ok i =>
    show (i.join (RawPath.ofString settings.witnessFile)).toOption = none
    rw [BoundedPath.join_of_not_component hw]
    rfl

end Witness

namespace Walk

/-! ## Listed nodes -/

/-- The path and the listing of a group, if the path is short enough and the group opens. -/
def listing? (w : Walk) (name : RawPath) : Option (RawPath × List RawPath) :=
  let group := w.settings.devUsbRoot.join name
  if group.length < w.settings.pathCapacity then
    (w.directories.readDir group).toOption.map fun names => (group, names)
  else none

/-- The node below the device-tree root that a path resolves to. -/
def resolvedNode? (w : Walk) (path : RawPath) : Option NodePath :=
  (w.directories.canonicalize path).toOption.bind fun resolved =>
    (Witness.nodeOf resolved w.settings.devicesRoot).toOption.map NodeCut.node

/-- The node that the witness of an instance resolves to, if the path of the witness is short enough. -/
def witnessNode? (w : Walk) (group name : RawPath) : Option NodePath :=
  let witness := (group.join name).join (RawPath.ofString w.settings.witnessFile)
  if witness.length < w.settings.pathCapacity then w.resolvedNode? witness else none

/-- The nodes of a listed group: those of its entries that are not hidden. -/
def listedIn (w : Walk) (g : RawPath × List RawPath) : List NodePath :=
  (g.2.filter fun name => !RawPath.isHidden name).filterMap (w.witnessNode? g.1)

/-- The nodes of all listed groups that the walk goes into. -/
def listed (w : Walk) (names : List RawPath) : List NodePath :=
  ((names.filter w.takes).filterMap w.listing?).flatMap w.listedIn

theorem listed_cons (w : Walk) (name : RawPath) (names : List RawPath) :
    w.listed (name :: names) = w.listed [name] ++ w.listed names := by
  unfold listed
  cases h : w.takes name <;> simp [h, List.filterMap_cons]
  cases w.listing? name <;> simp

theorem node?_eq (w : Walk) (group : BoundedPath) (name : RawPath) :
    w.node? (group, name) =
      ((Witness.pathOf w.settings group name).toOption.map BoundedPath.path).bind w.resolvedNode? := by
  unfold node? candidate resolvedNode?
  cases Witness.pathOf w.settings group name with
  | error e => rfl
  | ok witness =>
    cases hc : w.directories.canonicalize witness.path with
    | error e => simp [Except.toOption, hc]
    | ok resolved =>
      cases hn : Witness.nodeOf resolved w.settings.devicesRoot with
      | error e => simp [Except.toOption, hc, hn]
      | ok cut => simp [Except.toOption, hc, hn]

variable {w : Walk}

theorem node?_of_component (hw : BoundedPath.isComponent (RawPath.ofString w.settings.witnessFile) = true)
    {group : BoundedPath} (hg : group.path ≠ []) (hcap : group.capacity = w.settings.pathCapacity)
    {name : RawPath} (hn : BoundedPath.isComponent name = true) :
    w.node? (group, name) = w.witnessNode? group.path name := by
  rw [node?_eq, Witness.pathOf_toOption hg hn hw, hcap]
  unfold witnessNode?
  dsimp only
  split <;> rfl

theorem nodes_of_group (hd : w.directories.Lawful)
    (hw : BoundedPath.isComponent (RawPath.ofString w.settings.witnessFile) = true) (group : BoundedPath)
    (hg : group.path ≠ []) (hcap : group.capacity = w.settings.pathCapacity) {names : List RawPath}
    (ho : w.directories.readDir group.path = .ok names) :
    (instancesOf (group, names)).filterMap w.node? = w.listedIn (group.path, names) := by
  unfold instancesOf listedIn
  rw [List.filterMap_map]
  refine List.filterMap_congr fun name hname => ?_
  exact node?_of_component hw hg hcap (hd.components _ names ho name (List.mem_filter.1 hname).1)

/-- The nodes behind one entry of the root are the listed ones. -/
theorem nodes_singleton (hd : w.directories.Lawful)
    (hw : BoundedPath.isComponent (RawPath.ofString w.settings.witnessFile) = true)
    (hr : w.settings.devUsbRoot ≠ []) {name : RawPath} (hn : BoundedPath.isComponent name = true) :
    w.nodes [name] = w.listed [name] := by
  unfold nodes instances listed
  rw [openGroups_singleton]
  cases ht : w.takes name with
  | false => simp [ht]
  | true =>
    -- a path that is too long, and a group that does not open, leave no nodes on either side
    by_cases hf : (w.settings.devUsbRoot.join name).length < w.settings.pathCapacity
    · have hg := Witness.groupPath_of_fits hr hn hf
      cases ho : w.directories.readDir (w.settings.devUsbRoot.join name) with
      | error e => simp [ht, openGroup?, listing?, hg, hf, ho, Except.toOption]
      | ok names =>
        have hnodes := nodes_of_group hd hw ⟨_, _, hf⟩ (RawPath.join_ne_nil hr) rfl ho
        simpa [ht, openGroup?, listing?, hg, hf, ho, Except.toOption] using hnodes
    · obtain ⟨e, he⟩ := Witness.groupPath_of_long hr hn hf
      simp [ht, openGroup?, listing?, he, hf, Except.toOption]

theorem nodes_eq_listed (hd : w.directories.Lawful)
    (hw : BoundedPath.isComponent (RawPath.ofString w.settings.witnessFile) = true)
    (hr : w.settings.devUsbRoot ≠ []) : ∀ names : List RawPath,
      (∀ name ∈ names, BoundedPath.isComponent name = true) → w.nodes names = w.listed names
  | [], _ => rfl
  | name :: names, hn => by
    rw [nodes_cons, listed_cons, nodes_singleton hd hw hr (hn name List.mem_cons_self),
      nodes_eq_listed hd hw hr names fun n h => hn n (List.mem_cons_of_mem _ h)]

theorem nodes_of_not_component
    (hw : BoundedPath.isComponent (RawPath.ofString w.settings.witnessFile) = false) (names : List RawPath) :
    w.nodes names = [] := by
  unfold nodes
  refine List.filterMap_eq_nil_iff.2 fun i _ => ?_
  rw [show i = (i.1, i.2) from rfl, node?_eq, Witness.pathOf_of_not_component i.1 hw]
  rfl

/-- The nodes of a walk are the listed ones if the witness file can be one. -/
theorem nodes_eq (hd : w.directories.Lawful) {names : List RawPath}
    (hr : w.directories.readDir w.settings.devUsbRoot = .ok names) :
    w.nodes names =
      if BoundedPath.isComponent (RawPath.ofString w.settings.witnessFile) then w.listed names else [] := by
  cases hw : BoundedPath.isComponent (RawPath.ofString w.settings.witnessFile) with
  | false => exact nodes_of_not_component hw names
  | true =>
    have hne : w.settings.devUsbRoot ≠ [] := by
      intro h
      exact hd.emptyPath names (h ▸ hr)
    exact nodes_eq_listed hd hw hne names (hd.components _ names hr)

/-! ## Opened nodes -/

/-- An identity comes from its node alone. -/
theorem identity?_congr {tree : DeviceTree} {node : NodePath} (h : tree.openNode node = w.tree.openNode node) :
    identity? { w with tree := tree } node = w.identity? node := by
  unfold identity? Resolution.resolve
  rw [h]

/-- Device trees that agree on the nodes of a walk give the same identities. -/
theorem identities_congr (tree : DeviceTree) (names : List RawPath)
    (h : ∀ node ∈ w.nodes names, tree.openNode node = w.tree.openNode node) :
    identities { w with tree := tree } names = w.identities names :=
  List.filterMap_congr fun node hn => identity?_congr (h node hn)

end Walk

/-- A pass depends on the device tree at the nodes of its walk only. -/
theorem discover_congr {settings : DiscoverySettings} {directories : Directories} {tree tree' : DeviceTree}
    {w : Walk} {names : List RawPath} (hw : Walk.ofSettings settings directories tree = .ok w)
    (hr : directories.readDir settings.devUsbRoot = .ok names)
    (h : ∀ node ∈ w.nodes names, tree'.openNode node = tree.openNode node) {σ : Type}
    (tell : σ → RegistryCall → σ) (registry : σ) :
    discover tell settings directories tree' registry = discover tell settings directories tree registry := by
  have hw' : Walk.ofSettings settings directories tree' = .ok { w with tree := tree' } := by
    unfold Walk.ofSettings at hw ⊢
    split at hw
    · cases hw
    · cases hw
      rfl
  have htree : w.tree = tree := by
    obtain ⟨pattern, -, rfl⟩ := Walk.ofSettings_ok hw
    rfl
  have hids := Walk.identities_congr (w := w) tree' names (by rwa [htree])
  have hvisits : Walk.visits { w with tree := tree' } names = w.visits names := by
    unfold Walk.visits
    rw [hids]
    rfl
  obtain ⟨s, hs, hd⟩ := discover_of_ok hw hr
  obtain ⟨s', hs', hd'⟩ := discover_of_ok hw' hr
  -- both passes meet the same, so they count the same
  rw [hvisits] at hs'
  rw [hd, hd', hids, hs'.unique hs]

/-! ## Registered identities -/

/-- A pass that comes to its end registers the identities of the listed nodes, each once and in the order of the
listings, and nothing else; a witness file that is no component lists no nodes. These are also the nodes that the
walk emits, and no other node of the device tree has a say in the pass. -/
theorem pass_registers_listed {σ : Type} {tell : σ → RegistryCall → σ} {settings : DiscoverySettings}
    {directories : Directories} {tree : DeviceTree} {registry registry' : σ} {s : PassSummary}
    (hd : directories.Lawful) (h : discover tell settings directories tree registry = (registry', .ok s)) :
    ∃ w names nodes, Walk.ofSettings settings directories tree = .ok w ∧
      directories.readDir settings.devUsbRoot = .ok names ∧
      nodes = (if BoundedPath.isComponent (RawPath.ofString settings.witnessFile) then w.listed names else []) ∧
      registry' = (RegistryCall.ofPass (nodes.filterMap w.identity?) s).foldl tell registry ∧
      w.emitted = nodes ∧
      ∀ tree' : DeviceTree, (∀ node ∈ nodes, tree'.openNode node = tree.openNode node) →
        discover tell settings directories tree' registry = (registry', .ok s) := by
  obtain ⟨w, names, hw, hr, -, hreg⟩ := discover_ok h
  obtain ⟨rfl, rfl⟩ : w.settings = settings ∧ w.directories = directories := by
    obtain ⟨pattern, -, rfl⟩ := Walk.ofSettings_ok hw
    exact ⟨rfl, rfl⟩
  refine ⟨w, names, w.nodes names, hw, hr, Walk.nodes_eq hd hr, hreg, Walk.emitted_eq hr, fun tree' ht => ?_⟩
  rw [discover_congr hw hr ht, h]

theorem sample_registers_listed : sampleFiles.directories.Lawful ∧
    ∃ w names nodes, Walk.ofSettings {} sampleFiles.directories sampleTree = .ok w ∧
      nodes = w.listed names ∧ nodes.length = 1 ∧ w.emitted = nodes ∧
      (discover RegistryCall.record {} sampleFiles.directories sampleTree []).1 =
        RegistryCall.ofPass (nodes.filterMap w.identity?) sampleSummary := by
  have hd : sampleFiles.directories.Lawful := FileSystem.Named.lawful (by decide +kernel)
  obtain ⟨w, names, nodes, hw, hr, hn, hreg, he, -⟩ := pass_registers_listed hd (Prod.ext rfl discover_sample)
  have hc : BoundedPath.isComponent (RawPath.ofString "devstat") = true := by decide +kernel
  rw [if_pos hc] at hn
  refine ⟨hd, w, names, nodes, hw, hn, ?_, he, ?_⟩
  · have hl : ((Walk.ofSettings {} sampleFiles.directories sampleTree).toOption.map fun w => w.emitted.length) =
        some 1 := by
      decide +kernel
    rw [hw] at hl
    rw [← he]
    exact Option.some.inj hl
  · exact hreg.trans (Walk.foldl_concat _ [])

/-- A namespace with one instance, whose witness is not in the instance but in a directory of it. -/
def nestedFiles : FileSystem :=
  let witness : Entry := .link (RawPath.ofString "/devices/device@2:x")
  let inner : Entry := .directory [(RawPath.ofString "devstat", witness)]
  let group : Entry := .directory [(RawPath.ofString "0", .directory [(RawPath.ofString "sub", inner)])]
  ⟨.directory
    [(RawPath.ofString "dev", .directory [(RawPath.ofString "usb", .directory [(RawPath.ofString "a12.1", group)])]),
      (RawPath.ofString "devices", .directory [(RawPath.ofString "device@2:x", .file [])])], []⟩

def nestedSettings : DiscoverySettings := { witnessFile := "sub/devstat" }

/-- A witness file with a slash in its name is not looked for, even where its path is short and resolves. -/
theorem nested_witness_not_registered :
    ¬ ∀ (settings : DiscoverySettings) (directories : Directories) (tree : DeviceTree)
        (calls : List RegistryCall) (s : PassSummary) (w : Walk) (names : List RawPath), directories.Lawful →
      discover RegistryCall.record settings directories tree [] = (calls, .ok s) →
      Walk.ofSettings settings directories tree = .ok w → directories.readDir settings.devUsbRoot = .ok names →
      calls = RegistryCall.ofPass ((w.listed names).filterMap w.identity?) s := by
  intro h
  have hd : nestedFiles.directories.Lawful := FileSystem.Named.lawful (by decide +kernel)
  have hcalls : (discover RegistryCall.record nestedSettings nestedFiles.directories sampleTree []).1.length = 1 := by
    decide +kernel
  have hs : (discover RegistryCall.record nestedSettings nestedFiles.directories sampleTree []).2.toOption =
      some { groups := 1, instances := 1, instancesSkipped := 1 } := by
    decide +kernel
  have hlisted : ((Walk.ofSettings nestedSettings nestedFiles.directories sampleTree).toOption.bind fun w =>
      (nestedFiles.directories.readDir nestedSettings.devUsbRoot).toOption.map fun names =>
        ((w.listed names).filterMap w.identity?).length) = some 1 := by
    decide +kernel
  obtain ⟨calls, hpass⟩ : ∃ calls, discover RegistryCall.record nestedSettings nestedFiles.directories sampleTree [] =
      (calls, .ok { groups := 1, instances := 1, instancesSkipped := 1 }) :=
    ⟨_, Prod.ext rfl (ok_of_toOption hs)⟩
  obtain ⟨w, names, hw, hr, -⟩ := discover_ok hpass
  rw [hw, hr] at hlisted
  have hone : ((w.listed names).filterMap w.identity?).length = 1 := Option.some.inj hlisted
  -- the pass makes one call, and a pass that registers the listed device makes two
  rw [hpass, h _ _ _ _ _ w names hd hpass hw hr, RegistryCall.ofPass, List.length_append, List.length_map,
    hone] at hcalls
  contradiction

end UsbInventory
