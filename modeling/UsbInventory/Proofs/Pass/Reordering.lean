/-
The order in which directories are listed. Two passes over one file system whose listings come in different orders
fail alike or come to their ends with equal counters, and they register the same identities in different orders: the
identities of one group come one after the other in both, since a walk is done with a group before it goes into the
next.

What a walk comes across is a list made entry by entry, so a permutation of a listing permutes it, and its length
does not change; the counters are made of such lengths.
-/
import Mathlib.Data.List.Perm.Basic
import UsbInventory.Proofs.Pass.Protocol

namespace UsbInventory

/-- Two views of one file system that resolve paths alike and list the same names, in whatever order. -/
structure Directories.Reordered (d d' : Directories) : Prop where
  canonicalize : d'.canonicalize = d.canonicalize
  unreadable : ∀ path e, d.readDir path = .error e → d'.readDir path = .error e
  listed : ∀ path names, d.readDir path = .ok names → ∃ names', d'.readDir path = .ok names' ∧ names.Perm names'

/-- The directories that list backwards. -/
def Directories.backwards (d : Directories) : Directories :=
  { d with entries := fun path => (d.entries path).map List.reverse }

theorem Directories.reordered_backwards (d : Directories) : d.Reordered d.backwards := by
  have hback (path : RawPath) : d.backwards.readDir path = (d.readDir path).map List.reverse := by
    show ((d.entries path).map List.reverse).map readable = ((d.entries path).map readable).map List.reverse
    cases d.entries path with
    | error e => rfl
    | ok entries => exact congrArg Except.ok List.filterMap_reverse
  refine ⟨rfl, fun path e he => ?_, fun path names hn => ⟨names.reverse, ?_, (List.reverse_perm names).symm⟩⟩
  · rw [hback, he]
    rfl
  · rw [hback, hn]
    rfl

namespace Walk

/-- The same walk among other directories. -/
def among (w : Walk) (d : Directories) : Walk := { w with directories := d }

/-- The identities of one group: those of the nodes behind one entry of the root. -/
def groupIdentities (w : Walk) (name : RawPath) : List DeviceIdentity := w.identities [name]

theorem identities_eq_flatMap (w : Walk) : ∀ names : List RawPath,
    w.identities names = names.flatMap w.groupIdentities
  | [] => rfl
  | name :: names => by
    rw [List.flatMap_cons, ← identities_eq_flatMap w names]
    unfold groupIdentities identities
    rw [nodes_cons, List.filterMap_append]

theorem instances_eq_flatMap (w : Walk) : ∀ names : List RawPath,
    w.instances names = names.flatMap fun name => w.instances [name]
  | [] => rfl
  | name :: names => by rw [List.flatMap_cons, ← instances_eq_flatMap w names, instances_cons]

/-! ## One group -/

section Reordered

variable {w : Walk} {d : Directories}

/-- A group opens in both orders or in neither, and lists the same entries. -/
theorem openGroup?_among (h : w.directories.Reordered d) (name : RawPath) :
    (w.openGroup? name = none ∧ (w.among d).openGroup? name = none) ∨
    ∃ group names names', w.openGroup? name = some (group, names) ∧
      (w.among d).openGroup? name = some (group, names') ∧ names.Perm names' := by
  unfold openGroup? among
  dsimp only
  cases Witness.groupPath w.settings name with
  | error e => exact .inl ⟨rfl, rfl⟩
  | ok group =>
    cases hr : w.directories.readDir group.path with
    | error e =>
      have hr' := h.unreadable _ _ hr
      exact .inl ⟨by simp [Except.toOption, hr], by simp [Except.toOption, hr']⟩
    | ok names =>
      obtain ⟨names', hr', hperm⟩ := h.listed _ _ hr
      exact .inr ⟨group, names, names', by simp [Except.toOption, hr], by simp [Except.toOption, hr'], hperm⟩

theorem isSome_openGroup?_among (h : w.directories.Reordered d) (name : RawPath) :
    ((w.among d).openGroup? name).isSome = (w.openGroup? name).isSome := by
  rcases openGroup?_among h name with ⟨ho, ho'⟩ | ⟨group, names, names', ho, ho', -⟩
  · rw [ho, ho']
  · rw [ho, ho']
    rfl

theorem instancesOf_perm {names names' : List RawPath} (h : names.Perm names') (group : BoundedPath) :
    (instancesOf (group, names)).Perm (instancesOf (group, names')) :=
  (h.filter _).map _

theorem instances_singleton_among (h : w.directories.Reordered d) (name : RawPath) :
    (w.instances [name]).Perm ((w.among d).instances [name]) := by
  have ht : (w.among d).takes name = w.takes name := rfl
  unfold instances
  rw [openGroups_singleton, openGroups_singleton, ht]
  split
  · rcases openGroup?_among h name with ⟨ho, ho'⟩ | ⟨group, names, names', ho, ho', hperm⟩
    · rw [ho, ho']
    · rw [ho, ho', Option.toList_some, Option.toList_some, List.flatMap_singleton, List.flatMap_singleton]
      exact instancesOf_perm hperm group
  · exact .refl _

/-- Witnesses are resolved alike, so an instance leads to the same node. -/
theorem node?_among (h : w.directories.Reordered d) : (w.among d).node? = w.node? := by
  funext i
  unfold node? candidate among
  dsimp only
  rw [h.canonicalize]

theorem identity?_among : (w.among d).identity? = w.identity? := rfl

theorem groupIdentities_among (h : w.directories.Reordered d) (name : RawPath) :
    (w.groupIdentities name).Perm ((w.among d).groupIdentities name) := by
  unfold groupIdentities identities nodes
  rw [node?_among h, identity?_among]
  exact ((instances_singleton_among h name).filterMap _).filterMap _

/-! ## All groups -/

variable {names names' : List RawPath}

theorem instances_among (h : w.directories.Reordered d) (hp : names.Perm names') :
    (w.instances names).Perm ((w.among d).instances names') := by
  rw [instances_eq_flatMap w names, instances_eq_flatMap (w.among d) names']
  exact (hp.flatMap_right _).trans (List.Perm.flatMap_left _ fun name _ => instances_singleton_among h name)

theorem nodes_among (h : w.directories.Reordered d) (hp : names.Perm names') :
    (w.nodes names).Perm ((w.among d).nodes names') := by
  unfold nodes
  rw [node?_among h]
  exact (instances_among h hp).filterMap _

theorem identities_among (h : w.directories.Reordered d) (hp : names.Perm names') :
    (w.identities names).Perm ((w.among d).identities names') :=
  (nodes_among h hp).filterMap _

theorem length_openGroups_among (h : w.directories.Reordered d) (hp : names.Perm names') :
    ((w.among d).openGroups names').length = (w.openGroups names).length := by
  have hopens : (fun name => ((w.among d).openGroup? name).isSome) = fun name => (w.openGroup? name).isSome :=
    funext (isSome_openGroup?_among h)
  have htakes : (w.among d).takes = w.takes := rfl
  unfold openGroups
  rw [List.length_filterMap_eq_countP, List.length_filterMap_eq_countP, htakes, hopens]
  exact ((hp.filter _).countP_eq _).symm

/-- Both walks meet equally much. -/
theorem visits_among (h : w.directories.Reordered d) (hp : names.Perm names') :
    (w.among d).visits names' = w.visits names := by
  have hgroups : (names'.filter (w.among d).takes).length = (names.filter w.takes).length :=
    ((hp.filter _).length_eq).symm
  unfold visits
  rw [hgroups, length_openGroups_among h hp, (instances_among h hp).length_eq, (nodes_among h hp).length_eq,
    (identities_among h hp).length_eq]

end Reordered

theorem ofSettings_among (settings : DiscoverySettings) (d d' : Directories) (tree : DeviceTree) :
    ofSettings settings d' tree = (ofSettings settings d tree).map (·.among d') := by
  unfold ofSettings
  cases Pattern.parse settings.groupPattern <;> rfl

end Walk

/-! ## Whole passes -/

/-- The order of the listings only decides the order of the registrations. Over two views of one file system that
differ in it, both passes fail with the same error and leave their registries alone, or both come to their ends with
the same counters. Then each registers its groups in the order in which its root lists them, one group after the
other, and the identities of a group are the same in both, up to their order; so all identities together are. -/
theorem pass_reordered_by_listings {d d' : Directories} (h : d.Reordered d') (settings : DiscoverySettings)
    (tree : DeviceTree) :
    (∃ e, ∀ {σ : Type} (tell : σ → RegistryCall → σ) (registry : σ),
      discover tell settings d tree registry = (registry, .error e) ∧
      discover tell settings d' tree registry = (registry, .error e)) ∨
    ∃ (w : Walk) (names names' : List RawPath) (s : PassSummary), Walk.ofSettings settings d tree = .ok w ∧
      d.readDir settings.devUsbRoot = .ok names ∧ d'.readDir settings.devUsbRoot = .ok names' ∧
      names.Perm names' ∧
      (∀ name, (w.groupIdentities name).Perm ((w.among d').groupIdentities name)) ∧
      (names.flatMap w.groupIdentities).Perm (names'.flatMap (w.among d').groupIdentities) ∧
      ∀ {σ : Type} (tell : σ → RegistryCall → σ) (registry : σ),
        discover tell settings d tree registry =
          ((RegistryCall.ofPass (names.flatMap w.groupIdentities) s).foldl tell registry, .ok s) ∧
        discover tell settings d' tree registry =
          ((RegistryCall.ofPass (names'.flatMap (w.among d').groupIdentities) s).foldl tell registry, .ok s) := by
  have hamong := Walk.ofSettings_among settings d d' tree
  cases hw : Walk.ofSettings settings d tree with
  | error e =>
    rw [hw] at hamong
    exact .inl ⟨e, fun tell registry => ⟨discover_of_badPattern settings d tree hw tell registry,
      discover_of_badPattern settings d' tree hamong tell registry⟩⟩
  | ok w =>
    rw [hw] at hamong
    obtain rfl : w.directories = d := by
      obtain ⟨pattern, -, rfl⟩ := Walk.ofSettings_ok hw
      rfl
    cases hr : w.directories.readDir settings.devUsbRoot with
    | error e =>
      exact .inl ⟨_, fun tell registry => ⟨discover_of_unreadable hw hr tell registry,
        discover_of_unreadable hamong (h.unreadable _ _ hr) tell registry⟩⟩
    | ok names =>
      obtain ⟨names', hr', hperm⟩ := h.listed _ _ hr
      obtain ⟨s, hs, hpass⟩ := discover_of_ok hw hr
      obtain ⟨s', hs', hpass'⟩ := discover_of_ok hamong hr'
      -- both passes meet equally much, so they count the same
      obtain rfl : s' = s := by
        rw [Walk.visits_among h hperm] at hs'
        exact hs'.unique hs
      refine .inr ⟨w, names, names', s', rfl, rfl, hr', hperm, Walk.groupIdentities_among h, ?_,
        fun tell registry => ?_⟩
      · rw [← Walk.identities_eq_flatMap, ← Walk.identities_eq_flatMap]
        exact Walk.identities_among h hperm
      · rw [← Walk.identities_eq_flatMap, ← Walk.identities_eq_flatMap]
        exact ⟨hpass tell registry, hpass' tell registry⟩

/-- A namespace with two devices in one group and one in another. -/
def crowdedFiles : FileSystem :=
  let instanceOf (minor : String) : Entry :=
    .directory [(RawPath.ofString "devstat", .link (RawPath.ofString ("/devices/" ++ minor)))]
  let usb : Entry := .directory
    [(RawPath.ofString "a12.1", .directory
        [(RawPath.ofString "0", instanceOf "device@2:x"), (RawPath.ofString "1", instanceOf "device@3:x")]),
      (RawPath.ofString "a12.2", .directory [(RawPath.ofString "0", instanceOf "device@4:x")])]
  ⟨.directory [(RawPath.ofString "dev", .directory [(RawPath.ofString "usb", usb)]),
    (RawPath.ofString "devices", .directory
      (["device@2:x", "device@3:x", "device@4:x"].map fun minor => (RawPath.ofString minor, .file [])))], []⟩

/-- Listed backwards, the three devices are registered in another order. -/
theorem crowded_reordered : crowdedFiles.directories.Reordered crowdedFiles.directories.backwards ∧
    ∃ found found' s, found.Perm found' ∧ found ≠ found' ∧ found.length = 3 ∧
      discover RegistryCall.record {} crowdedFiles.directories sampleTree [] = (RegistryCall.ofPass found s, .ok s) ∧
      discover RegistryCall.record {} crowdedFiles.directories.backwards sampleTree [] =
        (RegistryCall.ofPass found' s, .ok s) := by
  have h := crowdedFiles.directories.reordered_backwards
  have hended : (discover RegistryCall.record {} crowdedFiles.directories sampleTree []).2.toOption =
      some { groups := 2, instances := 3, devices := 3 } := by
    decide +kernel
  have hdiffer : (discover RegistryCall.record {} crowdedFiles.directories sampleTree []).1 ≠
      (discover RegistryCall.record {} crowdedFiles.directories.backwards sampleTree []).1 := by
    decide +kernel
  have hcount : (discover RegistryCall.record {} crowdedFiles.directories sampleTree []).1.length = 4 := by
    decide +kernel
  rcases pass_reordered_by_listings h {} sampleTree with ⟨e, hfail⟩ | ⟨w, names, names', s, -, -, -, -, -, hperm, hpass⟩
  · rw [(hfail RegistryCall.record []).1] at hended
    cases hended
  · obtain ⟨hp, hp'⟩ := hpass RegistryCall.record []
    rw [RegistryCall.foldl_record] at hp hp'
    refine ⟨h, _, _, s, hperm, fun he => hdiffer ?_, ?_, hp, hp'⟩
    · rw [hp, hp', he]
    · rw [hp, RegistryCall.length_ofPass] at hcount
      exact Nat.succ.inj hcount

end UsbInventory
