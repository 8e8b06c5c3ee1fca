/-
What the lenient policy adds. Passes that differ only in the policy for nodes without a single number of
configurations see the same groups, instances and nodes. The strict one registers some of the identities of the
lenient one, in the same order, and each of the others has one configuration, assumed for a node that does not say
how many it has. A node that does say has the same outcome under both policies, so a number that is out of range is
not replaced.

The policy is asked at one place of a resolution; the lemmas about a node say what follows there, and the lists of
both passes are filtered from one list of nodes.
-/
import UsbInventory.Proofs.Pass.Inspection
import UsbInventory.Proofs.Pass.Reordering

namespace UsbInventory

/-! ## One node -/

/-- The node at a path opens, and says its number of configurations as one value. -/
def DeviceTree.SaysConfigs (tree : DeviceTree) (path : NodePath) (v : Int) : Prop :=
  ∃ node, tree.openNode path = .ok node ∧ node.lookup Property.numConfigs = .values [v]

namespace Resolution

variable {node : DeviceNode} {path : NodePath} {v : Int} {e : IdentityError} {d : DeviceIdentity}

/-- The policy has no say where there is a single number. -/
theorem inspect_of_single (h : node.lookup Property.numConfigs = .values [v]) (policy policy' : NumConfigsPolicy) :
    inspect policy node path = inspect policy' node path := by
  have hv : (Reading.take node Property.numConfigs).outcome.value? = some v := DeviceNode.value?_property.2 h
  unfold inspect
  simp only [hv]

/-- What the strict policy accepts, the lenient one accepts as well. -/
theorem inspect_defaultOne_of_required (h : (inspect .required node path).2 = .ok d) :
    (inspect .defaultOne node path).2 = .ok d := by
  unfold inspect at h ⊢
  dsimp only at h ⊢
  cases hb : (Reading.take node Property.busNumber).outcome.value? with
  | none =>
    rw [hb] at h
    cases h
  | some bus =>
    rw [hb] at h
    cases hc : (Reading.take node Property.numConfigs).outcome.value? with
    | none =>
      rw [hc] at h
      cases h
    | some n =>
      rw [hc] at h
      exact h

/-- What only the lenient policy accepts does not say its number of configurations, and gets one. -/
theorem inspect_added (hr : (inspect .required node path).2 = .error e)
    (hd : (inspect .defaultOne node path).2 = .ok d) :
    d.numConfigs = 1 ∧ d.nodePath = path ∧ ∀ v, node.lookup Property.numConfigs ≠ .values [v] := by
  have hsilent : ∀ v, node.lookup Property.numConfigs ≠ .values [v] := by
    intro v hv
    rw [inspect_of_single hv .required .defaultOne, hd] at hr
    cases hr
  have hnone : (Reading.take node Property.numConfigs).outcome.value? = none := by
    rw [Option.eq_none_iff_forall_ne_some]
    exact fun v hv => hsilent v (DeviceNode.value?_property.1 hv)
  unfold inspect at hd
  dsimp only at hd
  cases hb : (Reading.take node Property.busNumber).outcome.value? with
  | none =>
    rw [hb] at hd
    cases hd
  | some bus =>
    rw [hb, hnone] at hd
    obtain ⟨address, -, -, -, hone, -, -, -, hpath⟩ := identity_ok hd
    refine ⟨?_, hpath, hsilent⟩
    rw [← UInt8.toNat_inj]
    show d.numConfigs.toNat = 1
    omega

variable {tree : DeviceTree}

theorem resolve_of_open {policy : NumConfigsPolicy} (h : tree.openNode path = .ok node) :
    (resolve tree policy path).result = (inspect policy node path).2 := by
  unfold resolve
  rw [h]

theorem resolve_of_closed {policy : NumConfigsPolicy} {cause : FileError} (h : tree.openNode path = .error cause) :
    (resolve tree policy path).result = .error (.nodeUnavailable path.text cause) := by
  unfold resolve
  rw [h]

/-- A node that says its number of configurations has one outcome under both policies. -/
theorem resolve_of_saysConfigs (h : tree.SaysConfigs path v) (policy policy' : NumConfigsPolicy) :
    (resolve tree policy path).result = (resolve tree policy' path).result := by
  obtain ⟨node, ho, hv⟩ := h
  rw [resolve_of_open ho, resolve_of_open ho, inspect_of_single hv policy policy']

/-- A number of configurations that is out of range makes no identity, under either policy. -/
theorem resolve_of_unfit (h : tree.SaysConfigs path v) (hv : ¬ (1 ≤ v ∧ v ≤ 255)) (policy : NumConfigsPolicy) :
    (resolve tree policy path).result.toOption = none := by
  obtain ⟨node, ho, hl⟩ := h
  have hn : (Reading.take node Property.numConfigs).outcome.value? = some v := DeviceNode.value?_property.2 hl
  rw [resolve_of_open ho]
  cases hd : (inspect policy node path).2 with
  | error e => rfl
  | ok d =>
    unfold inspect at hd
    simp only [hn] at hd
    cases hb : (Reading.take node Property.busNumber).outcome.value? with
    | none =>
      rw [hb] at hd
      cases hd
    | some bus =>
      rw [hb] at hd
      obtain ⟨address, -, -, -, -, hlow, hhigh, -⟩ := identity_ok hd
      exact absurd ⟨hlow, hhigh⟩ hv

theorem resolve_defaultOne_of_required (h : (resolve tree .required path).result.toOption = some d) :
    (resolve tree .defaultOne path).result.toOption = some d := by
  cases ho : tree.openNode path with
  | error cause =>
    rw [resolve_of_closed ho] at h
    cases h
  | ok node =>
    rw [resolve_of_open ho] at h ⊢
    cases hr : (inspect .required node path).2 with
    | error e =>
      rw [hr] at h
      cases h
    | ok d' =>
      rw [hr] at h
      rw [inspect_defaultOne_of_required hr]
      exact h

/-- An identity that only the lenient policy gives has one configuration, and its node does not say how many. -/
theorem resolve_added (hr : (resolve tree .required path).result.toOption = none)
    (hd : (resolve tree .defaultOne path).result.toOption = some d) :
    d.numConfigs = 1 ∧ ∃ node, tree.openNode d.nodePath = .ok node ∧
      ∀ v, node.lookup Property.numConfigs ≠ .values [v] := by
  cases ho : tree.openNode path with
  | error cause =>
    rw [resolve_of_closed ho] at hd
    cases hd
  | ok node =>
    rw [resolve_of_open ho] at hr hd
    cases hs : (inspect .required node path).2 with
    | ok d' =>
      rw [hs] at hr
      cases hr
    | error e =>
      cases hl : (inspect .defaultOne node path).2 with
      | error e' =>
        rw [hl] at hd
        cases hd
      | ok d' =>
        rw [hl] at hd
        cases hd
        obtain ⟨hone, hpath, hsilent⟩ := inspect_added hs hl
        exact ⟨hone, node, by rw [hpath, ho], hsilent⟩

end Resolution

/-! ## Lists of nodes -/

section Lists

variable {α β : Type} {f g : α → Option β}

/-- What a partial function gives, one that gives more keeps in its order. -/
theorem filterMap_sublist_of_le (h : ∀ a b, f a = some b → g a = some b) : ∀ xs : List α,
    (xs.filterMap f).Sublist (xs.filterMap g)
  | [] => .slnil
  | a :: xs => by
    have ih := filterMap_sublist_of_le h xs
    rw [List.filterMap_cons, List.filterMap_cons]
    cases hf : f a with
    | some b =>
      rw [h a b hf]
      exact ih.cons_cons b
    | none =>
      cases g a with
      | none => exact ih
      | some b => exact ih.cons b

/-- What the greater function adds are its values where the other one has none. -/
theorem filterMap_perm_of_le (h : ∀ a b, f a = some b → g a = some b) : ∀ xs : List α,
    (xs.filterMap g).Perm (xs.filterMap f ++ (xs.filter fun a => (f a).isNone).filterMap g)
  | [] => .refl _
  | a :: xs => by
    have ih := filterMap_perm_of_le h xs
    cases hf : f a with
    | some b =>
      rw [List.filterMap_cons_some hf, List.filterMap_cons_some (h a b hf), List.filter_cons_of_neg (by simp [hf])]
      exact ih.cons b
    | none =>
      rw [List.filterMap_cons_none hf, List.filter_cons_of_pos (by simp [hf])]
      cases hg : g a with
      | none =>
        rw [List.filterMap_cons_none hg, List.filterMap_cons_none hg]
        exact ih
      | some b =>
        rw [List.filterMap_cons_some hg, List.filterMap_cons_some hg]
        exact (ih.cons b).trans List.perm_middle.symm

end Lists

/-! ## Two passes -/

/-- Settings with another policy. -/
def DiscoverySettings.under (settings : DiscoverySettings) (policy : NumConfigsPolicy) : DiscoverySettings :=
  { settings with numConfigsPolicy := policy }

/-- A lenient pass registers what a strict one does and more: one configuration each for nodes that do not say how
many they have. -/
structure OnlyAdds (tree : DeviceTree) (strict lenient added : List DeviceIdentity) : Prop where
  kept : strict.Sublist lenient
  whole : lenient.Perm (strict ++ added)
  assumed : ∀ d ∈ added, d.numConfigs = 1
  silent : ∀ d ∈ added, ∃ node, tree.openNode d.nodePath = .ok node ∧
    ∀ v, node.lookup Property.numConfigs ≠ .values [v]

/-- Counters that agree on all that comes before a node is resolved. -/
structure SameCandidates (s s' : PassSummary) : Prop where
  groups : s.groups = s'.groups
  groupsSkipped : s.groupsSkipped = s'.groupsSkipped
  instances : s.instances = s'.instances
  instancesSkipped : s.instancesSkipped = s'.instancesSkipped
  candidates : s.candidates = s'.candidates

/-- The identities that a policy gives some nodes. -/
def identitiesUnder (tree : DeviceTree) (policy : NumConfigsPolicy) (nodes : List NodePath) : List DeviceIdentity :=
  nodes.filterMap fun node => (Resolution.resolve tree policy node).result.toOption

theorem onlyAdds_identitiesUnder (tree : DeviceTree) (nodes : List NodePath) :
    ∃ added, OnlyAdds tree (identitiesUnder tree .required nodes) (identitiesUnder tree .defaultOne nodes) added := by
  have hle : ∀ node d, (Resolution.resolve tree .required node).result.toOption = some d →
      (Resolution.resolve tree .defaultOne node).result.toOption = some d := fun _ _ =>
    Resolution.resolve_defaultOne_of_required
  have hadded : ∀ d ∈ identitiesUnder tree .defaultOne
      (nodes.filter fun node => (Resolution.resolve tree .required node).result.toOption.isNone),
      d.numConfigs = 1 ∧
        ∃ node, tree.openNode d.nodePath = .ok node ∧ ∀ v, node.lookup Property.numConfigs ≠ .values [v] := by
    intro d hd
    obtain ⟨node, hn, hd⟩ := List.mem_filterMap.1 hd
    exact Resolution.resolve_added (Option.isNone_iff_eq_none.1 (List.mem_filter.1 hn).2) hd
  exact ⟨_, filterMap_sublist_of_le hle nodes, filterMap_perm_of_le hle nodes, fun d hd => (hadded d hd).1,
    fun d hd => (hadded d hd).2⟩

namespace Walk

/-- The same walk under another policy. -/
def under (w : Walk) (policy : NumConfigsPolicy) : Walk := { w with settings := w.settings.under policy }

variable {w : Walk} {names : List RawPath}

/-- The policy has no say in which nodes a walk comes to. -/
theorem nodes_under (policy : NumConfigsPolicy) : (w.under policy).nodes names = w.nodes names := rfl

theorem identities_under (policy : NumConfigsPolicy) :
    (w.under policy).identities names = identitiesUnder w.tree policy (w.nodes names) := rfl

theorem ofSettings_under {settings : DiscoverySettings} {directories : Directories} {tree : DeviceTree}
    (policy : NumConfigsPolicy) : ofSettings (settings.under policy) directories tree =
      (ofSettings settings directories tree).map (·.under policy) := by
  unfold ofSettings DiscoverySettings.under
  dsimp only
  cases Pattern.parse settings.groupPattern <;> rfl

theorem emitted_under (policy : NumConfigsPolicy) (hr : w.directories.readDir w.settings.devUsbRoot = .ok names) :
    (w.under policy).emitted = w.nodes names :=
  (emitted_eq hr).trans (nodes_under policy)

end Walk

/-- Every candidate is a device or discarded, so the candidates are the nodes. -/
theorem Grows.candidates {v : Visits} {s : PassSummary} (h : Grows {} v s) : s.candidates = .ofNat v.nodes := by
  have hd : s.discarded + .ofNat v.identities = 0 + .ofNat v.nodes := h.discarded
  have hi : s.devices = 0 + .ofNat v.identities := h.devices
  unfold PassSummary.candidates
  grind

/-- Passes that meet the same up to their nodes count the same up to there. -/
theorem Grows.sameCandidates {v v' : Visits} {s s' : PassSummary} (h : Grows {} v s) (h' : Grows {} v' s')
    (groups : v.groups = v'.groups) (opened : v.opened = v'.opened) (instances : v.instances = v'.instances)
    (nodes : v.nodes = v'.nodes) : SameCandidates s s' where
  groups := by rw [h.groups, h'.groups, groups]
  groupsSkipped := by
    have hs := h.groupsSkipped
    have hs' := h'.groupsSkipped
    rw [← groups, ← opened, ← hs] at hs'
    exact ((UInt32.add_left_inj _).1 hs').symm
  instances := by rw [h.instances, h'.instances, instances]
  instancesSkipped := by
    have hs := h.instancesSkipped
    have hs' := h'.instancesSkipped
    rw [← instances, ← nodes, ← hs] at hs'
    exact ((UInt32.add_left_inj _).1 hs').symm
  candidates := by rw [h.candidates, h'.candidates, nodes]

/-- The lenient policy only adds devices. A node that says its number of configurations has the same outcome under
both policies, and makes no identity if that number is out of range. Passes that differ only in the policy fail alike,
or both come to their ends: they emit the same nodes and count them alike, and the lenient one registers what the
strict one does, in that order, and besides only devices with one configuration, whose nodes do not say how many they
have. -/
theorem lenient_pass_only_adds (settings : DiscoverySettings) (directories : Directories) (tree : DeviceTree) :
    (∀ path v, tree.SaysConfigs path v →
      (Resolution.resolve tree .required path).result = (Resolution.resolve tree .defaultOne path).result ∧
      (¬ (1 ≤ v ∧ v ≤ 255) → ∀ policy, (Resolution.resolve tree policy path).result.toOption = none)) ∧
    ((∃ e, ∀ {σ : Type} (tell : σ → RegistryCall → σ) (registry : σ) (policy : NumConfigsPolicy),
        discover tell (settings.under policy) directories tree registry = (registry, .error e)) ∨
      ∃ (w : Walk) (nodes : List NodePath) (added : List DeviceIdentity) (s s' : PassSummary),
        Walk.ofSettings settings directories tree = .ok w ∧
        (∀ policy, (w.under policy).emitted = nodes) ∧ SameCandidates s s' ∧
        OnlyAdds tree (identitiesUnder tree .required nodes) (identitiesUnder tree .defaultOne nodes) added ∧
        ∀ {σ : Type} (tell : σ → RegistryCall → σ) (registry : σ),
          discover tell (settings.under .required) directories tree registry =
            ((RegistryCall.ofPass (identitiesUnder tree .required nodes) s).foldl tell registry, .ok s) ∧
          discover tell (settings.under .defaultOne) directories tree registry =
            ((RegistryCall.ofPass (identitiesUnder tree .defaultOne nodes) s').foldl tell registry, .ok s')) := by
  refine ⟨fun path v h => ⟨Resolution.resolve_of_saysConfigs h _ _, Resolution.resolve_of_unfit h⟩, ?_⟩
  have hunder : ∀ policy, Walk.ofSettings (settings.under policy) directories tree =
      (Walk.ofSettings settings directories tree).map (·.under policy) := fun policy => Walk.ofSettings_under policy
  cases hw : Walk.ofSettings settings directories tree with
  | error e =>
    rw [hw] at hunder
    exact .inl ⟨e, fun tell registry policy => discover_of_badPattern _ directories tree (hunder policy) tell registry⟩
  | ok w =>
    rw [hw] at hunder
    obtain ⟨rfl, rfl, rfl⟩ : w.settings = settings ∧ w.directories = directories ∧ w.tree = tree := by
      obtain ⟨pattern, -, rfl⟩ := Walk.ofSettings_ok hw
      exact ⟨rfl, rfl, rfl⟩
    cases hr : w.directories.readDir w.settings.devUsbRoot with
    | error e =>
      exact .inl ⟨.rootUnreadable w.settings.devUsbRoot e, fun tell registry policy =>
        discover_of_unreadable (hunder policy) hr tell registry⟩
    | ok names =>
      obtain ⟨s, hs, hpass⟩ := discover_of_ok (hunder .required) hr
      obtain ⟨s', hs', hpass'⟩ := discover_of_ok (hunder .defaultOne) hr
      obtain ⟨added, hadds⟩ := onlyAdds_identitiesUnder w.tree (w.nodes names)
      refine .inr ⟨w, w.nodes names, added, s, s', rfl, fun policy => Walk.emitted_under policy hr,
        hs.sameCandidates hs' rfl rfl rfl rfl, hadds, fun tell registry => ?_⟩
      rw [← Walk.identities_under, ← Walk.identities_under]
      exact ⟨hpass tell registry, hpass' tell registry⟩

/-- A device tree in which one node has one configuration, one does not say how many it has, and all others have
more than a device can have. -/
def unevenTree : DeviceTree :=
  ⟨fun path => .ok ⟨fun name =>
    if name = Property.busNumber then .values [1]
    else if name = Property.numConfigs then
      .values (if path.text = "/device@2" then [1] else if path.text = "/device@3" then [] else [300])
    else .absent (.system SystemError.noEntry)⟩⟩

/-- Of three nodes the strict policy takes one and the lenient policy two. -/
theorem uneven_only_adds :
    unevenTree.SaysConfigs ⟨['/', 'd', '@', '4'], rfl⟩ 300 ∧
    (Resolution.resolve unevenTree .defaultOne ⟨['/', 'd', '@', '4'], rfl⟩).result.toOption = none ∧
    ∃ strict lenient added s s', OnlyAdds unevenTree strict lenient added ∧ SameCandidates s s' ∧
      strict.length = 1 ∧ lenient.length = 2 ∧
      discover RegistryCall.record ({ } : DiscoverySettings) crowdedFiles.directories unevenTree [] =
        (RegistryCall.ofPass strict s, .ok s) ∧
      discover RegistryCall.record { numConfigsPolicy := .defaultOne } crowdedFiles.directories unevenTree [] =
        (RegistryCall.ofPass lenient s', .ok s') := by
  obtain ⟨hnodes, hpasses⟩ := lenient_pass_only_adds {} crowdedFiles.directories unevenTree
  have hnode : unevenTree.SaysConfigs ⟨['/', 'd', '@', '4'], rfl⟩ 300 := ⟨_, rfl, by decide⟩
  have hended : (discover RegistryCall.record {} crowdedFiles.directories unevenTree []).2.toOption =
      some { groups := 2, instances := 3, discarded := 2, devices := 1 } := by
    decide +kernel
  have hstrict : (discover RegistryCall.record {} crowdedFiles.directories unevenTree []).1.length = 2 := by
    decide +kernel
  have hlenient : (discover RegistryCall.record { numConfigsPolicy := .defaultOne } crowdedFiles.directories
      unevenTree []).1.length = 3 := by
    decide +kernel
  refine ⟨hnode, (hnodes _ _ hnode).2 (by decide) .defaultOne, ?_⟩
  rcases hpasses with ⟨e, hfail⟩ | ⟨w, nodes, added, s, s', -, -, hsame, hadds, hpass⟩
  · have hfailed : discover RegistryCall.record {} crowdedFiles.directories unevenTree [] = ([], .error e) :=
      hfail RegistryCall.record [] .required
    rw [hfailed] at hended
    cases hended
  · obtain ⟨hp, hp'⟩ := hpass RegistryCall.record []
    rw [RegistryCall.foldl_record] at hp hp'
    refine ⟨_, _, added, s, s', hadds, hsame, ?_, ?_, hp, hp'⟩
    · rw [show discover RegistryCall.record {} crowdedFiles.directories unevenTree [] = _ from hp,
        RegistryCall.length_ofPass] at hstrict
      exact Nat.succ.inj hstrict
    · rw [show discover RegistryCall.record { numConfigsPolicy := .defaultOne } crowdedFiles.directories unevenTree []
        = _ from hp', RegistryCall.length_ofPass] at hlenient
      exact Nat.succ.inj hlenient

end UsbInventory
