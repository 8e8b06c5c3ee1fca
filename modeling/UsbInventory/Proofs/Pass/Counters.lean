/-
The counters of a pass. Every part of a pass makes the counters grow by what it meets (`Grows`): an entry of
the root or of a group by itself, and a listing by the sum over its entries. A whole pass starts from zero, so
as long as it sees fewer entries than a counter can hold, each counter is the number of entries with its
outcome, and the outcomes add up.

Counters are added as 32-bit numbers throughout; only the whole pass is read as natural numbers.
-/
import UsbInventory.Backend.Basic
import UsbInventory.Proofs.Pass.Candidates

namespace UsbInventory

/-! ## How counters grow -/

/-- How many entries of each kind a part of a pass meets. -/
structure Visits where
  groups : Nat := 0
  /-- Groups that could be opened. -/
  opened : Nat := 0
  instances : Nat := 0
  /-- Instances that lead to a node. -/
  nodes : Nat := 0
  /-- Nodes with an identity. -/
  identities : Nat := 0

instance : Add Visits where
  add u v := ⟨u.groups + v.groups, u.opened + v.opened, u.instances + v.instances, u.nodes + v.nodes,
    u.identities + v.identities⟩

theorem Visits.add_def (u v : Visits) : u + v = ⟨u.groups + v.groups, u.opened + v.opened,
    u.instances + v.instances, u.nodes + v.nodes, u.identities + v.identities⟩ := rfl

/-- The counters grow from `s` to `t` over visits `v`: what is met is counted, and so is what is lost between
one stage and the next. -/
structure Grows (s : PassSummary) (v : Visits) (t : PassSummary) : Prop where
  groups : t.groups = s.groups + .ofNat v.groups
  groupsSkipped : t.groupsSkipped + .ofNat v.opened = s.groupsSkipped + .ofNat v.groups
  instances : t.instances = s.instances + .ofNat v.instances
  instancesSkipped : t.instancesSkipped + .ofNat v.nodes = s.instancesSkipped + .ofNat v.instances
  discarded : t.discarded + .ofNat v.identities = s.discarded + .ofNat v.nodes
  devices : t.devices = s.devices + .ofNat v.identities

theorem Grows.refl (s : PassSummary) : Grows s {} s :=
  ⟨(UInt32.add_zero _).symm, rfl, (UInt32.add_zero _).symm, rfl, rfl, (UInt32.add_zero _).symm⟩

/-- The visits determine the counters. -/
theorem Grows.unique {s t t' : PassSummary} {v : Visits} (h : Grows s v t) (h' : Grows s v t') : t = t' := by
  have groupsSkipped : t.groupsSkipped = t'.groupsSkipped := by
    have := h.groupsSkipped; have := h'.groupsSkipped
    grind
  have instancesSkipped : t.instancesSkipped = t'.instancesSkipped := by
    have := h.instancesSkipped; have := h'.instancesSkipped
    grind
  have discarded : t.discarded = t'.discarded := by
    have := h.discarded; have := h'.discarded
    grind
  cases t; cases t'
  simp only [PassSummary.mk.injEq]
  exact ⟨h.groups.trans h'.groups.symm, groupsSkipped, h.instances.trans h'.instances.symm, instancesSkipped,
    discarded, h.devices.trans h'.devices.symm⟩

theorem Grows.trans {s t u : PassSummary} {v v' : Visits} (h : Grows s v t) (h' : Grows t v' u) :
    Grows s (v + v') u := by
  have add : ∀ m n : Nat, UInt32.ofNat (m + n) = .ofNat m + .ofNat n := UInt32.ofNat_add
  refine ⟨?_, ?_, ?_, ?_, ?_, ?_⟩
  · show u.groups = s.groups + .ofNat (v.groups + v'.groups)
    rw [h'.groups, h.groups, add, UInt32.add_assoc]
  · show u.groupsSkipped + .ofNat (v.opened + v'.opened) = s.groupsSkipped + .ofNat (v.groups + v'.groups)
    have := h.groupsSkipped; have := h'.groupsSkipped
    grind
  · show u.instances = s.instances + .ofNat (v.instances + v'.instances)
    rw [h'.instances, h.instances, add, UInt32.add_assoc]
  · show u.instancesSkipped + .ofNat (v.nodes + v'.nodes) =
      s.instancesSkipped + .ofNat (v.instances + v'.instances)
    have := h.instancesSkipped; have := h'.instancesSkipped
    grind
  · show u.discarded + .ofNat (v.identities + v'.identities) = s.discarded + .ofNat (v.nodes + v'.nodes)
    have := h.discarded; have := h'.discarded
    grind
  · show u.devices = s.devices + .ofNat (v.identities + v'.identities)
    rw [h'.devices, h.devices, add, UInt32.add_assoc]

/-! ## What one entry adds -/

theorem grows_group (s : PassSummary) :
    Grows s { groups := 1, opened := 1 } { s with groups := s.groups + 1 } :=
  ⟨rfl, rfl, (UInt32.add_zero _).symm, rfl, rfl, (UInt32.add_zero _).symm⟩

theorem grows_groupSkipped (s : PassSummary) :
    Grows s { groups := 1 } { s with groups := s.groups + 1, groupsSkipped := s.groupsSkipped + 1 } :=
  ⟨rfl, UInt32.add_zero _, (UInt32.add_zero _).symm, rfl, rfl, (UInt32.add_zero _).symm⟩

theorem grows_instanceSkipped (s : PassSummary) :
    Grows s { instances := 1 }
      { s with instances := s.instances + 1, instancesSkipped := s.instancesSkipped + 1 } :=
  ⟨(UInt32.add_zero _).symm, rfl, rfl, UInt32.add_zero _, rfl, (UInt32.add_zero _).symm⟩

/-- A candidate is registered or discarded. -/
theorem settle_grows {σ : Type} (p : Progress σ) (tell : σ → RegistryCall → σ)
    (found : Option DeviceIdentity) :
    Grows p.summary { instances := 1, nodes := 1, identities := found.toList.length }
      ((p.count fun s => { s with instances := s.instances + 1 }).settle tell found).summary := by
  cases found with
  | none =>
    exact ⟨(UInt32.add_zero _).symm, rfl, rfl, rfl, UInt32.add_zero _, (UInt32.add_zero _).symm⟩
  | some d => exact ⟨(UInt32.add_zero _).symm, rfl, rfl, rfl, rfl, rfl⟩

namespace Walk

/-! ## The loops of a walk -/

variable {σ : Type}

/-- What a walk meets in some instances. -/
def instanceVisits (w : Walk) (is : List (BoundedPath × RawPath)) : Visits where
  instances := is.length
  nodes := (is.filterMap w.node?).length
  identities := ((is.filterMap w.node?).filterMap w.identity?).length

/-- What a walk meets in some entries of the root. -/
def visits (w : Walk) (names : List RawPath) : Visits where
  groups := (names.filter w.takes).length
  opened := (w.openGroups names).length
  instances := (w.instances names).length
  nodes := (w.nodes names).length
  identities := (w.identities names).length

theorem instanceVisits_append (w : Walk) (is js : List (BoundedPath × RawPath)) :
    w.instanceVisits (is ++ js) = w.instanceVisits is + w.instanceVisits js := by
  simp only [instanceVisits, Visits.add_def, List.filterMap_append, List.length_append]

theorem visits_cons (w : Walk) (name : RawPath) (names : List RawPath) :
    w.visits (name :: names) = w.visits [name] + w.visits names := by
  have ht : (name :: names).filter w.takes = [name].filter w.takes ++ names.filter w.takes :=
    List.filter_append [name] names
  simp only [visits, identities, Visits.add_def, ht, w.openGroups_cons name names, w.instances_cons name names,
    w.nodes_cons name names, List.filterMap_append, List.length_append]

theorem passInstance_grows (w : Walk) (tell : σ → RegistryCall → σ) (group : BoundedPath) (p : Progress σ)
    (name : RawPath) :
    Grows p.summary (w.instanceVisits (instancesOf (group, [name])))
      (w.passInstance (w.resolveInto tell) group p name).summary := by
  rw [instancesOf_singleton]
  unfold passInstance
  split
  · exact Grows.refl _
  · cases hc : w.candidate group name with
    | error e =>
      have hn : w.node? (group, name) = none := by simp [node?, hc, Except.toOption]
      simp only [instanceVisits, List.filterMap_cons, hn]
      exact grows_instanceSkipped _
    | ok found =>
      have hn : w.node? (group, name) = some found.2.node := by simp [node?, hc, Except.toOption]
      have hv : w.instanceVisits [(group, name)] =
          { instances := 1, nodes := 1, identities := (w.identity? found.2.node).toList.length } := by
        simp only [instanceVisits, List.filterMap_cons, hn]
        cases w.identity? found.2.node <;> rfl
      rw [hv]
      exact settle_grows p tell _

theorem foldl_passInstance_grows (w : Walk) (tell : σ → RegistryCall → σ) (group : BoundedPath) :
    ∀ (names : List RawPath) (p : Progress σ), Grows p.summary (w.instanceVisits (instancesOf (group, names)))
      (names.foldl (w.passInstance (w.resolveInto tell) group) p).summary
  | [], p => Grows.refl p.summary
  | name :: names, p => by
    rw [List.foldl_cons, instancesOf_cons group name names, instanceVisits_append]
    exact (w.passInstance_grows tell group p name).trans (foldl_passInstance_grows w tell group names _)

theorem passGroup_grows (w : Walk) (tell : σ → RegistryCall → σ) (p : Progress σ) (name : RawPath) :
    Grows p.summary (w.visits [name]) (w.passGroup (w.resolveInto tell) p name).summary := by
  have hg := w.openGroups_singleton name
  rcases w.passGroup_cases (w.resolveInto tell) p name with ⟨ht, hp⟩ | ⟨ht, ho, hp⟩ | ⟨group, names, ht, ho, hp⟩
  · have hv : w.visits [name] = {} := by
      simp [visits, identities, nodes, instances, hg, ht]
    rw [hp, hv]
    exact Grows.refl _
  · have hv : w.visits [name] = { groups := 1 } := by
      simp [visits, identities, nodes, instances, hg, ht, ho]
    rw [hp, hv]
    exact grows_groupSkipped _
  · have hv : w.visits [name] = { groups := 1, opened := 1 } + w.instanceVisits (instancesOf (group, names)) := by
      simp [visits, identities, nodes, instances, hg, ht, ho, instanceVisits, Visits.add_def]
    rw [hp, hv]
    refine Grows.trans ?_ (w.foldl_passInstance_grows tell group names _)
    exact grows_group _

theorem foldl_passGroup_grows (w : Walk) (tell : σ → RegistryCall → σ) :
    ∀ (names : List RawPath) (p : Progress σ), Grows p.summary (w.visits names)
      (names.foldl (w.passGroup (w.resolveInto tell)) p).summary
  | [], p => Grows.refl p.summary
  | name :: names, p => by
    rw [List.foldl_cons, w.visits_cons name names]
    exact (w.passGroup_grows tell p name).trans (foldl_passGroup_grows w tell names _)

theorem ofSettings_ok {settings : DiscoverySettings} {directories : Directories} {tree : DeviceTree} {w : Walk}
    (h : ofSettings settings directories tree = .ok w) :
    ∃ pattern, Pattern.parse settings.groupPattern = .ok pattern ∧
      w = ⟨settings, pattern, usableFilters settings.filters, directories, tree⟩ := by
  unfold ofSettings at h
  split at h
  · cases h
  · rename_i pattern hp
    cases h
    exact ⟨pattern, hp, rfl⟩

end Walk

/-! ## The loop over the bus -/

namespace Bus

variable {σ : Type}

/-- Whether a device is registered: its descriptor reads, and the filters allow its ids. -/
def wanted (filters : List DeviceFilter) (d : AttachedDevice) : Bool :=
  d.descriptor == 0 && DeviceFilter.allowed filters d.vendor d.product

/-- The identities of the wanted devices, in list order. -/
def identities (filters : List DeviceFilter) (ds : List AttachedDevice) : List DeviceIdentity :=
  (ds.filter (wanted filters)).map (·.identity)

theorem identity?_eq (filters : List DeviceFilter) (d : AttachedDevice) :
    d.identity? filters = if wanted filters d then some d.identity else none := by
  unfold AttachedDevice.identity? AttachedDevice.outcome wanted
  by_cases hd : d.descriptor = 0
  · cases ha : DeviceFilter.allowed filters d.vendor d.product <;> simp [hd]
  · simp [hd]

theorem identities_cons (filters : List DeviceFilter) (d : AttachedDevice) (ds : List AttachedDevice) :
    identities filters (d :: ds) = (d.identity? filters).toList ++ identities filters ds := by
  unfold identities
  rw [identity?_eq]
  cases h : wanted filters d <;> simp [h]

theorem foldl_pass_sink (filters : List DeviceFilter) (tell : σ → RegistryCall → σ) :
    ∀ (ds : List AttachedDevice) (p : Progress σ), (ds.foldl (AttachedDevice.pass filters tell) p).sink =
      ((identities filters ds).map RegistryCall.register).foldl tell p.sink
  | [], _ => rfl
  | d :: ds, p => by
    rw [List.foldl_cons, foldl_pass_sink filters tell ds, identities_cons, List.map_append, List.foldl_append]
    unfold AttachedDevice.pass
    rw [Walk.settle_sink]
    rfl

/-- What a pass meets on the bus: every device is an instance and a node. -/
def visits (filters : List DeviceFilter) (ds : List AttachedDevice) : Visits where
  instances := ds.length
  nodes := ds.length
  identities := (identities filters ds).length

theorem foldl_pass_grows (filters : List DeviceFilter) (tell : σ → RegistryCall → σ) :
    ∀ (ds : List AttachedDevice) (p : Progress σ), Grows p.summary (visits filters ds)
      (ds.foldl (AttachedDevice.pass filters tell) p).summary
  | [], p => Grows.refl p.summary
  | d :: ds, p => by
    have hv : visits filters (d :: ds) =
        { instances := 1, nodes := 1, identities := (d.identity? filters).toList.length } +
          visits filters ds := by
      simp only [visits, Visits.add_def, identities_cons, List.length_cons, List.length_append, Nat.add_comm]
    rw [List.foldl_cons, hv]
    exact (settle_grows p tell _).trans (foldl_pass_grows filters tell ds _)

end Bus

/-! ## Whole passes -/

/-- What a pass tells the registry that comes to its end: every identity, then its counters. -/
def RegistryCall.ofPass (found : List DeviceIdentity) (s : PassSummary) : List RegistryCall :=
  found.map .register ++ [.endOfPass s]

theorem RegistryCall.length_ofPass (found : List DeviceIdentity) (s : PassSummary) :
    (ofPass found s).length = found.length + 1 := by
  simp [ofPass]

/-- The registry that only keeps its calls ends up with all of them. -/
theorem RegistryCall.foldl_record (calls : List RegistryCall) : calls.foldl record [] = calls :=
  Walk.foldl_concat calls []

theorem foldl_ofPass {σ : Type} (tell : σ → RegistryCall → σ) (registry : σ) (found : List DeviceIdentity)
    (s : PassSummary) :
    (RegistryCall.ofPass found s).foldl tell registry =
      tell ((found.map RegistryCall.register).foldl tell registry) (.endOfPass s) := by
  unfold RegistryCall.ofPass
  rw [List.foldl_append]
  rfl

/-- A pass over a readable root whose pattern can be read comes to its end: it registers the identities of its
walk and then ends the pass, with the same counters for every registry. -/
theorem discover_of_ok {settings : DiscoverySettings} {directories : Directories} {tree : DeviceTree} {w : Walk}
    {names : List RawPath} (hw : Walk.ofSettings settings directories tree = .ok w)
    (hr : directories.readDir settings.devUsbRoot = .ok names) :
    ∃ s, Grows {} (w.visits names) s ∧ ∀ {σ : Type} (tell : σ → RegistryCall → σ) (registry : σ),
      discover tell settings directories tree registry =
        ((RegistryCall.ofPass (w.identities names) s).foldl tell registry, .ok s) := by
  have hr' : w.directories.readDir w.settings.devUsbRoot = .ok names := by
    obtain ⟨pattern, -, rfl⟩ := Walk.ofSettings_ok hw
    exact hr
  -- any registry gives the counters, since the visits determine them
  refine ⟨_, w.foldl_passGroup_grows (fun u _ => u) names { sink := () }, fun {σ} tell registry => ?_⟩
  have hs := (w.foldl_passGroup_grows tell names { sink := registry }).unique
    (w.foldl_passGroup_grows (fun u _ => u) names { sink := () })
  unfold discover Walk.pass
  rw [hw]
  simp only [hr']
  rw [foldl_ofPass, ← hs, w.foldl_passGroup_resolveInto tell names]

/-- A pass over a bus that lists its devices registers the wanted ones and then ends the pass. -/
theorem enumerate_of_listed (filters : List DeviceFilter) {bus : Bus} (hl : bus.listing = 0) :
    ∃ s, Grows {} (Bus.visits filters bus.devices) s ∧ ∀ {σ : Type} (tell : σ → RegistryCall → σ) (registry : σ),
      bus.enumerate filters tell registry =
        ((RegistryCall.ofPass (Bus.identities filters bus.devices) s).foldl tell registry, .ok s) := by
  refine ⟨_, Bus.foldl_pass_grows filters (fun u _ => u) bus.devices { sink := () }, fun {σ} tell registry => ?_⟩
  have hs := (Bus.foldl_pass_grows filters tell bus.devices { sink := registry }).unique
    (Bus.foldl_pass_grows filters (fun u _ => u) bus.devices { sink := () })
  unfold Bus.enumerate
  rw [if_neg (by simp [hl]), foldl_ofPass, ← hs]
  simp only [Bus.foldl_pass_sink]

theorem discover_of_badPattern (settings : DiscoverySettings) (directories : Directories) (tree : DeviceTree)
    {e : DiscoveryError} (hw : Walk.ofSettings settings directories tree = .error e) {σ : Type}
    (tell : σ → RegistryCall → σ) (registry : σ) :
    discover tell settings directories tree registry = (registry, .error e) := by
  unfold discover
  rw [hw]

theorem discover_of_unreadable {settings : DiscoverySettings} {directories : Directories} {tree : DeviceTree}
    {w : Walk} {e : FileError} (hw : Walk.ofSettings settings directories tree = .ok w)
    (hr : directories.readDir settings.devUsbRoot = .error e) {σ : Type} (tell : σ → RegistryCall → σ)
    (registry : σ) :
    discover tell settings directories tree registry =
      (registry, .error (.rootUnreadable settings.devUsbRoot e)) := by
  obtain ⟨pattern, -, rfl⟩ := Walk.ofSettings_ok hw
  unfold discover Walk.pass
  rw [hw]
  simp only [hr]

/-! ## The counters of a whole pass -/

/-- A sum that a counter completes: what is lost is what is met less what is kept. -/
theorem toNat_of_add {a : UInt32} {kept met : Nat} (h : a + .ofNat kept = 0 + .ofNat met) (hk : kept ≤ met)
    (hm : met < UInt32.size) : a.toNat = met - kept := by
  have := congrArg UInt32.toNat h
  simp only [UInt32.toNat_add, UInt32.toNat_ofNat', UInt32.toNat_zero] at this
  have := a.toNat_lt
  unfold UInt32.size at hm
  omega

theorem toNat_of_eq {a : UInt32} {met : Nat} (h : a = 0 + .ofNat met) (hm : met < UInt32.size) : a.toNat = met := by
  rw [h, UInt32.zero_add, UInt32.toNat_ofNat_of_lt' hm]

/-- Every entry is kept by `f` or lost by it. -/
theorem length_filterMap_add {α β : Type} (f : α → Option β) : ∀ xs : List α,
    (xs.filterMap f).length + (xs.filter fun x => (f x).isNone).length = xs.length
  | [] => rfl
  | x :: xs => by
    have := length_filterMap_add f xs
    cases h : f x <;> simp [h] <;> omega

namespace Walk

/-- The entries that a walk comes by: those of the root, and those of every group it can open. -/
def entryCount (w : Walk) (names : List RawPath) : Nat :=
  names.length + ((w.openGroups names).flatMap Prod.snd).length

theorem length_instances_le (w : Walk) (names : List RawPath) :
    (w.instances names).length ≤ ((w.openGroups names).flatMap Prod.snd).length := by
  unfold instances
  generalize w.openGroups names = gs
  induction gs with
  | nil => exact Nat.le_refl 0
  | cons g gs ih =>
    have hg : (instancesOf g).length ≤ g.2.length := by
      unfold instancesOf
      rw [List.length_map]
      exact List.length_filter_le _ _
    rw [List.flatMap_cons, List.flatMap_cons, List.length_append, List.length_append]
    omega

/-- The counters of a walk, each as the number of entries with its outcome. -/
structure Counted (w : Walk) (names : List RawPath) (s : PassSummary) : Prop where
  groups : s.groups.toNat = (names.filter w.takes).length
  groupsSkipped : s.groupsSkipped.toNat =
    ((names.filter w.takes).filter fun name => (w.openGroup? name).isNone).length
  instances : s.instances.toNat = (w.instances names).length
  instancesSkipped : s.instancesSkipped.toNat = ((w.instances names).filter fun i => (w.node? i).isNone).length
  discarded : s.discarded.toNat = ((w.nodes names).filter fun node => (w.identity? node).isNone).length
  devices : s.devices.toNat = (w.identities names).length

/-- At every stage of a walk what is met goes on or is lost. -/
theorem stages (w : Walk) (names : List RawPath) :
    (w.openGroups names).length + ((names.filter w.takes).filter fun name => (w.openGroup? name).isNone).length =
        (names.filter w.takes).length ∧
      (w.nodes names).length + ((w.instances names).filter fun i => (w.node? i).isNone).length =
        (w.instances names).length ∧
      (w.identities names).length + ((w.nodes names).filter fun node => (w.identity? node).isNone).length =
        (w.nodes names).length :=
  ⟨length_filterMap_add w.openGroup? _, length_filterMap_add w.node? _, length_filterMap_add w.identity? _⟩

theorem counted_of_grows {w : Walk} {names : List RawPath} {s : PassSummary} (h : Grows {} (w.visits names) s)
    (hb : w.entryCount names < UInt32.size) : w.Counted names s := by
  have hi := w.length_instances_le names
  have hg : (names.filter w.takes).length ≤ names.length := List.length_filter_le _ _
  obtain ⟨ho, hn, hd⟩ := w.stages names
  unfold entryCount at hb
  have hgs : s.groupsSkipped + .ofNat (w.openGroups names).length = 0 + .ofNat (names.filter w.takes).length :=
    h.groupsSkipped
  have his : s.instancesSkipped + .ofNat (w.nodes names).length = 0 + .ofNat (w.instances names).length :=
    h.instancesSkipped
  have hds : s.discarded + .ofNat (w.identities names).length = 0 + .ofNat (w.nodes names).length := h.discarded
  refine ⟨toNat_of_eq h.groups (show (names.filter w.takes).length < _ by omega), ?_,
    toNat_of_eq h.instances (show (w.instances names).length < _ by omega), ?_, ?_,
    toNat_of_eq h.devices (show (w.identities names).length < _ by omega)⟩
  · have := toNat_of_add hgs (by omega) (by omega)
    omega
  · have := toNat_of_add his (by omega) (by omega)
    omega
  · have := toNat_of_add hds (by omega) (by omega)
    omega

end Walk

/-- The counters of a pass over the bus. -/
theorem bus_counted_of_grows {filters : List DeviceFilter} {ds : List AttachedDevice} {s : PassSummary}
    (h : Grows {} (Bus.visits filters ds) s) (hb : ds.length < UInt32.size) :
    s.instances.toNat = ds.length ∧ s.devices.toNat = (Bus.identities filters ds).length ∧
      s.instances.toNat = s.devices.toNat + s.discarded.toNat ∧
      s.groups = 0 ∧ s.groupsSkipped = 0 ∧ s.instancesSkipped = 0 := by
  have hi : (Bus.identities filters ds).length ≤ ds.length := by
    unfold Bus.identities
    rw [List.length_map]
    exact List.length_filter_le _ _
  have hds : s.discarded + .ofNat (Bus.identities filters ds).length = 0 + .ofNat ds.length := h.discarded
  have hinst : s.instances.toNat = ds.length := toNat_of_eq h.instances hb
  have hdev : s.devices.toNat = (Bus.identities filters ds).length :=
    toNat_of_eq h.devices (show (Bus.identities filters ds).length < _ by omega)
  have hskip : s.instancesSkipped + .ofNat ds.length = 0 + .ofNat ds.length := h.instancesSkipped
  refine ⟨hinst, hdev, ?_, h.groups, (UInt32.add_zero _).symm.trans h.groupsSkipped, ?_⟩
  · have := toNat_of_add hds hi hb
    omega
  · grind

/-- A pass over the device namespace that came to its end had a pattern that can be read and a root that can. -/
theorem discover_ok {σ : Type} {tell : σ → RegistryCall → σ} {settings : DiscoverySettings}
    {directories : Directories} {tree : DeviceTree} {registry registry' : σ} {s : PassSummary}
    (h : discover tell settings directories tree registry = (registry', .ok s)) :
    ∃ w names, Walk.ofSettings settings directories tree = .ok w ∧
      directories.readDir settings.devUsbRoot = .ok names ∧ Grows {} (w.visits names) s ∧
      registry' = (RegistryCall.ofPass (w.identities names) s).foldl tell registry := by
  cases hw : Walk.ofSettings settings directories tree with
  | error e =>
    rw [discover_of_badPattern settings directories tree hw] at h
    cases h
  | ok w =>
    cases hr : directories.readDir settings.devUsbRoot with
    | error e =>
      rw [discover_of_unreadable hw hr] at h
      cases h
    | ok names =>
      obtain ⟨s', hs, hd⟩ := discover_of_ok hw hr
      rw [hd] at h
      cases h
      exact ⟨w, names, rfl, rfl, hs, rfl⟩

/-- Every entry that a finished pass comes by is counted under exactly one outcome. In the device namespace the
counters are the numbers of groups, of groups that cannot be opened, of instances, of instances that lead to no
node, of nodes without an identity and of identities, and the candidates are the node paths that the walk emits.
On the bus every device is an instance, and the wanted ones are registered in list order. -/
theorem pass_counts_every_entry {σ : Type} (tell : σ → RegistryCall → σ) (registry : σ) :
    (∀ settings directories tree registry' s,
      discover tell settings directories tree registry = (registry', .ok s) →
      ∃ w names, Walk.ofSettings settings directories tree = .ok w ∧
        directories.readDir settings.devUsbRoot = .ok names ∧
        (w.entryCount names < UInt32.size → w.Counted names s ∧
          s.instances.toNat = s.instancesSkipped.toNat + s.discarded.toNat + s.devices.toNat ∧
          s.groupsSkipped.toNat ≤ s.groups.toNat ∧
          s.candidates.toNat = w.emitted.length ∧
          s.candidates.toNat = s.instances.toNat - s.instancesSkipped.toNat)) ∧
    (∀ filters bus registry' s, Bus.enumerate filters tell bus registry = (registry', .ok s) →
      registry' = (RegistryCall.ofPass (Bus.identities filters bus.devices) s).foldl tell registry ∧
        (bus.devices.length < UInt32.size →
          s.instances.toNat = bus.devices.length ∧ s.instances.toNat = s.devices.toNat + s.discarded.toNat ∧
          s.groups = 0 ∧ s.groupsSkipped = 0 ∧ s.instancesSkipped = 0)) := by
  constructor
  · intro settings directories tree registry' s h
    obtain ⟨w, names, hw, hr, hs, -⟩ := discover_ok h
    refine ⟨w, names, hw, hr, fun hb => ?_⟩
    have hc := Walk.counted_of_grows hs hb
    obtain ⟨hg, hn, hd⟩ := w.stages names
    have hi := w.length_instances_le names
    have hcand : s.candidates.toNat = (w.nodes names).length := by
      unfold PassSummary.candidates
      unfold Walk.entryCount UInt32.size at hb
      rw [UInt32.toNat_add, hc.devices, hc.discarded]
      omega
    have hemit : w.emitted = w.nodes names := by
      obtain ⟨pattern, -, rfl⟩ := Walk.ofSettings_ok hw
      exact Walk.emitted_eq hr
    refine ⟨hc, ?_, ?_, ?_, ?_⟩
    · rw [hc.instances, hc.instancesSkipped, hc.discarded, hc.devices]
      omega
    · rw [hc.groupsSkipped, hc.groups]
      omega
    · rw [hcand, hemit]
    · rw [hcand, hc.instances, hc.instancesSkipped]
      omega
  · intro filters bus registry' s h
    by_cases hl : bus.listing = 0
    · obtain ⟨s', hs, he⟩ := enumerate_of_listed filters hl
      rw [he] at h
      cases h
      refine ⟨rfl, fun hb => ?_⟩
      obtain ⟨h1, -, h3, h4, h5, h6⟩ := bus_counted_of_grows hs hb
      exact ⟨h1, h3, h4, h5, h6⟩
    · unfold Bus.enumerate at h
      rw [if_pos hl] at h
      cases h

/-- A namespace with one device, an instance without a witness, a hidden entry, a group that is a file and an
entry that is no group. -/
def sampleFiles : FileSystem :=
  let witness : Entry := .link (RawPath.ofString "/devices/device@2:x")
  let group : Entry := .directory
    [(RawPath.ofString "0", .directory [(RawPath.ofString "devstat", witness)]),
      (RawPath.ofString "1", .directory []), (RawPath.ofString ".cache", .directory [])]
  let usb : Entry := .directory
    [(RawPath.ofString "a12.1", group), (RawPath.ofString "a12.2", .file []), (RawPath.ofString "hub", group)]
  ⟨.directory [(RawPath.ofString "dev", .directory [(RawPath.ofString "usb", usb)]),
    (RawPath.ofString "devices", .directory [(RawPath.ofString "device@2:x", .file [])])], []⟩

/-- A device tree in which every node is on bus 1 and has one configuration. -/
def sampleTree : DeviceTree :=
  ⟨fun _ => .ok ⟨fun name => if name = Property.busNumber ∨ name = Property.numConfigs then .values [1]
    else .absent (.system SystemError.noEntry)⟩⟩

theorem ok_of_toOption {ε α : Type} {e : Except ε α} {a : α} (h : e.toOption = some a) : e = .ok a := by
  cases e with
  | error e => cases h
  | ok b => exact congrArg Except.ok (Option.some.inj h)

/-- The counters of a pass over the sample. -/
def sampleSummary : PassSummary :=
  { groups := 2, groupsSkipped := 1, instances := 2, instancesSkipped := 1, devices := 1 }

theorem discover_sample :
    (discover RegistryCall.record {} sampleFiles.directories sampleTree []).2 = .ok sampleSummary :=
  ok_of_toOption (by decide +kernel)

/-- A bus with a device, and another whose descriptor cannot be read. -/
def sampleBus : Bus := { devices := [⟨3, 2, 3, 0xa12, 1, 1, 0⟩, ⟨3, 4, 3, 0xa12, 2, 1, -4⟩] }

theorem enumerate_sampleBus :
    (sampleBus.enumerate [] RegistryCall.record []).2 = .ok { instances := 2, discarded := 1, devices := 1 } :=
  ok_of_toOption (by decide +kernel)

theorem sample_pass_counts :
    (∃ w names s, Walk.Counted w names s ∧ s.groups = 2 ∧ s.devices = 1 ∧
      s.instances.toNat = s.instancesSkipped.toNat + s.discarded.toNat + s.devices.toNat) ∧
    ∃ s : PassSummary, s.discarded = 1 ∧ s.instances.toNat = 2 ∧
      s.instances.toNat = s.devices.toNat + s.discarded.toNat := by
  constructor
  · obtain ⟨w, names, hw, hr, h⟩ := (pass_counts_every_entry RegistryCall.record []).1 {} sampleFiles.directories
      sampleTree _ _ (Prod.ext rfl discover_sample)
    have hb : w.entryCount names < UInt32.size := by
      have he : ((Walk.ofSettings {} sampleFiles.directories sampleTree).toOption.bind fun w =>
          (sampleFiles.readDir (RawPath.ofString "/dev/usb")).toOption.map w.entryCount) = some 6 := by
        decide +kernel
      have hr' : sampleFiles.readDir (RawPath.ofString "/dev/usb") = .ok names := hr
      rw [hw, hr'] at he
      rw [Option.some.inj he]
      decide
    exact ⟨w, names, _, (h hb).1, rfl, rfl, (h hb).2.1⟩
  · obtain ⟨-, h⟩ := (pass_counts_every_entry RegistryCall.record []).2 [] sampleBus _ _
      (Prod.ext rfl enumerate_sampleBus)
    obtain ⟨hinstances, hsum, -⟩ := h (by decide)
    exact ⟨_, rfl, hinstances, hsum⟩

end UsbInventory
