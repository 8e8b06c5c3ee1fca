/-
The paths that a pass asks about. It opens a group by the whole path of the group, and resolves a witness by the whole
path of the witness; a path that does not fit is not asked about, and none is ever cut short. So what the file system
says about any other path has no say in a pass.
-/
import UsbInventory.Proofs.Pass.Registration
import UsbInventory.Proofs.Pass.Reordering
import UsbInventory.Proofs.Path.Room

namespace UsbInventory

/-- The whole path of a group. -/
def DiscoverySettings.groupPath (settings : DiscoverySettings) (group : RawPath) : RawPath :=
  settings.devUsbRoot.child group

/-- The whole path of the witness of an instance. -/
def DiscoverySettings.witnessPath (settings : DiscoverySettings) (group name : RawPath) : RawPath :=
  ((settings.groupPath group).child name).child (RawPath.ofString settings.witnessFile)

/-- Two views of a file system that agree on the root of a walk and, as far as they fit, on the whole paths of its
groups and of the witnesses in them. -/
structure Directories.AgreeOn (settings : DiscoverySettings) (d d' : Directories) : Prop where
  root : d'.readDir settings.devUsbRoot = d.readDir settings.devUsbRoot
  groups : ∀ names, d.readDir settings.devUsbRoot = .ok names → ∀ group ∈ names,
    (settings.groupPath group).length < settings.pathCapacity →
    d'.readDir (settings.groupPath group) = d.readDir (settings.groupPath group)
  witnesses : ∀ names, d.readDir settings.devUsbRoot = .ok names → ∀ group ∈ names,
    ∀ entries, d.readDir (settings.groupPath group) = .ok entries → ∀ name ∈ entries, RawPath.isHidden name = false →
    (settings.witnessPath group name).length < settings.pathCapacity →
    d'.canonicalize (settings.witnessPath group name) = d.canonicalize (settings.witnessPath group name)

namespace Walk

variable {w : Walk} {d : Directories}

/-! ## What is seen -/

/-- What a walk sees in a group is the listing of its whole path, and a node is what the whole path of a witness
resolves to. -/
def SeesWholePaths (w : Walk) : Prop :=
  ∀ group bounded entries, w.openGroup? group = some (bounded, entries) →
    w.directories.readDir (w.settings.groupPath group) = .ok entries ∧
      ∀ name node, w.node? (bounded, name) = some node →
        w.resolvedNode? (w.settings.witnessPath group name) = some node

theorem of_openGroup? {group : RawPath} {bounded : BoundedPath} {entries : List RawPath}
    (h : w.openGroup? group = some (bounded, entries)) :
    Witness.groupPath w.settings group = .ok bounded ∧ w.directories.readDir bounded.path = .ok entries := by
  unfold openGroup? at h
  cases hg : Witness.groupPath w.settings group with
  | error e =>
    rw [hg] at h
    cases h
  | ok found =>
    rw [hg] at h
    obtain ⟨names, hnames, he⟩ := Option.map_eq_some_iff.1 h
    cases he
    exact ⟨rfl, ok_of_toOption hnames⟩

theorem seesWholePaths (w : Walk) : w.SeesWholePaths := by
  intro group bounded entries h
  obtain ⟨hg, hr⟩ := of_openGroup? h
  obtain ⟨hpath, -⟩ := Witness.of_groupPath_ok hg
  refine ⟨by rw [← hr, hpath]; rfl, fun name node hn => ?_⟩
  rw [node?_eq] at hn
  obtain ⟨witness, hwitness, hnode⟩ := Option.bind_eq_some_iff.1 hn
  obtain ⟨composed, hc, rfl⟩ := Option.map_eq_some_iff.1 hwitness
  obtain ⟨hwhole, -⟩ := Witness.of_pathOf_ok (ok_of_toOption hc)
  rw [hwhole, hpath] at hnode
  exact hnode

/-! ## What has a say -/

section Agree

variable {σ : Type} {emit : NodePath → Progress σ → Progress σ}

theorem passInstance_agree {bounded : BoundedPath} {name : RawPath}
    (h : RawPath.isHidden name = false → ∀ witness, Witness.pathOf w.settings bounded name = .ok witness →
      d.canonicalize witness.path = w.directories.canonicalize witness.path) (p : Progress σ) :
    (w.among d).passInstance emit bounded p name = w.passInstance emit bounded p name := by
  unfold passInstance candidate among
  cases hh : RawPath.isHidden name with
  | true => rfl
  | false =>
    dsimp only
    cases hp : Witness.pathOf w.settings bounded name with
    | error e => rfl
    | ok witness =>
      dsimp only
      rw [h hh witness hp]

theorem passGroup_agree (h : w.directories.AgreeOn w.settings d) {names : List RawPath}
    (hr : w.directories.readDir w.settings.devUsbRoot = .ok names) {group : RawPath} (hm : group ∈ names)
    (p : Progress σ) : (w.among d).passGroup emit p group = w.passGroup emit p group := by
  have hname : (w.among d).groupName? group = w.groupName? group := rfl
  unfold passGroup
  rw [hname]
  cases w.groupName? group with
  | none => rfl
  | some text =>
    have hsettings : (w.among d).settings = w.settings := rfl
    have hfilters : (w.among d).filters = w.filters := rfl
    have hdirectories : (w.among d).directories = d := rfl
    rw [hsettings, hfilters, hdirectories]
    dsimp only
    cases admits w.filters text.toList with
    | false => rfl
    | true =>
      cases hg : Witness.groupPath w.settings group with
      | error e => rfl
      | ok bounded =>
        obtain ⟨hpath, hcapacity, hfits⟩ := Witness.of_groupPath_ok hg
        have hlisting : d.readDir bounded.path = w.directories.readDir bounded.path := by
          rw [hpath]
          exact h.groups names hr group hm hfits
        dsimp only
        rw [hlisting]
        cases he : w.directories.readDir bounded.path with
        | error e => rfl
        | ok entries =>
          dsimp only
          refine List.foldl_ext _ _ _ fun p name hn => passInstance_agree (fun hh witness hw => ?_) p
          -- the witness is asked about by its whole path, on which the views agree
          obtain ⟨hwhole, hlt⟩ := Witness.of_pathOf_ok hw
          rw [hcapacity] at hlt
          rw [hpath] at hwhole he
          rw [hwhole] at hlt ⊢
          exact h.witnesses names hr group hm entries he name hn hh hlt

theorem pass_agree (h : w.directories.AgreeOn w.settings d) (p : Progress σ) :
    (w.among d).pass emit p = w.pass emit p := by
  unfold pass
  rw [show (w.among d).directories.readDir (w.among d).settings.devUsbRoot = _ from h.root]
  cases hr : w.directories.readDir w.settings.devUsbRoot with
  | error e => rfl
  | ok names =>
    dsimp only
    rw [List.foldl_ext _ _ p fun p group hm => passGroup_agree h hr hm p]

end Agree

end Walk

/-- Passes over views that agree on the whole paths of a walk are the same pass. -/
theorem discover_agree {settings : DiscoverySettings} {d d' : Directories} (h : d.AgreeOn settings d')
    (tree : DeviceTree) {σ : Type} (tell : σ → RegistryCall → σ) (registry : σ) :
    discover tell settings d' tree registry = discover tell settings d tree registry := by
  unfold discover
  rw [Walk.ofSettings_among settings d d' tree]
  cases hw : Walk.ofSettings settings d tree with
  | error e => rfl
  | ok w =>
    obtain ⟨rfl, rfl⟩ : w.settings = settings ∧ w.directories = d := by
      obtain ⟨pattern, -, rfl⟩ := Walk.ofSettings_ok hw
      exact ⟨rfl, rfl⟩
    have hpass : (w.among d').pass ((w.among d').resolveInto tell) { sink := registry } =
        w.pass (w.resolveInto tell) { sink := registry } := Walk.pass_agree h _
    dsimp only [Except.map]
    rw [hpass]

end UsbInventory
