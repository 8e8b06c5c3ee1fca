/-
The survey of a pass, from which its log is written, tells of the pass as it runs: the devices of the survey are
those that the loops register, in the same order, and its counters are those that the loops count.

Each loop is followed entry by entry; the state of a loop is its counters and its registry, and the report of an
entry says how both go on.
-/
import UsbInventory.Proofs.Pass.Counters

namespace UsbInventory

variable {σ : Type}

/-- The progress of a pass after an entry with some counters and some devices. -/
def Progress.after (p : Progress σ) (tell : σ → RegistryCall → σ) (summary : PassSummary)
    (devices : List DeviceIdentity) : Progress σ :=
  ⟨summary, (devices.map RegistryCall.register).foldl tell p.sink⟩

namespace Walk

variable {w : Walk} {tell : σ → RegistryCall → σ}

theorem passInstance_eq (group : BoundedPath) (p : Progress σ) (name : RawPath) :
    w.passInstance (w.resolveInto tell) group p name =
      p.after tell ((w.visitInstance group name).tally p.summary)
        (w.visitInstance group name).device?.toList := by
  unfold passInstance visitInstance
  split
  · rfl
  · cases w.candidate group name with
    | error e => rfl
    | ok found =>
      -- a node with an identity is registered, and one without is discarded
      unfold resolveInto identity? InstanceReport.tally InstanceReport.device?
      dsimp only
      cases (Resolution.resolve w.tree w.settings.numConfigsPolicy found.2.node).result <;> rfl

theorem foldl_passInstance_eq (group : BoundedPath) : ∀ (names : List RawPath) (p : Progress σ),
    names.foldl (w.passInstance (w.resolveInto tell) group) p =
      p.after tell ((names.map (w.visitInstance group)).foldl InstanceReport.tally p.summary)
        ((names.map (w.visitInstance group)).filterMap InstanceReport.device?)
  | [], _ => rfl
  | name :: names, p => by
    rw [List.foldl_cons, passInstance_eq, foldl_passInstance_eq group names, List.map_cons, List.foldl_cons,
      List.filterMap_cons]
    cases (w.visitInstance group name).device? <;> rfl

theorem passGroup_eq (p : Progress σ) (name : RawPath) :
    w.passGroup (w.resolveInto tell) p name =
      p.after tell ((w.visitGroup name).tally p.summary) (w.visitGroup name).devices := by
  unfold passGroup visitGroup
  cases w.groupName? name with
  | none => rfl
  | some text =>
    dsimp only
    split
    · rfl
    · cases Witness.groupPath w.settings name with
      | error e => rfl
      | ok group =>
        dsimp only
        unfold Directories.readDir
        cases w.directories.entries group.path with
        | error e => rfl
        | ok entries =>
          unfold GroupReport.tally GroupReport.devices GroupReport.instances
          dsimp only
          rw [Directories.readable_map]
          exact foldl_passInstance_eq group (Directories.readable entries) _

theorem foldl_passGroup_eq : ∀ (names : List RawPath) (p : Progress σ),
    names.foldl (w.passGroup (w.resolveInto tell)) p =
      p.after tell ((names.map w.visitGroup).foldl GroupReport.tally p.summary)
        ((names.map w.visitGroup).flatMap GroupReport.devices)
  | [], _ => rfl
  | name :: names, p => by
    rw [List.foldl_cons, passGroup_eq, foldl_passGroup_eq names, List.map_cons, List.foldl_cons, List.flatMap_cons]
    unfold Progress.after
    rw [List.map_append, List.foldl_append]

end Walk

/-- A pass tells its registry the devices and the counters of its survey, and fails where the survey does. -/
theorem discover_eq_survey (tell : σ → RegistryCall → σ) (settings : DiscoverySettings) (directories : Directories)
    (tree : DeviceTree) (registry : σ) :
    discover tell settings directories tree registry =
      match survey settings directories tree with
      | .error e => (registry, .error e)
      | .ok r => ((RegistryCall.ofPass r.devices r.summary).foldl tell registry, .ok r.summary) := by
  unfold discover survey
  cases Walk.ofSettings settings directories tree with
  | error e => rfl
  | ok w =>
    unfold Walk.run Walk.pass
    dsimp only
    unfold Directories.readDir
    cases w.directories.entries w.settings.devUsbRoot with
    | error e => rfl
    | ok entries =>
      unfold WalkReport.devices WalkReport.summary WalkReport.groups
      dsimp only [Except.map]
      rw [Walk.foldl_passGroup_eq, foldl_ofPass, Directories.readable_map]
      rfl

end UsbInventory
