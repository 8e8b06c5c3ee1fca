/-
Why a walk skips groups and instances, and why a pass fails. Where listings give names and the witness file is one as
well, only the length of a path and what lies outside the walk (the file system, and where a link leads) make it skip
something: no component is refused, and what is cut from a resolved path always is a node path.
-/
import UsbInventory.Proofs.Pass.Counters
import UsbInventory.Proofs.Pass.Cutting
import UsbInventory.Proofs.Path.Joining

namespace UsbInventory

/-- The listings of the directories consist of names: not empty, and without a slash. -/
def Directories.ListsNames (d : Directories) : Prop :=
  ∀ path names, d.readDir path = .ok names → ∀ name ∈ names, BoundedPath.isComponent name = true

/-- Whether an instance was skipped for the length of its path or for what the file system said, and not for a name
that is none or a node path that is none. -/
def CandidateError.isExternal : CandidateError → Bool
  | compose cause => cause.isTooLong
  | resolve _ _ | outsideDeviceTree _ _ | notUtf8 _ => true
  | invalidNode _ => false

/-- Every group that was skipped unopened has too long a path, and every instance was skipped for an external reason. -/
structure WalkReport.SkipsExternally (r : WalkReport) : Prop where
  groups : ∀ g ∈ r.groups, ∀ text e, g.outcome = .unfit text e → e.isTooLong = true
  instances : ∀ g ∈ r.groups, ∀ i ∈ g.instances, ∀ resolved e,
    i.outcome = .skipped resolved e → e.isExternal = true

/-! ## Composing and cutting -/

namespace BoundedPath

theorem isTooLong_of_join {p : BoundedPath} {name : RawPath} {e : PathError} (hc : isComponent name = true)
    (h : p.join name = .error e) : e.isTooLong = true := by
  rw [of_join_error hc h]
  rfl

theorem isTooLong_of_ofPath {base : RawPath} {capacity : Nat} {e : PathError} (h : ofPath base capacity = .error e) :
    e.isTooLong = true := by
  unfold ofPath at h
  split at h
  · cases h
  · cases h
    rfl

/-- A chain of two steps fails for want of room if each step does. -/
theorem isTooLong_of_bind {r : Except PathError BoundedPath} {f : BoundedPath → Except PathError BoundedPath}
    (hr : ∀ e, r = .error e → e.isTooLong = true) (hf : ∀ p e, f p = .error e → e.isTooLong = true) {e : PathError}
    (h : (r >>= f) = .error e) : e.isTooLong = true := by
  cases r with
  | error e' =>
    cases h
    exact hr e rfl
  | ok p => exact hf p e h

end BoundedPath

namespace Witness

open BoundedPath

variable {settings : DiscoverySettings} {name : RawPath}

theorem isTooLong_of_groupPath (hc : isComponent name = true) {e : PathError}
    (h : groupPath settings name = .error e) : e.isTooLong = true :=
  isTooLong_of_bind (fun _ he => isTooLong_of_ofPath he) (fun _ _ he => isTooLong_of_join hc he) h

theorem isTooLong_of_pathOf (hfile : isComponent (RawPath.ofString settings.witnessFile) = true)
    (hc : isComponent name = true) {group : BoundedPath} {e : PathError}
    (h : pathOf settings group name = .error e) : e.isTooLong = true :=
  isTooLong_of_bind (fun _ he => isTooLong_of_join hc he) (fun _ _ he => isTooLong_of_join hfile he) h

/-- What is cut starts with the slash that was put before it, so it is a node path. -/
theorem isExternal_of_nodeOf {resolved root : RawPath} {e : CandidateError} (h : nodeOf resolved root = .error e) :
    e.isExternal = true := by
  cases nodeOf_eq_iff.1 h with
  | outside => rfl
  | notText => rfl

end Witness

/-! ## Entries -/

namespace Walk

variable {w : Walk}

theorem isExternal_of_candidate (hfile : BoundedPath.isComponent (RawPath.ofString w.settings.witnessFile) = true)
    {group : BoundedPath} {name : RawPath} (hc : BoundedPath.isComponent name = true) {resolved : Option RawPath}
    {e : CandidateError} (h : w.candidate group name = .error (resolved, e)) : e.isExternal = true := by
  unfold candidate at h
  cases hw : Witness.pathOf w.settings group name with
  | error cause =>
    rw [hw] at h
    cases h
    exact Witness.isTooLong_of_pathOf hfile hc hw
  | ok witness =>
    rw [hw] at h
    dsimp only at h
    cases hr : w.directories.canonicalize witness.path with
    | error cause =>
      rw [hr] at h
      cases h
      rfl
    | ok path =>
      rw [hr] at h
      dsimp only at h
      cases hn : Witness.nodeOf path w.settings.devicesRoot with
      | error cause =>
        rw [hn] at h
        cases h
        exact Witness.isExternal_of_nodeOf hn
      | ok cut =>
        rw [hn] at h
        cases h

theorem candidate_of_skipped {group : BoundedPath} {name : RawPath} {resolved : Option RawPath} {e : CandidateError}
    (h : (w.visitInstance group name).outcome = .skipped resolved e) :
    w.candidate group name = .error (resolved, e) := by
  unfold visitInstance at h
  split at h
  · cases h
  · cases hc : w.candidate group name with
    | error found =>
      rw [hc] at h
      cases h
      rfl
    | ok found =>
      rw [hc] at h
      cases h

/-- What may become of an entry of the root, with what the walk found there. -/
inductive Sees (w : Walk) (name : RawPath) : GroupOutcome → Prop where
  | unmatched : Sees w name .unmatched
  | filtered (text : String) : Sees w name (.filtered text)
  | unfit (text : String) {e : PathError} (composed : Witness.groupPath w.settings name = .error e) :
    Sees w name (.unfit text e)
  | unopenable (text : String) (path : RawPath) (e : FileError) : Sees w name (.unopenable text path e)
  | walked (text : String) {group : BoundedPath} {entries : List (Except FileError RawPath)}
    (listed : w.directories.entries group.path = .ok entries) :
    Sees w name (.walked text group.path (entries.map (Except.map (w.visitInstance group))))

theorem sees_visitGroup (w : Walk) (name : RawPath) : w.Sees name (w.visitGroup name).outcome := by
  unfold visitGroup
  cases w.groupName? name with
  | none => exact .unmatched
  | some text =>
    dsimp only
    split
    · exact .filtered text
    · cases hg : Witness.groupPath w.settings name with
      | error e => exact .unfit text hg
      | ok group =>
        dsimp only
        cases hr : w.directories.entries group.path with
        | error e => exact .unopenable text group.path e
        | ok entries => exact .walked text hr

/-- A walk over names, with a name for its witness file, skips for external reasons only. -/
theorem skipsExternally_of_run {r : WalkReport} (h : w.run = .ok r) (hnames : w.directories.ListsNames)
    (hfile : BoundedPath.isComponent (RawPath.ofString w.settings.witnessFile) = true) : r.SkipsExternally := by
  unfold run at h
  cases hr : w.directories.entries w.settings.devUsbRoot with
  | error e =>
    rw [hr] at h
    cases h
  | ok entries =>
    rw [hr] at h
    cases h
    have hnames' := hnames _ _ (Directories.readDir_of_entries hr)
    have hgroups : WalkReport.groups ⟨w.settings.devUsbRoot, entries.map (Except.map w.visitGroup)⟩ =
        (Directories.readable entries).map w.visitGroup := Directories.readable_map ..
    constructor
    · intro g hg text e hunfit
      rw [hgroups] at hg
      obtain ⟨name, hm, rfl⟩ := List.mem_map.1 hg
      have hsees := w.sees_visitGroup name
      rw [hunfit] at hsees
      cases hsees with
      | unfit _ composed => exact Witness.isTooLong_of_groupPath (hnames' name hm) composed
    · intro g hg i hi resolved e hskipped
      rw [hgroups] at hg
      obtain ⟨name, -, rfl⟩ := List.mem_map.1 hg
      have hsees := w.sees_visitGroup name
      unfold GroupReport.instances at hi
      generalize (w.visitGroup name).outcome = outcome at hsees hi
      -- only a group that was walked has instances
      cases hsees with
      | walked _ listed =>
        dsimp only at hi
        rw [Directories.readable_map] at hi
        obtain ⟨entry, hentry, rfl⟩ := List.mem_map.1 hi
        exact isExternal_of_candidate hfile (hnames _ _ (Directories.readDir_of_entries listed) entry hentry)
          (candidate_of_skipped hskipped)
      | _ => cases hi

end Walk

/-! ## Passes -/

/-- A survey fails over an unreadable root or a pattern that cannot be read. -/
theorem survey_eq_error {settings : DiscoverySettings} {directories : Directories} {tree : DeviceTree}
    {e : DiscoveryError} (h : survey settings directories tree = .error e) :
    (∃ cause, directories.readDir settings.devUsbRoot = .error cause ∧ e = .rootUnreadable settings.devUsbRoot cause) ∨
    ∃ cause, Pattern.parse settings.groupPattern = .error cause ∧ e = .badPattern settings.groupPattern cause := by
  unfold survey Walk.ofSettings at h
  cases hp : Pattern.parse settings.groupPattern with
  | error cause =>
    rw [hp] at h
    cases h
    exact .inr ⟨cause, rfl, rfl⟩
  | ok pattern =>
    rw [hp] at h
    unfold Walk.run at h
    dsimp only at h
    cases hr : directories.entries settings.devUsbRoot with
    | error cause =>
      rw [hr] at h
      cases h
      exact .inl ⟨cause, Directories.readDir_of_entries hr, rfl⟩
    | ok entries =>
      rw [hr] at h
      cases h

theorem skipsExternally_of_survey {settings : DiscoverySettings} {directories : Directories} {tree : DeviceTree}
    {r : WalkReport} (h : survey settings directories tree = .ok r) (hnames : directories.ListsNames)
    (hfile : BoundedPath.isComponent (RawPath.ofString settings.witnessFile) = true) : r.SkipsExternally := by
  unfold survey at h
  cases hw : Walk.ofSettings settings directories tree with
  | error e =>
    rw [hw] at h
    cases h
  | ok w =>
    rw [hw] at h
    dsimp only at h
    obtain ⟨pattern, -, rfl⟩ := Walk.ofSettings_ok hw
    exact Walk.skipsExternally_of_run h hnames hfile

end UsbInventory
