/-
More room for composed paths. A pass with a larger capacity opens the groups that a pass with a smaller one opens, sees
the same entries in them, and finds the nodes that it finds, so it registers the same identities in the same order and
perhaps some between them. A capacity makes a difference only through a group or a witness whose path is too long for
it: a pass without such a path is the same pass under every larger capacity, up to what it says in the log.

Both passes are followed entry by entry; that composing differs only where a path is too long is all that is used of
paths.
-/
import UsbInventory.Proofs.Pass.Leniency
import UsbInventory.Proofs.Pass.Survey
import UsbInventory.Proofs.Pass.WholePaths

namespace UsbInventory

open BoundedPath (Composed Widens)
open Directories (readable readable_map map_congr_readable)

/-! ## Paths that are too long -/

/-- Whether an instance was skipped because a path was too long. -/
def InstanceReport.isTooLong (r : InstanceReport) : Bool :=
  match r.outcome with
  | .skipped _ (.compose e) => e.isTooLong
  | _ => false

/-- Whether a group, or an instance in it, was skipped because a path was too long. -/
def GroupReport.anyTooLong (r : GroupReport) : Bool :=
  match r.outcome with
  | .unfit _ e => e.isTooLong
  | .walked _ _ _ => r.instances.any (·.isTooLong)
  | _ => false

/-- Whether a walk skipped a group or an instance because a path was too long. -/
def WalkReport.anyTooLong (r : WalkReport) : Bool := r.groups.any (·.anyTooLong)

theorem eq_false_of_any_map {α β : Type} {f : α → β} {p : β → Bool} {xs : List α} (h : (xs.map f).any p = false) :
    ∀ x ∈ xs, p (f x) = false := by
  rw [List.any_map, List.any_eq_false] at h
  intro x hx
  exact Bool.eq_false_iff.2 (h x hx)

namespace Walk

/-- The same walk with another capacity. -/
def within (w : Walk) (capacity : Nat) : Walk := { w with settings := w.settings.within capacity }

variable {w : Walk} {c c' : Nat} {p q : BoundedPath}

/-! ## One entry -/

/-- With more room an instance comes out alike, unless a path was too long. -/
theorem candidate_within (h : p.Widens q) (name : RawPath) :
    (w.within c').candidate q name = (w.within c).candidate p name ∨
      ∃ length capacity, (w.within c).candidate p name = .error (none, .compose (.tooLong length capacity)) := by
  have hcomposed := Witness.composed_pathOf w.settings h c c' name
  unfold candidate within
  dsimp only
  revert hcomposed
  generalize Witness.pathOf (w.settings.within c) p name = r
  generalize Witness.pathOf (w.settings.within c') q name = r'
  rintro (hw | component | ⟨length, capacity, roomier⟩)
  · dsimp only
    rw [hw.path]
    exact .inl rfl
  · exact .inl rfl
  · exact .inr ⟨length, capacity, rfl⟩

theorem node?_within (h : p.Widens q) {name : RawPath} {node : NodePath}
    (hn : (w.within c).node? (p, name) = some node) : (w.within c').node? (q, name) = some node := by
  unfold node? at hn ⊢
  rcases @candidate_within w c c' _ _ h name with he | ⟨length, capacity, he⟩
  · dsimp only at hn ⊢
    rw [he]
    exact hn
  · dsimp only at hn
    rw [he] at hn
    cases hn

/-- A group that opens opens with more room as well, and lists the same entries. -/
theorem openGroup?_within (h : c ≤ c') {name : RawPath} {entries : List RawPath}
    (ho : (w.within c).openGroup? name = some (p, entries)) :
    ∃ q, (w.within c').openGroup? name = some (q, entries) ∧ p.Widens q := by
  obtain ⟨hg, hr⟩ := of_openGroup? ho
  have hcomposed := Witness.composed_groupPath w.settings h name
  rw [show Witness.groupPath (w.settings.within c) name = .ok p from hg] at hcomposed
  unfold openGroup? within
  dsimp only
  revert hcomposed
  generalize Witness.groupPath (w.settings.within c') name = r'
  rintro ⟨hw⟩
  have hr' : w.directories.readDir p.path = .ok entries := hr
  rw [← hw.path] at hr'
  exact ⟨_, by simp only [Except.toOption, hr', Option.bind_some, Option.map_some], hw⟩

/-! ## All entries -/

theorem takes_within (c c' : Nat) : (w.within c').takes = (w.within c).takes := rfl

/-- The groups that open with less room are among those that open with more. -/
theorem length_openGroups_within (h : c ≤ c') (names : List RawPath) :
    ((w.within c).openGroups names).length ≤ ((w.within c').openGroups names).length := by
  unfold openGroups
  rw [List.length_filterMap_eq_countP, List.length_filterMap_eq_countP, takes_within c c']
  refine List.countP_mono_left fun name _ hs => ?_
  obtain ⟨⟨p, entries⟩, ho⟩ := Option.isSome_iff_exists.1 hs
  obtain ⟨q, hq, -⟩ := openGroup?_within h ho
  rw [hq]
  rfl

/-- How one entry of the root is met with less room and with more: it opens with both, or with less room nothing is
seen of it. -/
theorem instances_singleton_within (h : c ≤ c') (name : RawPath) :
    (w.within c).instances [name] = [] ∨
      ∃ p q entries, p.Widens q ∧ (w.within c).instances [name] = instancesOf (p, entries) ∧
        (w.within c').instances [name] = instancesOf (q, entries) := by
  unfold instances
  rw [openGroups_singleton, openGroups_singleton, takes_within c c']
  cases (w.within c).takes name with
  | false => exact .inl rfl
  | true =>
    cases ho : (w.within c).openGroup? name with
    | none => exact .inl rfl
    | some g =>
      obtain ⟨p, entries⟩ := g
      obtain ⟨q, hq, hw⟩ := openGroup?_within h ho
      refine .inr ⟨p, q, entries, hw, ?_, ?_⟩
      · simp
      · simp [hq]

theorem length_instances_within (h : c ≤ c') : ∀ names : List RawPath,
    ((w.within c).instances names).length ≤ ((w.within c').instances names).length
  | [] => Nat.le_refl 0
  | name :: names => by
    have ih := length_instances_within h names
    have hone : ((w.within c).instances [name]).length ≤ ((w.within c').instances [name]).length := by
      rcases instances_singleton_within (w := w) h name with he | ⟨p, q, entries, -, he, he'⟩
      · rw [he]
        exact Nat.zero_le _
      · rw [he, he']
        simp only [instancesOf, List.length_map, Nat.le_refl]
    rw [instances_cons, instances_cons (w.within c'), List.length_append, List.length_append]
    omega

/-- The nodes that are found with less room are found with more, in their order. -/
theorem nodes_within (h : c ≤ c') : ∀ names : List RawPath,
    ((w.within c).nodes names).Sublist ((w.within c').nodes names)
  | [] => .slnil
  | name :: names => by
    have hone : ((w.within c).nodes [name]).Sublist ((w.within c').nodes [name]) := by
      unfold nodes
      rcases instances_singleton_within (w := w) h name with he | ⟨p, q, entries, hw, he, he'⟩
      · rw [he]
        exact List.nil_sublist _
      · rw [he, he']
        unfold instancesOf
        rw [List.filterMap_map, List.filterMap_map]
        exact filterMap_sublist_of_le (fun _ _ hn => node?_within hw hn) _
    rw [nodes_cons, nodes_cons (w.within c')]
    exact hone.append (nodes_within h names)

theorem identities_within (h : c ≤ c') (names : List RawPath) :
    ((w.within c).identities names).Sublist ((w.within c').identities names) :=
  (nodes_within h names).filterMap _

/-! ## Reports without a path that is too long -/

theorem visitInstance_within (h : p.Widens q) {name : RawPath}
    (hfit : ((w.within c).visitInstance p name).isTooLong = false) :
    (w.within c').visitInstance q name = (w.within c).visitInstance p name := by
  unfold visitInstance at hfit ⊢
  cases hh : RawPath.isHidden name with
  | true => rfl
  | false =>
    rcases @candidate_within w c c' _ _ h name with he | ⟨length, capacity, he⟩
    · rw [he]
      rfl
    · rw [hh, he] at hfit
      cases hfit

theorem visitGroup_within (h : c ≤ c') {name : RawPath} (hfit : ((w.within c).visitGroup name).anyTooLong = false) :
    (w.within c').visitGroup name = (w.within c).visitGroup name := by
  have hname : ∀ k, (w.within k).groupName? name = w.groupName? name := fun _ => rfl
  have hsettings : ∀ k, (w.within k).settings = w.settings.within k := fun _ => rfl
  have hdirectories : ∀ k, (w.within k).directories = w.directories := fun _ => rfl
  have hfilters : ∀ k, (w.within k).filters = w.filters := fun _ => rfl
  revert hfit
  unfold visitGroup
  simp only [hname, hsettings, hdirectories, hfilters]
  cases w.groupName? name with
  | none => exact fun _ => rfl
  | some text =>
    dsimp only
    cases admits w.filters text.toList with
    | false => exact fun _ => rfl
    | true =>
      -- the walks differ in the paths that they compose, and in nothing else
      have hcomposed := Witness.composed_groupPath w.settings h name
      revert hcomposed
      generalize Witness.groupPath (w.settings.within c) name = r
      generalize Witness.groupPath (w.settings.within c') name = r'
      intro hcomposed hfit
      cases hcomposed with
      | refused component => rfl
      | tooLong length capacity => cases hfit
      | @fits p q hw =>
        dsimp only at hfit ⊢
        rw [hw.path]
        cases hr : w.directories.entries p.path with
        | error e => rfl
        | ok entries =>
          rw [hr] at hfit
          have hall : ∀ name ∈ readable entries, ((w.within c).visitInstance p name).isTooLong = false := by
            have hany : (readable (entries.map (Except.map ((w.within c).visitInstance p)))).any
                (·.isTooLong) = false := hfit
            rw [readable_map] at hany
            exact eq_false_of_any_map hany
          dsimp only
          rw [map_congr_readable fun name hm => visitInstance_within hw (hall name hm)]

theorem run_within (h : c ≤ c') {r : WalkReport} (hr : (w.within c).run = .ok r) (hfit : r.anyTooLong = false) :
    (w.within c').run = .ok r := by
  unfold run at hr ⊢
  have hroot : ∀ k, (w.within k).directories.entries (w.within k).settings.devUsbRoot =
      w.directories.entries w.settings.devUsbRoot := fun _ => rfl
  rw [hroot] at hr ⊢
  cases hd : w.directories.entries w.settings.devUsbRoot with
  | error e =>
    rw [hd] at hr
    cases hr
  | ok entries =>
    rw [hd] at hr
    cases hr
    have hall : ∀ name ∈ readable entries, ((w.within c).visitGroup name).anyTooLong = false := by
      have hany : (readable (entries.map (Except.map (w.within c).visitGroup))).any (·.anyTooLong) = false := hfit
      rw [readable_map] at hany
      exact eq_false_of_any_map hany
    dsimp only
    rw [map_congr_readable fun name hm => visitGroup_within h (hall name hm)]
    rfl

theorem ofSettings_within (settings : DiscoverySettings) (directories : Directories) (tree : DeviceTree)
    (capacity : Nat) : ofSettings (settings.within capacity) directories tree =
      (ofSettings settings directories tree).map (·.within capacity) := by
  unfold ofSettings DiscoverySettings.within
  dsimp only
  cases Pattern.parse settings.groupPattern <;> rfl

end Walk

/-! ## Counters -/

/-- A walk with more room meets as many groups, opens no fewer of them, and sees no fewer instances. -/
structure Roomier (v v' : Visits) : Prop where
  groups : v'.groups = v.groups
  opened : v.opened ≤ v'.opened
  known : v'.opened ≤ v'.groups
  instances : v.instances ≤ v'.instances

theorem Walk.roomier_visits {w : Walk} {c c' : Nat} (h : c ≤ c') (names : List RawPath) :
    Roomier ((w.within c).visits names) ((w.within c').visits names) where
  groups := rfl
  opened := length_openGroups_within h names
  known := by
    obtain ⟨ho, -⟩ := (w.within c').stages names
    unfold visits
    dsimp only
    omega
  instances := length_instances_within h names

/-- Of as many groups, no more are skipped with more room, as long as the counter can hold the groups. -/
theorem Roomier.groupsSkipped_le {v v' : Visits} {s s' : PassSummary} (h : Roomier v v') (hs : Grows {} v s)
    (hs' : Grows {} v' s') (hb : v.groups < UInt32.size) : s'.groupsSkipped ≤ s.groupsSkipped := by
  have hopened := h.opened
  have hknown := h.known
  have hgroups := h.groups
  have hskipped := toNat_of_add hs.groupsSkipped (by omega) hb
  have hskipped' := toNat_of_add hs'.groupsSkipped hknown (by omega)
  rw [UInt32.le_iff_toNat_le]
  omega

theorem Roomier.instances_le {v v' : Visits} {s s' : PassSummary} (h : Roomier v v') (hs : Grows {} v s)
    (hs' : Grows {} v' s') (hb : v'.instances < UInt32.size) : s.instances ≤ s'.instances := by
  have hle := h.instances
  rw [UInt32.le_iff_toNat_le, toNat_of_eq hs.instances (by omega), toNat_of_eq hs'.instances hb]
  exact hle

/-! ## Two passes -/

/-- What more room does to a pass that comes to its end, where `s` and `s'` are its counters with less room and with
more: it registers the same devices in their order and perhaps some between, meets the same groups, skips no more of
them and sees no fewer instances, as far as the counters can hold these. -/
structure OnlyGrows (w : Walk) (c c' : Nat) (names : List RawPath) (s s' : PassSummary) : Prop where
  registered : ((w.within c).identities names).Sublist ((w.within c').identities names)
  counted : Grows {} ((w.within c).visits names) s
  countedMore : Grows {} ((w.within c').visits names) s'
  visits : Roomier ((w.within c).visits names) ((w.within c').visits names)
  groups : s'.groups = s.groups
  groupsSkipped : (names.filter w.takes).length < UInt32.size → s'.groupsSkipped ≤ s.groupsSkipped
  instances : ((w.within c').instances names).length < UInt32.size → s.instances ≤ s'.instances

theorem onlyGrows {w : Walk} {c c' : Nat} (h : c ≤ c') {names : List RawPath} {s s' : PassSummary}
    (hs : Grows {} ((w.within c).visits names) s) (hs' : Grows {} ((w.within c').visits names) s') :
    OnlyGrows w c c' names s s' := by
  have hroomier := Walk.roomier_visits (w := w) h names
  have hgroups : s'.groups = s.groups := by rw [hs.groups, hs'.groups, hroomier.groups]
  exact ⟨Walk.identities_within h names, hs, hs', hroomier, hgroups, hroomier.groupsSkipped_le hs hs',
    hroomier.instances_le hs hs'⟩

theorem survey_within {settings : DiscoverySettings} {directories : Directories} {tree : DeviceTree} {c c' : Nat}
    (h : c ≤ c') {r : WalkReport} (hr : survey (settings.within c) directories tree = .ok r)
    (hfit : r.anyTooLong = false) : survey (settings.within c') directories tree = .ok r := by
  unfold survey at hr ⊢
  rw [Walk.ofSettings_within] at hr ⊢
  cases hw : Walk.ofSettings settings directories tree with
  | error e =>
    rw [hw] at hr
    cases hr
  | ok w =>
    rw [hw] at hr
    exact Walk.run_within h hr hfit

/-- A larger capacity only adds devices. Passes that differ only in the capacity for composed paths fail alike, or
both come to their ends; then more room only makes the pass grow. If no group and no instance was skipped because a path
was too long, both see the same and are the same pass. Every path that a pass asks about is a whole path: what it sees
in a group is the listing of the whole path, a node is what the whole path of a witness resolves to, and no other path
has a say. -/
theorem larger_capacity_only_adds (settings : DiscoverySettings) (directories : Directories) (tree : DeviceTree)
    {c c' : Nat} (h : c ≤ c') :
    ((∃ e, ∀ {σ : Type} (tell : σ → RegistryCall → σ) (registry : σ) (capacity : Nat),
        discover tell (settings.within capacity) directories tree registry = (registry, .error e)) ∨
      ∃ (w : Walk) (names : List RawPath) (s s' : PassSummary), Walk.ofSettings settings directories tree = .ok w ∧
        directories.readDir settings.devUsbRoot = .ok names ∧ OnlyGrows w c c' names s s' ∧
        (w.within c).SeesWholePaths ∧ (w.within c').SeesWholePaths ∧
        ∀ {σ : Type} (tell : σ → RegistryCall → σ) (registry : σ),
          discover tell (settings.within c) directories tree registry =
            ((RegistryCall.ofPass ((w.within c).identities names) s).foldl tell registry, .ok s) ∧
          discover tell (settings.within c') directories tree registry =
            ((RegistryCall.ofPass ((w.within c').identities names) s').foldl tell registry, .ok s')) ∧
    (∀ r, survey (settings.within c) directories tree = .ok r → r.anyTooLong = false →
      survey (settings.within c') directories tree = .ok r ∧
      ∀ {σ : Type} (tell : σ → RegistryCall → σ) (registry : σ),
        discover tell (settings.within c') directories tree registry =
          discover tell (settings.within c) directories tree registry) ∧
    ∀ d, directories.AgreeOn (settings.within c) d → ∀ {σ : Type} (tell : σ → RegistryCall → σ) (registry : σ),
      discover tell (settings.within c) d tree registry =
        discover tell (settings.within c) directories tree registry := by
  have hwithin := Walk.ofSettings_within settings directories tree
  refine ⟨?_, ?_, fun d hd _ tell registry => discover_agree hd tree tell registry⟩
  · cases hw : Walk.ofSettings settings directories tree with
    | error e =>
      rw [hw] at hwithin
      exact .inl ⟨e, fun tell registry capacity =>
        discover_of_badPattern _ directories tree (hwithin capacity) tell registry⟩
    | ok w =>
      rw [hw] at hwithin
      cases hr : directories.readDir settings.devUsbRoot with
      | error e =>
        exact .inl ⟨.rootUnreadable settings.devUsbRoot e, fun tell registry capacity =>
          discover_of_unreadable (hwithin capacity) hr tell registry⟩
      | ok names =>
        obtain ⟨s, hs, hpass⟩ := discover_of_ok (hwithin c) hr
        obtain ⟨s', hs', hpass'⟩ := discover_of_ok (hwithin c') hr
        exact .inr ⟨w, names, s, s', rfl, rfl, onlyGrows h hs hs', Walk.seesWholePaths _, Walk.seesWholePaths _,
          fun tell registry => ⟨hpass tell registry, hpass' tell registry⟩⟩
  · intro r hr hfit
    have hr' := survey_within h hr hfit
    refine ⟨hr', fun tell registry => ?_⟩
    rw [discover_eq_survey, discover_eq_survey, hr, hr']

/-- A namespace with two devices, of which one is in an instance with a longer name. -/
def longFiles : FileSystem :=
  let instanceOf (minor : String) : Entry :=
    .directory [(RawPath.ofString "devstat", .link (RawPath.ofString ("/devices/" ++ minor)))]
  let group : Entry := .directory
    [(RawPath.ofString "0", instanceOf "device@2:x"), (RawPath.ofString "10", instanceOf "device@3:x")]
  ⟨.directory
    [(RawPath.ofString "dev", .directory [(RawPath.ofString "usb", .directory [(RawPath.ofString "a12.1", group)])]),
      (RawPath.ofString "devices", .directory
        (["device@2:x", "device@3:x"].map fun minor => (RawPath.ofString minor, .file [])))], []⟩

/-- The witness of the longer instance has 25 bytes: a capacity of 25 leaves it out, and one of 26 is as good as any
larger one. -/
theorem long_only_adds :
    (∃ found found' s s', found.Sublist found' ∧ found.length = 1 ∧ found'.length = 2 ∧
      discover RegistryCall.record { pathCapacity := 25 } longFiles.directories sampleTree [] =
        (RegistryCall.ofPass found s, .ok s) ∧
      discover RegistryCall.record { pathCapacity := 26 } longFiles.directories sampleTree [] =
        (RegistryCall.ofPass found' s', .ok s')) ∧
    discover RegistryCall.record { pathCapacity := 4096 } longFiles.directories sampleTree [] =
      discover RegistryCall.record { pathCapacity := 26 } longFiles.directories sampleTree [] := by
  have hcount : (discover RegistryCall.record { pathCapacity := 25 } longFiles.directories sampleTree []).1.length =
      2 := by
    decide +kernel
  have hcount' : (discover RegistryCall.record { pathCapacity := 26 } longFiles.directories sampleTree []).1.length =
      3 := by
    decide +kernel
  constructor
  · rcases (larger_capacity_only_adds {} longFiles.directories sampleTree (by decide : 25 ≤ 26)).1 with
      ⟨e, hfail⟩ | ⟨w, names, s, s', -, -, hgrows, -, -, hpass⟩
    · have hfailed : discover RegistryCall.record { pathCapacity := 25 } longFiles.directories sampleTree [] = _ :=
        hfail RegistryCall.record [] 25
      rw [hfailed] at hcount
      cases hcount
    · obtain ⟨hp, hp'⟩ := hpass RegistryCall.record []
      rw [RegistryCall.foldl_record] at hp hp'
      refine ⟨_, _, s, s', hgrows.registered, ?_, ?_, hp, hp'⟩
      · rw [show discover RegistryCall.record { pathCapacity := 25 } longFiles.directories sampleTree [] = _ from hp,
          RegistryCall.length_ofPass] at hcount
        exact Nat.succ.inj hcount
      · rw [show discover RegistryCall.record { pathCapacity := 26 } longFiles.directories sampleTree [] = _ from hp',
          RegistryCall.length_ofPass] at hcount'
        exact Nat.succ.inj hcount'
  · have hfit : (survey { pathCapacity := 26 } longFiles.directories sampleTree).toOption.map
        WalkReport.anyTooLong = some false := by
      decide +kernel
    obtain ⟨r, hr, hr'⟩ := Option.map_eq_some_iff.1 hfit
    exact ((larger_capacity_only_adds {} longFiles.directories sampleTree (by decide : 26 ≤ 4096)).2.1 r
      (ok_of_toOption hr) hr').2 RegistryCall.record []

end UsbInventory
