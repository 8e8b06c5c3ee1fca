/-
The sessions of a resolver. A session is opened only where none is open, read only while it is open, and closed before
the next node; so any number of calls leaves none open, however they end. Within a session the look-ups stop as soon as
the outcome is settled, and the resolution depends on no property but those that were looked up.
-/
import Mathlib.Data.List.Infix
import UsbInventory.Proofs.Pass.Outcomes

namespace UsbInventory

/-! ## Steps and sessions -/

namespace ResolutionStep

/-- What a step does to the session: whether one is open afterwards, or nothing where the step cannot be taken. -/
def session? : Bool → ResolutionStep → Option Bool
  | false, opened => some true
  | true, read _ => some true
  | true, assumedOne => some true
  | true, closed => some false
  | _, _ => none

/-- Whether a session is open after some steps, if they can be taken one after the other. -/
def sessionAfter? (isOpen : Bool) (steps : List ResolutionStep) : Option Bool := steps.foldlM session? isOpen

variable {isOpen isOpen' : Bool} {steps steps' : List ResolutionStep}

theorem sessionAfter?_append (h : sessionAfter? isOpen steps = some isOpen') :
    sessionAfter? isOpen (steps ++ steps') = sessionAfter? isOpen' steps' := by
  unfold sessionAfter? at h ⊢
  rw [List.foldlM_append, h]
  rfl

/-- Steps that can be taken can be taken up to any of them. -/
theorem exists_sessionAfter?_prefix {before : List ResolutionStep} (hp : before <+: steps)
    (h : sessionAfter? isOpen steps = some isOpen') : ∃ isOpen'', sessionAfter? isOpen before = some isOpen'' := by
  obtain ⟨after, rfl⟩ := hp
  unfold sessionAfter? at h ⊢
  rw [List.foldlM_append] at h
  obtain ⟨isOpen'', hbefore, -⟩ := Option.bind_eq_some_iff.1 h
  exact ⟨isOpen'', hbefore⟩

theorem count_of_session? {step : ResolutionStep} {isOpen isOpen' : Bool} (h : session? isOpen step = some isOpen') :
    [step].count opened + isOpen.toNat = [step].count closed + isOpen'.toNat := by
  cases isOpen <;> cases step <;> cases h <;> rfl

/-- What is opened and not closed is open. -/
theorem count_of_sessionAfter? : ∀ {steps : List ResolutionStep} {isOpen isOpen' : Bool},
    sessionAfter? isOpen steps = some isOpen' →
    steps.count opened + isOpen.toNat = steps.count closed + isOpen'.toNat
  | [], isOpen, isOpen', h => by
    obtain rfl := Option.some.inj h
    simp
  | step :: steps, isOpen, isOpen', h => by
    unfold sessionAfter? at h
    rw [List.foldlM_cons] at h
    obtain ⟨next, hstep, hrest⟩ := Option.bind_eq_some_iff.1 h
    have ih : steps.count opened + next.toNat = steps.count closed + isOpen'.toNat := count_of_sessionAfter? hrest
    have hfirst := count_of_session? hstep
    rw [← List.singleton_append, List.count_append, List.count_append]
    omega

/-- Reading leaves the session open. -/
theorem sessionAfter?_reads (readings : List Reading) : sessionAfter? true (readings.map read) = some true := by
  unfold sessionAfter?
  induction readings with
  | nil => rfl
  | cons reading readings ih => exact ih

end ResolutionStep

namespace Resolution

open ResolutionStep (sessionAfter? sessionAfter?_append)

variable {tree tree' : DeviceTree} {policy : NumConfigsPolicy} {path : NodePath} {node node' : DeviceNode}

/-- The steps of resolutions of nodes one after the other. -/
def stepsOf (tree : DeviceTree) (policy : NumConfigsPolicy) (paths : List NodePath) : List ResolutionStep :=
  paths.flatMap fun path => (resolve tree policy path).steps

theorem sessionAfter?_resolve (tree : DeviceTree) (policy : NumConfigsPolicy) (path : NodePath) :
    sessionAfter? false (resolve tree policy path).steps = some false := by
  have hr := resolves tree policy path
  generalize resolve tree policy path = r at hr
  cases hr with
  | unavailable closed => rfl
  | noBus opens bus => rfl
  | noConfigs opens bus silent strict => rfl
  | said opens bus one speeds => exact sessionAfter?_append (ResolutionStep.sessionAfter?_reads _)
  | assumed opens bus silent lenient speeds => exact sessionAfter?_append (ResolutionStep.sessionAfter?_reads _)

/-- After any number of calls no session is open. -/
theorem sessionAfter?_stepsOf (tree : DeviceTree) (policy : NumConfigsPolicy) : ∀ paths : List NodePath,
    sessionAfter? false (stepsOf tree policy paths) = some false
  | [] => rfl
  | path :: paths => by
    have ih := sessionAfter?_stepsOf tree policy paths
    unfold stepsOf at ih ⊢
    rw [List.flatMap_cons, sessionAfter?_append (sessionAfter?_resolve tree policy path), ih]

theorem exists_reading {step : ResolutionStep} {properties : List (String × DeviceSpeed)}
    (h : step ∈ speedSteps node properties) : ∃ reading, step = .read reading := by
  obtain ⟨reading, -, rfl⟩ := List.mem_map.1 h
  exact ⟨reading, rfl⟩

theorem notMem_speedSteps (node : DeviceNode) (properties : List (String × DeviceSpeed)) :
    .opened ∉ speedSteps node properties ∧ .closed ∉ speedSteps node properties := by
  constructor <;>
    · intro h
      obtain ⟨reading, he⟩ := exists_reading h
      cases he

/-- The steps between the opening and the closing of a session. -/
theorem exists_between (opens : tree.openNode path = .ok node) (policy : NumConfigsPolicy) :
    ∃ between, (resolve tree policy path).steps = .opened :: (between ++ [.closed]) ∧
      .opened ∉ between ∧ .closed ∉ between := by
  have hr := resolves tree policy path
  generalize resolve tree policy path = r at hr
  cases hr with
  | unavailable closed =>
    rw [closed] at opens
    cases opens
  | noBus => exact ⟨[.read _], rfl, by simp, by simp⟩
  | noConfigs => exact ⟨[.read _, .read _], rfl, by simp, by simp⟩
  | said => exact ⟨.read _ :: .read _ :: speedSteps _ _, rfl, by simp [notMem_speedSteps], by simp [notMem_speedSteps]⟩
  | assumed =>
    exact ⟨.read _ :: .read _ :: .assumedOne :: speedSteps _ _, rfl, by simp [notMem_speedSteps],
      by simp [notMem_speedSteps]⟩

theorem count_opened_resolve (tree : DeviceTree) (policy : NumConfigsPolicy) (path : NodePath) :
    (resolve tree policy path).steps.count .opened = if (tree.openNode path).toOption.isSome then 1 else 0 := by
  cases opens : tree.openNode path with
  | error cause =>
    rw [(Resolves.unavailable opens).eq]
    rfl
  | ok node =>
    obtain ⟨between, hsteps, hopened, -⟩ := exists_between opens policy
    rw [hsteps, List.count_cons_self, List.count_append, List.count_eq_zero_of_not_mem hopened]
    rfl

/-- As many sessions are opened as nodes open. -/
theorem count_opened_stepsOf (tree : DeviceTree) (policy : NumConfigsPolicy) : ∀ paths : List NodePath,
    (stepsOf tree policy paths).count .opened = paths.countP fun path => (tree.openNode path).toOption.isSome
  | [] => rfl
  | path :: paths => by
    have ih := count_opened_stepsOf tree policy paths
    unfold stepsOf at ih ⊢
    rw [List.flatMap_cons, List.count_append, count_opened_resolve, ih, List.countP_cons, Nat.add_comm]

/-! ## Look-ups -/

/-- The properties that are looked up in a session, in order. -/
inductive LooksUp (policy : NumConfigsPolicy) (node : DeviceNode) : List String → Prop where
  | bus (silent : ∀ v, node.lookup Property.busNumber ≠ .values [v]) : LooksUp policy node [Property.busNumber]
  | configs {b : Int} (bus : node.lookup Property.busNumber = .values [b])
      (silent : ∀ v, node.lookup Property.numConfigs ≠ .values [v]) (strict : policy = .required) :
      LooksUp policy node [Property.busNumber, Property.numConfigs]
  | speeds {b c : Int} {absent rest : List (String × DeviceSpeed)} (bus : node.lookup Property.busNumber = .values [b])
      (has : node.Configs policy c) (parted : node.PartedAtFirst Property.speeds absent rest) :
      LooksUp policy node (Property.busNumber :: Property.numConfigs :: (absent ++ rest.take 1).map (·.1))

section Readings

variable {steps : List ResolutionStep} {result : Except IdentityError DeviceIdentity}

@[simp] theorem readings_opened : readings ⟨path, .opened :: steps, result⟩ = readings ⟨path, steps, result⟩ := rfl

@[simp] theorem readings_read (reading : Reading) :
    readings ⟨path, .read reading :: steps, result⟩ = reading :: readings ⟨path, steps, result⟩ := rfl

@[simp] theorem readings_assumedOne :
    readings ⟨path, .assumedOne :: steps, result⟩ = readings ⟨path, steps, result⟩ := rfl

@[simp] theorem readings_speedSteps (properties : List (String × DeviceSpeed)) :
    readings ⟨path, speedSteps node properties ++ [.closed], result⟩ =
      (properties.map (·.1)).map (Reading.take node) := by
  simp [readings, speedSteps, List.filterMap_map, Function.comp_def]

end Readings

/-- What is read is what is looked up. -/
theorem exists_looksUp (opens : tree.openNode path = .ok node) (policy : NumConfigsPolicy) :
    ∃ names, LooksUp policy node names ∧ (resolve tree policy path).readings = names.map (Reading.take node) := by
  have hr := resolves tree policy path
  generalize resolve tree policy path = r at hr
  cases hr with
  | unavailable closed =>
    rw [closed] at opens
    cases opens
  | noBus opens' bus =>
    obtain rfl := opened_unique opens opens'
    exact ⟨_, .bus bus, rfl⟩
  | noConfigs opens' bus silent strict =>
    obtain rfl := opened_unique opens opens'
    exact ⟨_, .configs bus silent strict, rfl⟩
  | said opens' bus one speeds =>
    obtain rfl := opened_unique opens opens'
    exact ⟨_, .speeds bus (.said one) speeds, by simp⟩
  | assumed opens' bus silent lenient speeds =>
    obtain rfl := opened_unique opens opens'
    subst lenient
    exact ⟨_, .speeds bus (.assumed silent) speeds, by simp⟩

/-! ## Independence -/

/-- Nodes that give the same answers to what is looked up have the same speed properties before the first one. -/
theorem partedAtFirst_congr {properties absent rest : List (String × DeviceSpeed)}
    (h : node.PartedAtFirst properties absent rest)
    (same : ∀ p ∈ absent ++ rest.take 1, node'.lookup p.1 = node.lookup p.1) :
    node'.PartedAtFirst properties absent rest := by
  have hhas : ∀ p ∈ absent ++ rest.take 1, (node'.Has p.1 ↔ node.Has p.1) := by
    intro p hp
    unfold DeviceNode.Has
    rw [same p hp]
  refine ⟨h.whole, fun p hp => ?_, fun p hp => ?_⟩
  · rw [hhas p (List.mem_append_left _ hp)]
    exact h.absent p hp
  · have hfirst : p ∈ rest.take 1 := by
      cases rest with
      | nil => cases hp
      | cons q rest =>
        cases hp
        exact List.mem_cons_self
    rw [hhas p (List.mem_append_right _ hfirst)]
    exact h.present p hp

theorem speedSteps_congr {properties : List (String × DeviceSpeed)}
    (same : ∀ p ∈ properties, node'.lookup p.1 = node.lookup p.1) :
    speedSteps node' properties = speedSteps node properties := by
  unfold speedSteps
  refine congrArg _ (List.map_congr_left fun p hp => ?_)
  rw [Reading.take, Reading.take, same p hp]

/-- A resolution is the same for every node that gives the same answers to what was looked up. -/
theorem resolve_congr {names : List String} (opens : tree.openNode path = .ok node) (looked : LooksUp policy node names)
    (opens' : tree'.openNode path = .ok node') (same : ∀ name ∈ names, node'.lookup name = node.lookup name) :
    resolve tree' policy path = resolve tree policy path := by
  have htake : ∀ name ∈ names, Reading.take node' name = Reading.take node name := by
    intro name hn
    rw [Reading.take, Reading.take, same name hn]
  cases looked with
  | bus silent =>
    have silent' : ∀ v, node'.lookup Property.busNumber ≠ .values [v] := by
      rw [same _ List.mem_cons_self]
      exact silent
    rw [(Resolves.noBus opens silent).eq, (Resolves.noBus opens' silent').eq, htake _ List.mem_cons_self]
  | @configs b bus silent strict =>
    have hconfigs : Property.numConfigs ∈ [Property.busNumber, Property.numConfigs] := by simp
    have bus' : node'.lookup Property.busNumber = .values [b] := by rw [same _ List.mem_cons_self, bus]
    have silent' : ∀ v, node'.lookup Property.numConfigs ≠ .values [v] := by
      rw [same _ hconfigs]
      exact silent
    rw [(Resolves.noConfigs opens bus silent strict).eq, (Resolves.noConfigs opens' bus' silent' strict).eq,
      htake _ List.mem_cons_self, htake _ hconfigs]
  | @speeds b c absent rest bus has parted =>
    have hconfigs := same Property.numConfigs (List.mem_cons_of_mem _ List.mem_cons_self)
    have hspeeds : ∀ p ∈ absent ++ rest.take 1, node'.lookup p.1 = node.lookup p.1 := fun p hp =>
      same p.1 (List.mem_cons_of_mem _ (List.mem_cons_of_mem _ (List.mem_map_of_mem hp)))
    have bus' : node'.lookup Property.busNumber = .values [b] := by rw [same _ List.mem_cons_self, bus]
    have parted' := partedAtFirst_congr parted hspeeds
    cases has with
    | said one =>
      rw [(Resolves.said opens bus one parted).eq, (Resolves.said opens' bus' (hconfigs.trans one) parted').eq,
        htake _ List.mem_cons_self, htake _ (List.mem_cons_of_mem _ List.mem_cons_self), speedSteps_congr hspeeds]
    | assumed silent =>
      have silent' : ∀ v, node'.lookup Property.numConfigs ≠ .values [v] := by
        rw [hconfigs]
        exact silent
      rw [(Resolves.assumed opens bus silent rfl parted).eq, (Resolves.assumed opens' bus' silent' rfl parted').eq,
        htake _ List.mem_cons_self, htake _ (List.mem_cons_of_mem _ List.mem_cons_self), speedSteps_congr hspeeds]

end Resolution

open Resolution

/-- However many nodes are resolved and however it ends, at most one session is open at any step, none is open after a
call, and one is opened for each node that opens. A session is opened first and closed last; in between exactly the
properties are looked up that are listed for the node, and a node that gives the same answers to these, whatever else it
holds, has the same resolution. -/
theorem sessions_opened_and_closed (tree : DeviceTree) (policy : NumConfigsPolicy) (paths : List NodePath) :
    (∀ before, before <+: stepsOf tree policy paths → ∃ isOpen,
      ResolutionStep.sessionAfter? false before = some isOpen ∧
      before.count .opened = before.count .closed + isOpen.toNat) ∧
    (stepsOf tree policy paths).count .opened = (paths.countP fun path => (tree.openNode path).toOption.isSome) ∧
    (stepsOf tree policy paths).count .closed = (stepsOf tree policy paths).count .opened ∧
    (∀ path cause, tree.openNode path = .error cause → (resolve tree policy path).steps = []) ∧
    ∀ path node, tree.openNode path = .ok node →
      (∃ between, (resolve tree policy path).steps = .opened :: (between ++ [.closed]) ∧
        .opened ∉ between ∧ .closed ∉ between) ∧
      ∃ names, LooksUp policy node names ∧ (resolve tree policy path).readings = names.map (Reading.take node) ∧
        ∀ tree' node', tree'.openNode path = .ok node' → (∀ name ∈ names, node'.lookup name = node.lookup name) →
          resolve tree' policy path = resolve tree policy path := by
  have hwhole := sessionAfter?_stepsOf tree policy paths
  have hcount := ResolutionStep.count_of_sessionAfter? hwhole
  refine ⟨fun before hp => ?_, count_opened_stepsOf tree policy paths, hcount.symm, fun path cause closed => ?_,
    fun path node opens => ?_⟩
  · obtain ⟨isOpen, hbefore⟩ := ResolutionStep.exists_sessionAfter?_prefix hp hwhole
    exact ⟨isOpen, hbefore, ResolutionStep.count_of_sessionAfter? hbefore⟩
  · rw [(Resolves.unavailable closed).eq]
  · obtain ⟨names, hlooked, hreadings⟩ := exists_looksUp opens policy
    exact ⟨exists_between opens policy, names, hlooked, hreadings, fun tree' node' opens' same =>
      resolve_congr opens hlooked opens' same⟩

end UsbInventory
