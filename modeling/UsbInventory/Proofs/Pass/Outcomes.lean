/-
Everything that can come of a node. It does not open; or it does not say one bus; or it does not say one number of
configurations and the policy wants one; or it is read to its first speed property, and what was read makes the
identity or breaks one of its ranges. `Resolves` says it with all the steps that were taken, so that what holds of
every resolution is shown case by case.
-/
import UsbInventory.Proofs.Pass.Inspection
import UsbInventory.Proofs.Path.UnitAddress

namespace UsbInventory

/-! ## What a node says -/

namespace DeviceNode

/-- A property is there, with any number of values. -/
def Has (node : DeviceNode) (name : String) : Prop := ∃ vs, node.lookup name = .values vs

/-- Properties parted before the first one that a node has. -/
structure PartedAtFirst (node : DeviceNode) (properties absent rest : List (String × DeviceSpeed)) : Prop where
  whole : absent ++ rest = properties
  absent : ∀ p ∈ absent, ¬ node.Has p.1
  present : ∀ p ∈ rest.head?, node.Has p.1

/-- The number of configurations of a node: the one that it says, or else one if the policy is lenient. -/
inductive Configs (node : DeviceNode) : NumConfigsPolicy → Int → Prop where
  | said {policy : NumConfigsPolicy} {c : Int} (one : node.lookup Property.numConfigs = .values [c]) :
      Configs node policy c
  | assumed (silent : ∀ v, node.lookup Property.numConfigs ≠ .values [v]) : Configs node .defaultOne 1

variable {node : DeviceNode} {name : String}

theorem isPresent_iff : (Reading.take node name).outcome.isPresent = true ↔ node.Has name := by
  unfold Reading.outcome Reading.take Has
  cases node.lookup name with
  | absent cause => simp [IntProperty.ofLookup, IntProperty.isPresent]
  | values vs => rcases vs with _ | ⟨v, _ | ⟨v', vs⟩⟩ <;> simp [IntProperty.ofLookup, IntProperty.isPresent]

theorem value?_eq_none_iff : (Reading.take node name).outcome.value? = none ↔ ∀ v, node.lookup name ≠ .values [v] := by
  rw [Option.eq_none_iff_forall_ne_some]
  exact forall_congr' fun v => not_congr value?_property

theorem Configs.unique {policy : NumConfigsPolicy} {c c' : Int} (h : node.Configs policy c)
    (h' : node.Configs policy c') : c = c' := by
  cases h with
  | said one =>
    cases h' with
    | said one' =>
      rw [one] at one'
      cases one'
      rfl
    | assumed silent => exact absurd one (silent _)
  | assumed silent =>
    cases h' with
    | said one => exact absurd one (silent _)
    | assumed => rfl

theorem exists_partedAtFirst (node : DeviceNode) : ∀ properties : List (String × DeviceSpeed),
    ∃ absent rest, node.PartedAtFirst properties absent rest
  | [] => ⟨[], [], rfl, by simp, by simp⟩
  | p :: properties => by
    by_cases hp : node.Has p.1
    · exact ⟨[], p :: properties, rfl, by simp, by simpa using hp⟩
    · obtain ⟨absent, rest, hparted⟩ := exists_partedAtFirst node properties
      refine ⟨p :: absent, rest, by rw [List.cons_append, hparted.whole], fun q hq => ?_, hparted.present⟩
      rcases List.mem_cons.1 hq with rfl | hq
      · exact hp
      · exact hparted.absent q hq

end DeviceNode

/-- The speed of the first property that is left, or full speed. -/
def DeviceSpeed.ofFirst : List (String × DeviceSpeed) → DeviceSpeed
  | [] => .full
  | p :: _ => p.2

namespace Resolution

variable {node : DeviceNode}

/-- The properties up to the first one present are read, and no more. -/
theorem readSpeed_parted : ∀ {properties absent rest : List (String × DeviceSpeed)},
    node.PartedAtFirst properties absent rest → readSpeed node properties =
      ((absent ++ rest.take 1).map fun p => Reading.take node p.1, DeviceSpeed.ofFirst rest)
  | _, [], [], h => by
    obtain rfl := h.whole
    rfl
  | _, [], p :: rest, h => by
    obtain rfl := h.whole
    have hp : node.Has p.1 := h.present p rfl
    rw [List.nil_append, readSpeed]
    dsimp only
    rw [if_pos (DeviceNode.isPresent_iff.2 hp)]
    rfl
  | _, p :: absent, rest, h => by
    obtain rfl := h.whole
    have hp : ¬ node.Has p.1 := h.absent p List.mem_cons_self
    have hrest : node.PartedAtFirst (absent ++ rest) absent rest :=
      ⟨rfl, fun q hq => h.absent q (List.mem_cons_of_mem p hq), h.present⟩
    rw [List.cons_append, readSpeed]
    dsimp only
    rw [if_neg (mt DeviceNode.isPresent_iff.1 hp), readSpeed_parted hrest]
    rfl

/-! ## Resolutions -/

variable {tree : DeviceTree} {policy : NumConfigsPolicy} {path : NodePath}

/-- A path opens one node at most. -/
theorem opened_unique {node node' : DeviceNode} (h : tree.openNode path = .ok node)
    (h' : tree.openNode path = .ok node') : node = node' := Except.ok.inj (h.symm.trans h')

/-- The steps that read a list of speed properties. -/
def speedSteps (node : DeviceNode) (properties : List (String × DeviceSpeed)) : List ResolutionStep :=
  (properties.map fun p => Reading.take node p.1).map .read

/-- What can come of a node. -/
inductive Resolves (tree : DeviceTree) (policy : NumConfigsPolicy) (path : NodePath) : Resolution → Prop where
  | unavailable {cause : FileError} (closed : tree.openNode path = .error cause) :
      Resolves tree policy path ⟨path, [], .error (.nodeUnavailable path.text cause)⟩
  | noBus {node : DeviceNode} (opens : tree.openNode path = .ok node)
      (bus : ∀ v, node.lookup Property.busNumber ≠ .values [v]) :
      Resolves tree policy path ⟨path, [.opened, .read (.take node Property.busNumber), .closed],
        .error (.missingProperty Property.busNumber path.text)⟩
  | noConfigs {node : DeviceNode} {b : Int} (opens : tree.openNode path = .ok node)
      (bus : node.lookup Property.busNumber = .values [b])
      (silent : ∀ v, node.lookup Property.numConfigs ≠ .values [v]) (strict : policy = .required) :
      Resolves tree policy path ⟨path, [.opened, .read (.take node Property.busNumber),
          .read (.take node Property.numConfigs), .closed],
        .error (.missingProperty Property.numConfigs path.text)⟩
  | said {node : DeviceNode} {b c : Int} {absent rest : List (String × DeviceSpeed)}
      (opens : tree.openNode path = .ok node) (bus : node.lookup Property.busNumber = .values [b])
      (one : node.lookup Property.numConfigs = .values [c])
      (speeds : node.PartedAtFirst Property.speeds absent rest) :
      Resolves tree policy path ⟨path, .opened :: .read (.take node Property.busNumber) ::
          .read (.take node Property.numConfigs) :: (speedSteps node (absent ++ rest.take 1) ++ [.closed]),
        identity path b c (.ofFirst rest)⟩
  | assumed {node : DeviceNode} {b : Int} {absent rest : List (String × DeviceSpeed)}
      (opens : tree.openNode path = .ok node) (bus : node.lookup Property.busNumber = .values [b])
      (silent : ∀ v, node.lookup Property.numConfigs ≠ .values [v]) (lenient : policy = .defaultOne)
      (speeds : node.PartedAtFirst Property.speeds absent rest) :
      Resolves tree policy path ⟨path, .opened :: .read (.take node Property.busNumber) ::
          .read (.take node Property.numConfigs) :: .assumedOne ::
          (speedSteps node (absent ++ rest.take 1) ++ [.closed]),
        identity path b 1 (.ofFirst rest)⟩

/-- Nothing else comes of a node than what is listed. -/
theorem Resolves.eq {r : Resolution} (h : Resolves tree policy path r) : resolve tree policy path = r := by
  have hvalue : ∀ {node : DeviceNode} {name : String} {v : Int}, node.lookup name = .values [v] →
      (Reading.take node name).outcome.value? = some v := DeviceNode.value?_property.2
  unfold resolve
  cases h with
  | unavailable closed => rw [closed]
  | noBus opens bus =>
    rw [opens]
    simp only [inspect, DeviceNode.value?_eq_none_iff.2 bus]
    rfl
  | noConfigs opens bus silent strict =>
    subst strict
    rw [opens]
    simp only [inspect, hvalue bus, DeviceNode.value?_eq_none_iff.2 silent]
    rfl
  | said opens bus one speeds =>
    rw [opens]
    simp only [inspect, hvalue bus, hvalue one, classifySpeed, readSpeed_parted speeds]
    rfl
  | assumed opens bus silent lenient speeds =>
    subst lenient
    rw [opens]
    simp only [inspect, hvalue bus, DeviceNode.value?_eq_none_iff.2 silent, classifySpeed, readSpeed_parted speeds]
    rfl

theorem exists_resolves (tree : DeviceTree) (policy : NumConfigsPolicy) (path : NodePath) :
    ∃ r, Resolves tree policy path r := by
  cases opens : tree.openNode path with
  | error cause => exact ⟨_, .unavailable opens⟩
  | ok node =>
    obtain ⟨absent, rest, speeds⟩ := node.exists_partedAtFirst Property.speeds
    by_cases hb : ∃ b, node.lookup Property.busNumber = .values [b]
    · obtain ⟨b, bus⟩ := hb
      by_cases hc : ∃ c, node.lookup Property.numConfigs = .values [c]
      · obtain ⟨c, one⟩ := hc
        exact ⟨_, .said opens bus one speeds⟩
      · have silent := not_exists.1 hc
        cases policy with
        | required => exact ⟨_, .noConfigs opens bus silent rfl⟩
        | defaultOne => exact ⟨_, .assumed opens bus silent rfl speeds⟩
    · exact ⟨_, .noBus opens (not_exists.1 hb)⟩

theorem resolves (tree : DeviceTree) (policy : NumConfigsPolicy) (path : NodePath) :
    Resolves tree policy path (resolve tree policy path) := by
  obtain ⟨r, h⟩ := exists_resolves tree policy path
  rwa [h.eq]

end Resolution

end UsbInventory
