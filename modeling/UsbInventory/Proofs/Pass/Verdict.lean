/-
Which nodes make an identity, and which fault keeps the others from it. A node is accepted exactly if it opens, says one
bus and a number of configurations, has an address, and these are in their ranges; the identity holds the numbers
unchanged, so a session identifier stands for one bus and one address. The faults of a node stand in an order, each said
without the others, and the error is the first that applies.
-/
import UsbInventory.Proofs.Pass.Outcomes

namespace UsbInventory

/-! ## Numbers of an identity -/

theorem fitByte_of_fits (field : String) {value low : Int} (hl : low ≤ value) (hh : value ≤ 255) :
    fitByte field value low = .ok (UInt8.ofNat value.toNat) := if_neg (by omega)

theorem fitByte_of_unfit (field : String) {value low : Int} (h : value < low ∨ 255 < value) :
    fitByte field value low = .error (.outOfRange field value low 255) := if_pos h

/-- A session identifier is the bus and the address as the digits of one number. -/
theorem SessionId.toNat_ofParts (bus address : UInt8) :
    (SessionId.ofParts bus address).value.toNat = 256 * bus.toNat + address.toNat := by
  have hb := bus.toNat_lt
  have ha := address.toNat_lt
  have hshift : bus.toNat <<< 8 = 2 ^ 8 * bus.toNat := by rw [Nat.shiftLeft_eq, Nat.mul_comm]
  unfold ofParts
  simp only [UInt64.toNat_or, UInt64.toNat_shiftLeft, UInt8.toNat_toUInt64]
  show bus.toNat <<< 8 % 2 ^ 64 ||| address.toNat = _
  rw [hshift, Nat.mod_eq_of_lt (by omega), ← Nat.two_pow_add_eq_or_of_lt ha]

namespace Resolution

variable {tree : DeviceTree} {policy : NumConfigsPolicy} {path : NodePath}

/-! ## Accepted nodes -/

/-- A node that makes an identity of a bus, an address and a number of configurations. -/
structure WellFormed (tree : DeviceTree) (policy : NumConfigsPolicy) (path : NodePath) (node : DeviceNode)
    (bus address configs : Int) : Prop where
  opens : tree.openNode path = .ok node
  says_bus : node.lookup Property.busNumber = .values [bus]
  bus_fits : 0 ≤ bus ∧ bus ≤ 255
  has_address : path.HasAddress address
  address_fits : 0 ≤ address ∧ address ≤ 255
  has_configs : node.Configs policy configs
  configs_fit : 1 ≤ configs ∧ configs ≤ 255

/-- The identity of a node that says these numbers. -/
structure Identifies (d : DeviceIdentity) (path : NodePath) (node : DeviceNode) (bus address configs : Int) :
    Prop where
  bus : (d.bus.toNat : Int) = bus
  address : (d.address.toNat : Int) = address
  configs : (d.numConfigs.toNat : Int) = configs
  session : (d.session.value.toNat : Int) = 256 * (d.bus.toNat : Int) + (d.address.toNat : Int)
  speed : ∃ absent rest, node.PartedAtFirst Property.speeds absent rest ∧ d.speed = .ofFirst rest
  nodePath : d.nodePath = path

/-- There is one identity of a node that says these numbers. -/
theorem Identifies.unique {d d' : DeviceIdentity} {node : DeviceNode} {bus address configs : Int}
    (h : Identifies d path node bus address configs) (h' : Identifies d' path node bus address configs) : d = d' := by
  have hbus : d.bus = d'.bus := UInt8.toNat_inj.1 (by have := h.bus; have := h'.bus; omega)
  have haddress : d.address = d'.address := UInt8.toNat_inj.1 (by have := h.address; have := h'.address; omega)
  have hconfigs : d.numConfigs = d'.numConfigs :=
    UInt8.toNat_inj.1 (by have := h.configs; have := h'.configs; omega)
  have hspeed : d.speed = d'.speed := by
    obtain ⟨absent, rest, hparted, hs⟩ := h.speed
    obtain ⟨absent', rest', hparted', hs'⟩ := h'.speed
    rw [hs, hs']
    exact (Prod.mk.inj ((readSpeed_parted hparted).symm.trans (readSpeed_parted hparted'))).2
  have hpath : d.nodePath = d'.nodePath := h.nodePath.trans h'.nodePath.symm
  cases d
  cases d'
  simp_all

/-! ## Faults -/

/-- The faults of a node, each with its place in the order in which they are reported. -/
inductive Fault (tree : DeviceTree) (policy : NumConfigsPolicy) (path : NodePath) : Nat → IdentityError → Prop where
  | unavailable {cause : FileError} (closed : tree.openNode path = .error cause) :
      Fault tree policy path 0 (.nodeUnavailable path.text cause)
  | noBus {node : DeviceNode} (opens : tree.openNode path = .ok node)
      (silent : ∀ v, node.lookup Property.busNumber ≠ .values [v]) :
      Fault tree policy path 1 (.missingProperty Property.busNumber path.text)
  | noConfigs {node : DeviceNode} (opens : tree.openNode path = .ok node) (strict : policy = .required)
      (silent : ∀ v, node.lookup Property.numConfigs ≠ .values [v]) :
      Fault tree policy path 2 (.missingProperty Property.numConfigs path.text)
  | noAddress (unmarked : '@' ∉ path.chars) : Fault tree policy path 3 (.noUnitAddress path.text)
  | bus {node : DeviceNode} {b : Int} (opens : tree.openNode path = .ok node)
      (told : node.lookup Property.busNumber = .values [b]) (unfit : b < 0 ∨ 255 < b) :
      Fault tree policy path 4 (.outOfRange "bus_number" b 0 255)
  | address {a : Int} (has : path.HasAddress a) (unfit : a < 0 ∨ 255 < a) :
      Fault tree policy path 5 (.outOfRange "device_address" a 0 255)
  | configs {node : DeviceNode} {c : Int} (opens : tree.openNode path = .ok node) (has : node.Configs policy c)
      (unfit : c < 1 ∨ 255 < c) : Fault tree policy path 6 (.outOfRange "num_configs" c 1 255)

/-- The fault that has no other before it. -/
def FirstFault (tree : DeviceTree) (policy : NumConfigsPolicy) (path : NodePath) (e : IdentityError) : Prop :=
  ∃ place, Fault tree policy path place e ∧ ∀ earlier < place, ∀ e', ¬ Fault tree policy path earlier e'

/-- At each place there is one fault at most. -/
theorem Fault.unique {place : Nat} {e e' : IdentityError} (h : Fault tree policy path place e)
    (h' : Fault tree policy path place e') : e = e' := by
  cases h with
  | unavailable closed =>
    cases h' with
    | unavailable closed' =>
      rw [closed] at closed'
      cases closed'
      rfl
  | noBus => cases h'; rfl
  | noConfigs => cases h'; rfl
  | noAddress => cases h'; rfl
  | bus opens told =>
    cases h' with
    | bus opens' told' =>
      obtain rfl := opened_unique opens opens'
      rw [told] at told'
      cases told'
      rfl
  | address has =>
    cases h' with
    | address has' => rw [has.unique has']
  | configs opens has =>
    cases h' with
    | configs opens' has' =>
      obtain rfl := opened_unique opens opens'
      rw [has.unique has']

theorem FirstFault.unique {e e' : IdentityError} (h : FirstFault tree policy path e)
    (h' : FirstFault tree policy path e') : e = e' := by
  obtain ⟨place, hf, hfirst⟩ := h
  obtain ⟨place', hf', hfirst'⟩ := h'
  rcases Nat.lt_trichotomy place place' with hlt | rfl | hlt
  · exact absurd hf (hfirst' place hlt e)
  · exact hf.unique hf'
  · exact absurd hf' (hfirst place' hlt e')

section Read

variable {node : DeviceNode} {bus configs : Int} {place : Nat} {e : IdentityError}

/-- A node that opens and says its bus and its number of configurations has no fault before a place if the checks
before that place are passed. -/
theorem not_fault_before (opens : tree.openNode path = .ok node) (told : node.lookup Property.busNumber = .values [bus])
    (has : node.Configs policy configs) (marked : 3 < place → '@' ∈ path.chars)
    (bus_fits : 4 < place → 0 ≤ bus ∧ bus ≤ 255)
    (address_fits : 5 < place → ∀ address, path.HasAddress address → 0 ≤ address ∧ address ≤ 255)
    (configs_fit : 6 < place → 1 ≤ configs ∧ configs ≤ 255) :
    ∀ earlier < place, ∀ e, ¬ Fault tree policy path earlier e := by
  intro earlier hp e hf
  cases hf with
  | unavailable closed =>
    rw [closed] at opens
    cases opens
  | noBus opens' silent =>
    obtain rfl := opened_unique opens opens'
    exact silent bus told
  | noConfigs opens' strict silent =>
    obtain rfl := opened_unique opens opens'
    subst strict
    cases has with
    | said one => exact silent configs one
  | noAddress unmarked => exact unmarked (marked hp)
  | @bus _ b opens' told' unfit =>
    obtain rfl := opened_unique opens opens'
    obtain rfl : bus = b := by simpa using told.symm.trans told'
    have := bus_fits hp
    omega
  | address has' unfit =>
    have := address_fits hp _ has'
    omega
  | configs opens' has' unfit =>
    obtain rfl := opened_unique opens opens'
    obtain rfl := has.unique has'
    have := configs_fit hp
    omega

theorem WellFormed.not_fault {address : Int} (h : WellFormed tree policy path node bus address configs) :
    ¬ Fault tree policy path place e := by
  intro hf
  have hplace : place < 7 := by cases hf <;> decide
  have hmarked : '@' ∈ path.chars := by
    obtain ⟨before, after, hchars, -⟩ := h.has_address
    simp [hchars]
  refine not_fault_before h.opens h.says_bus h.has_configs (fun _ => hmarked) (fun _ => h.bus_fits) ?_
    (fun _ => h.configs_fit) place hplace e hf
  rintro - a ha
  rw [← h.has_address.unique ha]
  exact h.address_fits

/-! ## The identity of a node that was read -/

theorem address?_of_marked (h : '@' ∈ path.chars) : ∃ address, address? path = some address := by
  rw [← Option.ne_none_iff_exists']
  exact fun hnone => address?_eq_none_iff.1 hnone h

theorem identifies_of_identity {d : DeviceIdentity} {absent rest : List (String × DeviceSpeed)}
    (speeds : node.PartedAtFirst Property.speeds absent rest)
    (h : identity path bus configs (.ofFirst rest) = .ok d) :
    ∃ address, path.HasAddress address ∧ (0 ≤ bus ∧ bus ≤ 255) ∧ (0 ≤ address ∧ address ≤ 255) ∧
      (1 ≤ configs ∧ configs ≤ 255) ∧ Identifies d path node bus address configs := by
  obtain ⟨address, ha, hbus, haddress, hconfigs, hlow, hhigh, hspeed, hpath⟩ := identity_ok h
  have hb := d.bus.toNat_lt
  have hd := d.address.toNat_lt
  have hsession := SessionId.toNat_ofParts d.bus d.address
  refine ⟨address, address?_eq_some_iff.1 ha, by omega, by omega, ⟨hlow, hhigh⟩, hbus, haddress, hconfigs, ?_,
    ⟨absent, rest, speeds, hspeed⟩, hpath⟩
  unfold DeviceIdentity.session
  omega

/-- What was read is checked in the order of the faults. -/
theorem firstFault_of_identity {speed : DeviceSpeed} (opens : tree.openNode path = .ok node)
    (told : node.lookup Property.busNumber = .values [bus]) (has : node.Configs policy configs)
    (h : identity path bus configs speed = .error e) : FirstFault tree policy path e := by
  unfold identity at h
  by_cases hm : '@' ∈ path.chars
  · obtain ⟨address, ha⟩ := address?_of_marked hm
    have haddress := address?_eq_some_iff.1 ha
    rw [ha] at h
    dsimp only at h
    by_cases hb : bus < 0 ∨ 255 < bus
    · rw [fitByte_of_unfit _ hb] at h
      cases h
      exact ⟨4, .bus opens told hb, not_fault_before opens told has (fun _ => hm) (by omega) (by omega) (by omega)⟩
    have hb' : 0 ≤ bus ∧ bus ≤ 255 := by omega
    rw [fitByte_of_fits _ hb'.1 hb'.2] at h
    by_cases hd : address < 0 ∨ 255 < address
    · rw [fitByte_of_unfit _ hd] at h
      cases h
      exact ⟨5, .address haddress hd,
        not_fault_before opens told has (fun _ => hm) (fun _ => hb') (by omega) (by omega)⟩
    have hd' : 0 ≤ address ∧ address ≤ 255 := by omega
    rw [fitByte_of_fits _ hd'.1 hd'.2] at h
    by_cases hc : configs < 1 ∨ 255 < configs
    · rw [fitByte_of_unfit _ hc] at h
      cases h
      exact ⟨6, .configs opens has hc, not_fault_before opens told has (fun _ => hm) (fun _ => hb')
        (fun _ a ha' => haddress.unique ha' ▸ hd') (by omega)⟩
    rw [fitByte_of_fits _ (by omega) (by omega)] at h
    cases h
  · rw [address?_eq_none_iff.2 hm] at h
    cases h
    exact ⟨3, .noAddress hm, not_fault_before opens told has (by omega) (by omega) (by omega) (by omega)⟩

end Read

/-! ## Verdicts -/

theorem wellFormed_of_ok {d : DeviceIdentity} (h : (resolve tree policy path).result = .ok d) :
    ∃ node bus address configs, WellFormed tree policy path node bus address configs ∧
      Identifies d path node bus address configs := by
  have hr := resolves tree policy path
  generalize resolve tree policy path = r at h hr
  cases hr with
  | unavailable => cases h
  | noBus => cases h
  | noConfigs => cases h
  | said opens bus one speeds =>
    obtain ⟨address, ha, hb, hd, hc, hi⟩ := identifies_of_identity speeds h
    exact ⟨_, _, address, _, ⟨opens, bus, hb, ha, hd, .said one, hc⟩, hi⟩
  | assumed opens bus silent lenient speeds =>
    subst lenient
    obtain ⟨address, ha, hb, hd, hc, hi⟩ := identifies_of_identity speeds h
    exact ⟨_, _, address, _, ⟨opens, bus, hb, ha, hd, .assumed silent, hc⟩, hi⟩

theorem firstFault_of_error {e : IdentityError} (h : (resolve tree policy path).result = .error e) :
    FirstFault tree policy path e := by
  have hr := resolves tree policy path
  generalize resolve tree policy path = r at h hr
  cases hr with
  | unavailable closed =>
    cases h
    exact ⟨0, .unavailable closed, by simp⟩
  | noBus opens bus =>
    cases h
    refine ⟨1, .noBus opens bus, fun earlier hp e' hf => ?_⟩
    cases hf with
    | unavailable closed =>
      rw [closed] at opens
      cases opens
    | _ => omega
  | noConfigs opens bus silent strict =>
    cases h
    refine ⟨2, .noConfigs opens strict silent, fun earlier hp e' hf => ?_⟩
    cases hf with
    | unavailable closed =>
      rw [closed] at opens
      cases opens
    | noBus opens' silent' =>
      obtain rfl := opened_unique opens opens'
      exact silent' _ bus
    | _ => omega
  | said opens bus one speeds => exact firstFault_of_identity opens bus (.said one) h
  | assumed opens bus silent lenient speeds =>
    subst lenient
    exact firstFault_of_identity opens bus (.assumed silent) h

theorem exists_ok {node : DeviceNode} {bus address configs : Int}
    (h : WellFormed tree policy path node bus address configs) : ∃ d, (resolve tree policy path).result = .ok d := by
  cases hr : (resolve tree policy path).result with
  | ok d => exact ⟨d, rfl⟩
  | error e =>
    obtain ⟨place, hf, -⟩ := firstFault_of_error hr
    exact absurd hf h.not_fault

theorem WellFormed.unique {node node' : DeviceNode} {bus address configs bus' address' configs' : Int}
    (h : WellFormed tree policy path node bus address configs)
    (h' : WellFormed tree policy path node' bus' address' configs') :
    node = node' ∧ bus = bus' ∧ address = address' ∧ configs = configs' := by
  obtain rfl := opened_unique h.opens h'.opens
  refine ⟨rfl, ?_, h.has_address.unique h'.has_address, h.has_configs.unique h'.has_configs⟩
  simpa using h.says_bus.symm.trans h'.says_bus

end Resolution

open Resolution

/-- A node makes an identity exactly if it is well formed, and then that of the integers that it says, none of them
cut; otherwise the error is its first fault. Identities of equal sessions come from equal integers. -/
theorem node_accepted_iff_wellFormed (tree : DeviceTree) (policy : NumConfigsPolicy) (path : NodePath) :
    (∀ d, (resolve tree policy path).result = .ok d ↔
      ∃ node bus address configs, WellFormed tree policy path node bus address configs ∧
        Identifies d path node bus address configs) ∧
    (∀ e, (resolve tree policy path).result = .error e ↔ FirstFault tree policy path e) ∧
    ∀ (tree' : DeviceTree) (policy' : NumConfigsPolicy) (path' : NodePath) (d d' : DeviceIdentity),
      (resolve tree policy path).result = .ok d → (resolve tree' policy' path').result = .ok d' →
      d.session = d'.session → ∃ node node' bus address configs configs',
        WellFormed tree policy path node bus address configs ∧
        WellFormed tree' policy' path' node' bus address configs' := by
  refine ⟨fun d => ⟨wellFormed_of_ok, ?_⟩, fun e => ⟨firstFault_of_error, ?_⟩, ?_⟩
  · rintro ⟨node, bus, address, configs, hw, hi⟩
    obtain ⟨d', hd'⟩ := exists_ok hw
    obtain ⟨_, _, _, _, hw', hi'⟩ := wellFormed_of_ok hd'
    obtain ⟨rfl, rfl, rfl, rfl⟩ := hw.unique hw'
    rw [hi.unique hi', hd']
  · intro hfirst
    cases hr : (resolve tree policy path).result with
    | ok d =>
      obtain ⟨_, _, _, _, hw, -⟩ := wellFormed_of_ok hr
      obtain ⟨place, hf, -⟩ := hfirst
      exact absurd hf hw.not_fault
    | error e' => rw [hfirst.unique (firstFault_of_error hr)]
  · intro tree' policy' path' d d' hd hd' hs
    obtain ⟨node, bus, address, configs, hw, hi⟩ := wellFormed_of_ok hd
    obtain ⟨node', bus', address', configs', hw', hi'⟩ := wellFormed_of_ok hd'
    -- the address is the last digit of the session to the base 256
    have hsession := hi.session
    rw [hs, hi'.session, hi.bus, hi.address, hi'.bus, hi'.address] at hsession
    have ha := hw.address_fits
    have ha' := hw'.address_fits
    obtain rfl : bus = bus' := by omega
    obtain rfl : address = address' := by omega
    exact ⟨node, node', bus, address, configs, configs', hw, hw'⟩

end UsbInventory
