/-
What the resolver reads off a node. A property counts as a value only where its look-up gives exactly one; an
identity holds the numbers that were read, unchanged; and an open node has a say in its resolution only through what
the look-ups of the named properties mean.
-/
import UsbInventory.Pass.Resolution

namespace UsbInventory

/-! ## Single values -/

theorem IntProperty.value?_ofLookup {answer : PropLookup} {v : Int} :
    (ofLookup answer).value? = some v ↔ answer = .values [v] := by
  cases answer with
  | absent cause => simp [ofLookup, value?]
  | values vs => rcases vs with _ | ⟨u, _ | ⟨u', vs⟩⟩ <;> simp [ofLookup, value?]

/-- What a look-up on a node means. -/
def DeviceNode.property (node : DeviceNode) (name : String) : IntProperty := (Reading.take node name).outcome

theorem DeviceNode.value?_property {node : DeviceNode} {name : String} {v : Int} :
    (node.property name).value? = some v ↔ node.lookup name = .values [v] :=
  IntProperty.value?_ofLookup

/-! ## Bytes -/

/-- What succeeds as a whole has succeeded at its first step. -/
theorem ok_of_bind {ε α β : Type} {x : Except ε α} {f : α → Except ε β} {b : β} (h : x >>= f = .ok b) :
    ∃ a, x = .ok a ∧ f a = .ok b := by
  cases x with
  | error e => cases h
  | ok a => exact ⟨a, rfl, h⟩

theorem fitByte_ok {field : String} {value low : Int} {b : UInt8} (hl : 0 ≤ low) (h : fitByte field value low = .ok b) :
    (b.toNat : Int) = value ∧ low ≤ value ∧ value ≤ 255 := by
  unfold fitByte at h
  split at h
  · cases h
  · cases h
    refine ⟨?_, by omega, by omega⟩
    rw [UInt8.toNat_ofNat_of_lt' (show value.toNat < 256 by omega)]
    omega

namespace Resolution

variable {path : NodePath} {bus numConfigs : Int} {speed : DeviceSpeed} {d : DeviceIdentity}

/-- An identity holds what was read. -/
theorem identity_ok (h : identity path bus numConfigs speed = .ok d) :
    ∃ address, address? path = some address ∧ (d.bus.toNat : Int) = bus ∧ (d.address.toNat : Int) = address ∧
      (d.numConfigs.toNat : Int) = numConfigs ∧ 1 ≤ numConfigs ∧ numConfigs ≤ 255 ∧ d.speed = speed ∧
      d.nodePath = path := by
  unfold identity at h
  cases ha : address? path with
  | none =>
    rw [ha] at h
    cases h
  | some address =>
    rw [ha] at h
    obtain ⟨b, hb, h⟩ := ok_of_bind h
    obtain ⟨a, hd, h⟩ := ok_of_bind h
    obtain ⟨n, hn, h⟩ := ok_of_bind h
    obtain ⟨hbus, -⟩ := fitByte_ok (by decide) hb
    obtain ⟨haddress, -⟩ := fitByte_ok (by decide) hd
    obtain ⟨hconfigs, hlow, hhigh⟩ := fitByte_ok (by decide) hn
    -- the number of configurations is not zero, so it is kept
    have hone : 1 ≤ n := by
      rw [UInt8.le_iff_toNat_le]
      show 1 ≤ n.toNat
      omega
    obtain rfl : DeviceIdentity.ofParts b a n speed path = d := Except.ok.inj h
    rw [DeviceIdentity.ofParts, dif_pos hone]
    exact ⟨address, rfl, hbus, haddress, hconfigs, hlow, hhigh, rfl, rfl⟩

/-! ## Look-ups that count -/

variable {node node' : DeviceNode}

/-- The properties that the resolver may look up. -/
def propertyNames : List String := Property.busNumber :: Property.numConfigs :: Property.speeds.map (·.1)

theorem readSpeed_congr : ∀ properties : List (String × DeviceSpeed),
    (∀ p ∈ properties, node.property p.1 = node'.property p.1) →
    (readSpeed node properties).2 = (readSpeed node' properties).2
  | [], _ => rfl
  | p :: rest, h => by
    have ih := readSpeed_congr rest fun q hq => h q (List.mem_cons_of_mem _ hq)
    have hp : (Reading.take node p.1).outcome = (Reading.take node' p.1).outcome := h p List.mem_cons_self
    unfold readSpeed
    dsimp only
    rw [hp]
    split
    · rfl
    · exact ih

/-- Nodes whose properties mean the same resolve to the same. -/
theorem inspect_congr (h : ∀ name ∈ propertyNames, node.property name = node'.property name)
    (policy : NumConfigsPolicy) (path : NodePath) :
    (inspect policy node path).2 = (inspect policy node' path).2 := by
  have hbus : (Reading.take node Property.busNumber).outcome = (Reading.take node' Property.busNumber).outcome :=
    h _ List.mem_cons_self
  have hconfigs :
      (Reading.take node Property.numConfigs).outcome = (Reading.take node' Property.numConfigs).outcome :=
    h _ (List.mem_cons_of_mem _ List.mem_cons_self)
  have hspeed : (classifySpeed node).2 = (classifySpeed node').2 :=
    readSpeed_congr _ fun p hp => h _ (List.mem_cons_of_mem _ (List.mem_cons_of_mem _ (List.mem_map_of_mem hp)))
  unfold inspect
  dsimp only
  rw [hbus, hconfigs, hspeed]
  cases (Reading.take node' Property.busNumber).outcome.value? with
  | none => rfl
  | some bus => cases (Reading.take node' Property.numConfigs).outcome.value? <;> cases policy <;> rfl

end Resolution

end UsbInventory
