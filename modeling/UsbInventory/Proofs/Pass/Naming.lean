/-
The names that a device has in the device tree, and how a pass reads them back. The bus and the address of a device
are written in decimal into the path of its node; a pass cuts that path out of a resolved witness, reads the address
after the last `@`, and gets everything else from the properties of the node.
-/
import UsbInventory.Backend.Basic
import UsbInventory.Proofs.Number.Decimal
import UsbInventory.Proofs.Pass.Cutting
import UsbInventory.Proofs.Path.Components
import UsbInventory.Proofs.Path.UnitAddress

namespace UsbInventory

namespace AttachedDevice

variable (d : AttachedDevice)

/-! ## Names -/

/-- The group of a device: its ids in hexadecimal. -/
def groupName : String := Text.hex d.vendor.toNat ++ "." ++ Text.hex d.product.toNat

/-- The name of the bus of a device in the device tree. -/
def busName : String := "usb@" ++ toString d.bus.toNat

/-- The name of a device below its bus. -/
def unitName : String := "device@" ++ toString d.address.toNat

theorem busName_toList : d.busName.toList = ['u', 's', 'b', '@'] ++ Nat.toDigits 10 d.bus.toNat := by
  simp [busName, String.toList_append]

theorem unitName_toList :
    d.unitName.toList = ['d', 'e', 'v', 'i', 'c', 'e', '@'] ++ Nat.toDigits 10 d.address.toNat := by
  simp [unitName, String.toList_append]

theorem nodePath_chars : d.nodePath.chars = '/' :: (d.busName.toList ++ '/' :: d.unitName.toList) := by
  have hu : toString "usb@" = "usb@" := rfl
  have hd : toString "/device@" = "/device@" := rfl
  unfold nodePath
  simp [busName_toList, unitName_toList, String.toList_append, hu, hd]

/-- The name of a minor device of a device. -/
def minorName (minor : String) : String := d.unitName ++ ":" ++ minor

end AttachedDevice

/-! ## Unit addresses -/

namespace AttachedDevice

variable (d : AttachedDevice)

theorem address?_nodePath : Resolution.address? d.nodePath = some (d.address.toNat : Int) := by
  have hunit : d.nodePath.unitAddress? = some (Nat.toDigits 10 d.address.toNat) := by
    have hchars : d.nodePath.chars = ('/' :: d.busName.toList ++ ['/', 'd', 'e', 'v', 'i', 'c', 'e']) ++
        '@' :: Nat.toDigits 10 d.address.toNat := by
      simp [nodePath_chars, unitName_toList]
    unfold NodePath.unitAddress?
    rw [hchars]
    exact NodePath.afterLast?_eq_some_iff.2 ⟨_, rfl, Decimal.notMem_toDigits rfl⟩
  have hlimit : (d.address.toNat : Int) ≤ Leading.limit := by
    have := d.address.toNat_lt
    unfold Leading.limit
    omega
  unfold Resolution.address?
  rw [hunit, Option.map_some, Leading.value_toDigits hlimit]

theorem fitByte_toNat (field : String) (b : UInt8) {low : Int} (h : low ≤ (b.toNat : Int)) :
    fitByte field (b.toNat : Int) low = .ok b := by
  have := b.toNat_lt
  unfold fitByte
  rw [if_neg (by omega), Int.toNat_natCast, UInt8.ofNat_toNat]

/-! ## Properties -/

/-- What the node of a device says: its bus and the number of its configurations, each as the one value of a
property, and its speed by the presence of a property; a device of full speed may keep silent about it. -/
structure PropertiesIn (lookup : String → PropLookup) : Prop where
  bus : lookup Property.busNumber = .values [(d.bus.toNat : Int)]
  numConfigs : lookup Property.numConfigs = .values [(d.numConfigs.toNat : Int)]
  speed : ∀ p ∈ Property.speeds, p.2 = DeviceSpeed.ofCode d.speedCode → p.2 ≠ .full → ∃ vs, lookup p.1 = .values vs
  others : ∀ p ∈ Property.speeds, p.2 ≠ DeviceSpeed.ofCode d.speedCode → ∃ cause, lookup p.1 = .absent cause

/-- The first property that is present tells the speed if none of another speed is; full speed needs none. -/
theorem readSpeed_eq {node : DeviceNode} {speed : DeviceSpeed} : ∀ properties : List (String × DeviceSpeed),
    (∀ p ∈ properties, p.2 = speed → p.2 ≠ .full → ∃ vs, node.lookup p.1 = .values vs) →
    (∀ p ∈ properties, p.2 ≠ speed → ∃ cause, node.lookup p.1 = .absent cause) →
    (speed = .full ∨ ∃ p ∈ properties, p.2 = speed) → (readSpeed node properties).2 = speed
  | [], _, _, hs => (hs.resolve_right (by simp)).symm
  | (property, s) :: rest, hp, ha, hs => by
    have ih := readSpeed_eq rest (fun p hm => hp p (List.mem_cons_of_mem _ hm))
      (fun p hm => ha p (List.mem_cons_of_mem _ hm))
    unfold readSpeed
    dsimp only
    split
    · next hpresent =>
      by_cases he : s = speed
      · exact he
      · obtain ⟨cause, hc⟩ := ha (property, s) List.mem_cons_self he
        rw [Reading.take, Reading.outcome, hc] at hpresent
        cases hpresent
    · next habsent =>
      refine ih ?_
      by_cases hf : speed = .full
      · exact .inl hf
      · obtain ⟨p, hm, he⟩ := hs.resolve_left hf
        rcases List.mem_cons.1 hm with rfl | hm
        · obtain ⟨vs, hv⟩ := hp _ List.mem_cons_self he (he ▸ hf)
          rw [Reading.take, Reading.outcome, hv] at habsent
          rcases vs with _ | ⟨v, _ | ⟨v', vs⟩⟩ <;> exact absurd rfl habsent
        · exact .inr ⟨p, hm, he⟩

theorem classifySpeed_eq {node : DeviceNode} (h : d.PropertiesIn node.lookup) :
    (classifySpeed node).2 = DeviceSpeed.ofCode d.speedCode := by
  refine readSpeed_eq Property.speeds h.speed h.others (.inr ?_)
  unfold Property.speeds
  cases DeviceSpeed.ofCode d.speedCode <;> simp

/-- A node that says what it should of a device gives the identity of the device. -/
theorem inspect_eq (policy : NumConfigsPolicy) {node : DeviceNode} (h : d.PropertiesIn node.lookup)
    (configured : 1 ≤ d.numConfigs.toNat) : (Resolution.inspect policy node d.nodePath).2 = .ok d.identity := by
  have hb : (Reading.take node Property.busNumber).outcome.value? = some (d.bus.toNat : Int) := by
    rw [Reading.take, Reading.outcome, h.bus]
    rfl
  have hc : (Reading.take node Property.numConfigs).outcome.value? = some (d.numConfigs.toNat : Int) := by
    rw [Reading.take, Reading.outcome, h.numConfigs]
    rfl
  have hid : Resolution.identity d.nodePath d.bus.toNat d.numConfigs.toNat (DeviceSpeed.ofCode d.speedCode) =
      .ok d.identity := by
    unfold Resolution.identity
    rw [address?_nodePath]
    dsimp only
    rw [fitByte_toNat _ _ (by omega), fitByte_toNat _ _ (by omega), fitByte_toNat _ _ (by omega)]
    rfl
  unfold Resolution.inspect
  simp only [hb, hc]
  rw [← hid, ← d.classifySpeed_eq h]

end AttachedDevice

end UsbInventory
