/-
Listings in JSON. The object of an identity stands on one line, whatever characters its node path holds, and it tells
all of the identity. A listing is therefore read line by line, and no other identities have the same one.
-/
import UsbInventory.Proofs.CommandLine.Listing
import UsbInventory.Proofs.Json.Visible
import UsbInventory.Proofs.Settings.Exchange

namespace UsbInventory

/-! ## Identities -/

namespace DeviceIdentity

/-- The names of the fields, in the order in which they are written. -/
def names : List String := ["session_id", "bus_number", "device_address", "num_configs", "speed", "node_path"]

/-- A number of 8 bits. -/
def byteOfJson? (v : Json) : Option UInt8 := (v.toNat? 255).map UInt8.ofNat

/-- An object that tells an identity: its members are the fields, each of them once, and give back the session, the
numbers, the speed and the node path. -/
structure Told (v : Json) (d : DeviceIdentity) : Prop where
  object : ∃ members, v = .object members ∧ members.map (·.1) = names.map fun name => some name.toList
  session : (v.member? "session_id").bind SessionId.ofJson? = some d.session
  bus : (v.member? "bus_number").bind byteOfJson? = some d.bus
  address : (v.member? "device_address").bind byteOfJson? = some d.address
  numConfigs : (v.member? "num_configs").bind byteOfJson? = some d.numConfigs
  speed : (v.member? "speed").bind DeviceSpeed.ofJson? = some d.speed
  nodePath : (v.member? "node_path").bind NodePath.ofJson? = some d.nodePath

/-- One object tells one identity. -/
theorem Told.unique {v : Json} {d e : DeviceIdentity} (hd : Told v d) (he : Told v e) : e = d := by
  have hbus : e.bus = d.bus := Option.some.inj (he.bus.symm.trans hd.bus)
  have haddress : e.address = d.address := Option.some.inj (he.address.symm.trans hd.address)
  have hnumConfigs : e.numConfigs = d.numConfigs := Option.some.inj (he.numConfigs.symm.trans hd.numConfigs)
  have hspeed : e.speed = d.speed := Option.some.inj (he.speed.symm.trans hd.speed)
  have hnodePath : e.nodePath = d.nodePath := Option.some.inj (he.nodePath.symm.trans hd.nodePath)
  cases d
  cases e
  simp_all

theorem byteOfJson?_ofNat (n : UInt8) : byteOfJson? (Json.ofNat n.toNat) = some n := by
  have hbound : n.toNat ≤ 255 := by
    have := n.toNat_lt
    omega
  simp [byteOfJson?, Json.toNat?_ofNat hbound]

/-- The object of an identity tells it. -/
theorem told_toJson (d : DeviceIdentity) : Told d.toJson d := by
  refine ⟨⟨_, rfl, rfl⟩, ?_, ?_, ?_, ?_, ?_, ?_⟩ <;>
    simp [toJson, Json.member?_ofMembers, List.lookup_cons, SessionId.ofJson?_toJson, byteOfJson?_ofNat,
      DeviceSpeed.ofJson?_toJson, NodePath.ofJson?_toJson]

theorem readable_toJson (d : DeviceIdentity) : Json.Readable d.toJson := by
  refine Json.readable_ofMembers fun m hm => ?_
  simp only [List.mem_cons, List.not_mem_nil, or_false] at hm
  rcases hm with rfl | rfl | rfl | rfl | rfl | rfl
  · exact Json.readable_ofNat _
  · exact Json.readable_ofNat _
  · exact Json.readable_ofNat _
  · exact Json.readable_ofNat _
  · exact Json.readable_ofString _
  · exact .string _

end DeviceIdentity

/-! ## Listings -/

namespace DeviceIdentity

/-- Whether a line is an object that tells an identity, and no other one. -/
def ToldBy (line : List Char) (d : DeviceIdentity) : Prop :=
  ∃ v, Json.parseChars line = some v ∧ Told v d ∧ ∀ e, Told v e → e = d

theorem toldBy_line (d : DeviceIdentity) : ToldBy (d.line .json).toList d :=
  ⟨d.toJson, d.readable_toJson.parse_render, d.told_toJson, fun _ => d.told_toJson.unique⟩

/-- One line tells one identity. -/
theorem ToldBy.unique {line : List Char} {d e : DeviceIdentity} (hd : ToldBy line d) (he : ToldBy line e) : e = d := by
  obtain ⟨v, hv, -, honly⟩ := hd
  obtain ⟨w, hw, hwe, -⟩ := he
  obtain rfl : v = w := Option.some.inj (hv.symm.trans hw)
  exact honly e hwe

theorem jsonLine_injective : Function.Injective fun d : DeviceIdentity => (d.line .json).toList := by
  intro d e h
  have he : ToldBy (d.line .json).toList e := by
    rw [show (d.line .json).toList = (e.line .json).toList from h]
    exact e.toldBy_line
  exact (d.toldBy_line.unique he).symm

theorem newline_notMem_jsonLine (d : DeviceIdentity) : '\n' ∉ (d.line .json).toList := by
  rw [line, Json.render, String.toList_ofList]
  exact d.readable_toJson.visible.newline_notMem

end DeviceIdentity

/-- A listing in JSON holds exactly one line for each identity, in their order, and each line is an object that tells
its identity. So no other identities have the same listing. -/
theorem json_listing_tells (devices : List DeviceIdentity) :
    (∃ lines, (OutputFormat.json.listing devices).toList.splitOn '\n' = lines ++ [[]] ∧
      List.Forall₂ DeviceIdentity.ToldBy lines devices) ∧
    ∀ others, OutputFormat.json.listing others = OutputFormat.json.listing devices → others = devices := by
  have hsplit : ∀ printed : List DeviceIdentity, (OutputFormat.json.listing printed).toList.splitOn '\n' =
      printed.map (fun d => (d.line .json).toList) ++ [[]] := fun printed =>
    OutputFormat.splitOn_listing_iff.2 fun d _ => d.newline_notMem_jsonLine
  have htold : List.Forall₂ DeviceIdentity.ToldBy (devices.map fun d => (d.line .json).toList) devices :=
    List.forall₂_map_left_iff.2 (List.forall₂_same.2 fun d _ => d.toldBy_line)
  refine ⟨⟨_, hsplit devices, htold⟩, fun others htext => ?_⟩
  -- the same text has the same lines, and each of them tells one identity only
  have hlines : others.map (fun d => (d.line .json).toList) = devices.map fun d => (d.line .json).toList := by
    have hsame := hsplit others
    rw [htext, hsplit devices] at hsame
    exact (List.append_cancel_right hsame).symm
  exact List.map_injective_iff.2 DeviceIdentity.jsonLine_injective hlines

end UsbInventory
