/-
Whose address a device gets. The last `@` of a node path stands in the lowest name that has one, and the number after
it ends where that name does, so the address is that of this name, whatever stands below it. It is the address of the
leaf where the leaf has an `@`; a leaf without one takes the address of a node above it, and with the bus its session.
-/
import UsbInventory.Proofs.Pass.Counters
import UsbInventory.Proofs.Pass.Verdict

namespace UsbInventory

/-! ## Numbers before a slash -/

namespace Leading

theorem magnitude_append_slash (cs rest : List Char) : magnitude (cs ++ '/' :: rest) = magnitude cs := by
  have hstop : (cs ++ '/' :: rest).takeWhile Char.isDigit = cs.takeWhile Char.isDigit := by
    rw [List.takeWhile_append, List.takeWhile_cons_of_neg (by decide), List.append_nil]
    split
    · next hall => exact ((List.takeWhile_prefix _).eq_of_length hall).symm
    · rfl
  unfold magnitude
  rw [hstop]

/-- A slash ends the number that a text begins with. -/
theorem value_append_slash (cs rest : List Char) : value (cs ++ '/' :: rest) = value cs := by
  unfold value
  rw [List.dropWhile_append]
  cases cs.dropWhile isSkipped with
  | nil => exact magnitude_append_slash [] rest
  | cons c left =>
    rw [List.isEmpty_cons, if_neg Bool.false_ne_true, List.cons_append]
    split
    · next h =>
      obtain ⟨rfl, rfl⟩ := List.cons.inj h
      exact congrArg Neg.neg (magnitude_append_slash left rest)
    · next h =>
      obtain ⟨rfl, rfl⟩ := List.cons.inj h
      exact magnitude_append_slash left rest
    · next hminus hplus =>
      split
      · next h =>
        obtain ⟨rfl, rfl⟩ := List.cons.inj h
        exact absurd rfl (hminus _)
      · next h =>
        obtain ⟨rfl, rfl⟩ := List.cons.inj h
        exact absurd rfl (hplus _)
      · exact magnitude_append_slash (c :: left) rest

end Leading

namespace NodePath

/-! ## Names of a path -/

/-- A name of a path, between the text above it and the text below it. -/
structure NameAt (p : NodePath) (above name below : List Char) : Prop where
  text : p.chars = above ++ '/' :: (name ++ below)
  whole : '/' ∉ name
  ended : ∀ c ∈ below.head?, c = '/'

/-- The leaf of a path: the name after its last slash. -/
def leaf (p : NodePath) : List Char := (afterLast? '/' p.chars).getD []

/-- The number after the last `@` of a name. -/
def AddressIn (name : List Char) (address : Int) : Prop :=
  ∃ before after, name = before ++ '@' :: after ∧ '@' ∉ after ∧ Leading.value after = address

variable {p : NodePath} {above name below : List Char} {address : Int}

theorem AddressIn.marked (h : AddressIn name address) : '@' ∈ name := by
  obtain ⟨before, after, rfl, -⟩ := h
  simp

/-- A text is parted at the last of its marks. -/
theorem exists_last {mark : Char} {cs : List Char} (h : mark ∈ cs) :
    ∃ before after, cs = before ++ mark :: after ∧ mark ∉ after := by
  obtain ⟨after, hafter⟩ := Option.ne_none_iff_exists'.1 fun hnone => afterLast?_eq_none_iff.1 hnone h
  obtain ⟨before, hcs, hlast⟩ := afterLast?_eq_some_iff.1 hafter
  exact ⟨before, after, hcs, hlast⟩

theorem exists_addressIn (h : '@' ∈ name) : ∃ address, AddressIn name address := by
  obtain ⟨before, after, hname, hlast⟩ := exists_last h
  exact ⟨Leading.value after, before, after, hname, hlast, rfl⟩

theorem slash_mem (p : NodePath) : '/' ∈ p.chars := List.mem_of_head? p.absolute

/-- The leaf is the lowest name. -/
theorem exists_nameAt_leaf (p : NodePath) : ∃ above, p.NameAt above p.leaf [] := by
  obtain ⟨above, leaf, htext, hwhole⟩ := exists_last p.slash_mem
  have he : p.leaf = leaf := by rw [NodePath.leaf, afterLast?_eq_some_iff.2 ⟨above, htext, hwhole⟩, Option.getD_some]
  exact ⟨above, by rw [he, List.append_nil, htext], he ▸ hwhole, by simp⟩

/-- The lowest name with an `@`. -/
theorem exists_lowest_marked (h : '@' ∈ p.chars) :
    ∃ above name below, p.NameAt above name below ∧ '@' ∈ name ∧ '@' ∉ below := by
  obtain ⟨before, after, htext, hlast⟩ := exists_last h
  -- the path begins with a slash, so there is one before the mark
  have hslash : '/' ∈ before := by
    have hhead := p.absolute
    rw [htext] at hhead
    cases before with
    | nil => cases hhead
    | cons c before =>
      obtain rfl := Option.some.inj hhead
      exact List.mem_cons_self
  obtain ⟨above, stem, rfl, hwhole⟩ := exists_last hslash
  have hafter : after.takeWhile (· != '/') ++ after.dropWhile (· != '/') = after := List.takeWhile_append_dropWhile
  refine ⟨above, stem ++ '@' :: after.takeWhile (· != '/'), after.dropWhile (· != '/'),
    ⟨?_, ?_, ?_⟩, by simp, ?_⟩
  · rw [htext]
    simp only [List.append_assoc, List.cons_append, hafter]
  · rw [List.mem_append, List.mem_cons, not_or, not_or]
    exact ⟨hwhole, by decide, fun hm => by simpa using List.all_eq_true.1 List.all_takeWhile _ hm⟩
  · intro c hc
    have hstop := List.head?_dropWhile_not (· != '/') after
    rw [Option.mem_def.1 hc] at hstop
    simpa using hstop
  · exact fun hm => hlast (hafter ▸ List.mem_append_right _ hm)

/-! ## Addresses of names -/

/-- The address of a path is that of a name with no mark below it. -/
theorem NameAt.hasAddress (h : p.NameAt above name below) (hbelow : '@' ∉ below) (ha : AddressIn name address) :
    p.HasAddress address := by
  obtain ⟨before, after, rfl, hlast, hvalue⟩ := ha
  refine ⟨above ++ '/' :: before, after ++ below, by rw [h.text]; simp, ?_, ?_⟩
  · rw [List.mem_append, not_or]
    exact ⟨hlast, hbelow⟩
  · cases below with
    | nil => rwa [List.append_nil]
    | cons c rest =>
      obtain rfl := h.ended c rfl
      rwa [Leading.value_append_slash]

theorem NameAt.addressIn (h : p.NameAt above name below) (hname : '@' ∈ name) (hbelow : '@' ∉ below)
    (ha : p.HasAddress address) : AddressIn name address := by
  obtain ⟨address', ha'⟩ := exists_addressIn hname
  rwa [ha.unique (h.hasAddress hbelow ha')]

/-- A path has the address of the node above it if there is no mark below that node. -/
theorem HasAddress.of_above {q : NodePath} (htext : p.chars = q.chars ++ '/' :: below) (hbelow : '@' ∉ below)
    (ha : q.HasAddress address) : p.HasAddress address := by
  obtain ⟨before, after, hq, hlast, hvalue⟩ := ha
  refine ⟨before, after ++ '/' :: below, by rw [htext, hq]; simp, ?_, by rwa [Leading.value_append_slash]⟩
  rw [List.mem_append, List.mem_cons, not_or, not_or]
  exact ⟨hlast, by decide, hbelow⟩

end NodePath

open NodePath

namespace Resolution

variable {tree : DeviceTree} {policy : NumConfigsPolicy} {path : NodePath}

/-- The address of a device is that of its path. -/
theorem hasAddress_of_ok {d : DeviceIdentity} (h : (resolve tree policy path).result = .ok d) :
    path.HasAddress d.address.toNat := by
  obtain ⟨_, _, _, _, hw, hi⟩ := wellFormed_of_ok h
  rw [hi.address]
  exact hw.has_address

/-- A node that says its bus and its number of configurations has no unit address exactly if its path has no mark. -/
theorem noUnitAddress_iff {node : DeviceNode} {bus configs : Int} (opens : tree.openNode path = .ok node)
    (told : node.lookup Property.busNumber = .values [bus]) (has : node.Configs policy configs) :
    (resolve tree policy path).result = .error (.noUnitAddress path.text) ↔ '@' ∉ path.chars := by
  constructor
  · intro h
    obtain ⟨place, hf, -⟩ := firstFault_of_error h
    cases hf with
    | noAddress unmarked => exact unmarked
  · intro hm
    have hfirst : FirstFault tree policy path (.noUnitAddress path.text) :=
      ⟨3, .noAddress hm, not_fault_before opens told has (by omega) (by omega) (by omega) (by omega)⟩
    cases hr : (resolve tree policy path).result with
    | ok d =>
      obtain ⟨before, after, hchars, -⟩ := hasAddress_of_ok hr
      exact absurd (hchars ▸ by simp) hm
    | error e => rw [hfirst.unique (firstFault_of_error hr)]

/-- What it is for the address to be that of the leaf: a device has the number after the last `@` of its leaf, and a
node that says the rest is discarded if its leaf has no `@`. -/
structure AddressOfLeaf (tree : DeviceTree) (policy : NumConfigsPolicy) (path : NodePath) : Prop where
  taken : ∀ d, (resolve tree policy path).result = .ok d → AddressIn path.leaf d.address.toNat
  discarded : ∀ node bus configs, tree.openNode path = .ok node →
    node.lookup Property.busNumber = .values [bus] → node.Configs policy configs → '@' ∉ path.leaf →
    (resolve tree policy path).result = .error (.noUnitAddress path.text)

theorem addressOfLeaf_of_marked (h : '@' ∈ path.leaf) : AddressOfLeaf tree policy path := by
  obtain ⟨above, hleaf⟩ := path.exists_nameAt_leaf
  exact ⟨fun d hd => hleaf.addressIn h List.not_mem_nil (hasAddress_of_ok hd), fun _ _ _ _ _ _ hn => absurd h hn⟩

theorem addressOfLeaf_of_unmarked (h : '@' ∉ path.chars) : AddressOfLeaf tree policy path := by
  refine ⟨fun d hd => ?_, fun _ _ _ opens told has _ => (noUnitAddress_iff opens told has).2 h⟩
  obtain ⟨before, after, hchars, -⟩ := hasAddress_of_ok hd
  exact absurd (hchars ▸ by simp) h

/-- A node that says the rest is not discarded if a name above its leaf has a mark. -/
theorem not_addressOfLeaf_sample (hleaf : '@' ∉ path.leaf) (h : '@' ∈ path.chars) :
    ¬ AddressOfLeaf sampleTree .required path := by
  intro hlaw
  obtain ⟨node, opens, told, one⟩ : ∃ node, sampleTree.openNode path = .ok node ∧
      node.lookup Property.busNumber = .values [1] ∧ node.lookup Property.numConfigs = .values [1] :=
    ⟨_, rfl, rfl, rfl⟩
  have hdiscarded := hlaw.discarded node 1 1 opens told (.said one) hleaf
  exact (noUnitAddress_iff opens told (.said one)).1 hdiscarded h

end Resolution

open Resolution

/-- The address is that of the leaf, in every tree and under every policy, exactly if the leaf has an `@` or no name of
the path has one. In any case it is that of the lowest name with an `@`: a device below such a node with no `@` on the
way has its address, and on the same bus its session. -/
theorem address_of_leaf_iff (path : NodePath) :
    ((∀ tree policy, AddressOfLeaf tree policy path) ↔ '@' ∈ path.leaf ∨ '@' ∉ path.chars) ∧
    ∀ tree policy d, (resolve tree policy path).result = .ok d →
      (∃ above name below, path.NameAt above name below ∧ '@' ∉ below ∧ AddressIn name d.address.toNat) ∧
      ∀ (ancestor : NodePath) (below : List Char) (d' : DeviceIdentity),
        path.chars = ancestor.chars ++ '/' :: below → '@' ∉ below →
        (resolve tree policy ancestor).result = .ok d' →
        d'.address = d.address ∧ (d'.bus = d.bus → d'.session = d.session) := by
  refine ⟨⟨fun hlaw => ?_, ?_⟩, fun tree policy d hd => ⟨?_, ?_⟩⟩
  · by_cases hleaf : '@' ∈ path.leaf
    · exact .inl hleaf
    · exact .inr fun h => not_addressOfLeaf_sample hleaf h (hlaw sampleTree .required)
  · rintro (h | h) tree policy
    · exact addressOfLeaf_of_marked h
    · exact addressOfLeaf_of_unmarked h
  · have ha := hasAddress_of_ok hd
    obtain ⟨above, name, below, hname, hmarked, hbelow⟩ := exists_lowest_marked (AddressIn.marked ha)
    exact ⟨above, name, below, hname, hbelow, hname.addressIn hmarked hbelow ha⟩
  · intro ancestor below d' htext hbelow hd'
    have ha := (hasAddress_of_ok hd').of_above htext hbelow
    have haddress : d'.address = d.address :=
      UInt8.toNat_inj.1 (Int.ofNat_inj.1 (ha.unique (hasAddress_of_ok hd)))
    refine ⟨haddress, fun hbus => ?_⟩
    unfold DeviceIdentity.session
    rw [hbus, haddress]

/-- A keyboard without an address of its own, below a hub. -/
def keyboardPath : NodePath := ⟨"/hub@3/keyboard".toList, by decide⟩

/-- That hub. -/
def hubPath : NodePath := ⟨"/hub@3".toList, by decide⟩

theorem keyboard_takes_address_of_hub : ∃ d d', (resolve sampleTree .required keyboardPath).result = .ok d ∧
    (resolve sampleTree .required hubPath).result = .ok d' ∧ d.address = 3 ∧ d'.address = d.address ∧
    d'.session = d.session := by
  have hkeyboard : (resolve sampleTree .required keyboardPath).result.toOption.map (fun d => (d.bus, d.address)) =
      some (1, 3) := by
    decide +kernel
  have hhub : (resolve sampleTree .required hubPath).result.toOption.map DeviceIdentity.bus = some 1 := by
    decide +kernel
  obtain ⟨d, hd, hparts⟩ := Option.map_eq_some_iff.1 hkeyboard
  obtain ⟨d', hd', hbus⟩ := Option.map_eq_some_iff.1 hhub
  obtain ⟨hbus', haddress⟩ := Prod.mk.inj hparts
  obtain ⟨hsame, hsession⟩ := ((address_of_leaf_iff keyboardPath).2 _ _ d (ok_of_toOption hd)).2 hubPath
    "keyboard".toList d' (by decide) (by decide) (ok_of_toOption hd')
  exact ⟨d, d', ok_of_toOption hd, ok_of_toOption hd', haddress, hsame, hsession (hbus.trans hbus'.symm)⟩

/-- Not every address is that of a leaf: the keyboard gets that of the hub. -/
theorem not_every_address_of_leaf :
    ¬ ∀ (tree : DeviceTree) (policy : NumConfigsPolicy) (path : NodePath), AddressOfLeaf tree policy path := fun h =>
  not_addressOfLeaf_sample (by decide) (by decide) (h sampleTree .required keyboardPath)

end UsbInventory
