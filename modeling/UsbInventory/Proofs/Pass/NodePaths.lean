/-
The node paths that a walk emits. A witness resolves to a canonical path, and cutting what lies below the device-tree
root before its first colon leaves steps and a stub. The path is canonical unless the name with the first colon begins
with `.:` or `..:` or, below the first level, with the colon itself; such a name is accepted like any other, and the
node `/..` leads out of the snapshot.
-/
import UsbInventory.Proofs.Pass.Counters
import UsbInventory.Proofs.Pass.Cutting
import UsbInventory.Proofs.Path.NodeNames

namespace UsbInventory

open RawPath
open Text.Utf8 (encode)

namespace NodePath

/-! ## Cutting -/

/-- What is left of names whose text is cut before its first colon: the names above the one that is cut, and what
stands before the colon there. Nothing is cut where there is no colon. -/
inductive CutAt : List (List Char) → List (List Char) → List Char → Prop where
  | root : CutAt [] [] []
  | whole {steps : List (List Char)} {last : List Char} (uncut : ∀ name ∈ steps ++ [last], ':' ∉ name) :
      CutAt (steps ++ [last]) steps last
  | colon {steps after : List (List Char)} {stub minor : List Char} (uncut : ∀ name ∈ steps ++ [stub], ':' ∉ name) :
      CutAt (steps ++ (stub ++ ':' :: minor) :: after) steps stub

theorem exists_cutAt : ∀ names : List (List Char), ∃ steps stub, CutAt names steps stub
  | [] => ⟨[], [], .root⟩
  | name :: names => by
    by_cases hc : ':' ∈ name
    · obtain ⟨stub, minor, rfl, hstub⟩ := List.eq_append_cons_of_mem hc
      exact ⟨[], stub, (.colon (by simpa using hstub) : CutAt ([] ++ _) [] stub)⟩
    · have hcons : ∀ {l : List (List Char)}, (∀ n ∈ l, ':' ∉ n) → ∀ n ∈ name :: l, ':' ∉ n := fun h n hn =>
        (List.mem_cons.1 hn).elim (fun he => he ▸ hc) (h n)
      obtain ⟨steps, stub, hcut⟩ := exists_cutAt names
      cases hcut with
      | root => exact ⟨[], name, (.whole (hcons (by simp)) : CutAt ([] ++ [name]) [] name)⟩
      | whole uncut => exact ⟨name :: steps, stub, (.whole (hcons uncut) : CutAt (name :: steps ++ _) _ _)⟩
      | colon uncut => exact ⟨name :: steps, stub, (.colon (hcons uncut) : CutAt (name :: steps ++ _) _ _)⟩

namespace CutAt

variable {names steps : List (List Char)} {stub : List Char}

theorem uncut (h : CutAt names steps stub) : ∀ name ∈ steps ++ [stub], ':' ∉ name := by
  cases h with
  | root => simp
  | whole uncut => exact uncut
  | colon uncut => exact uncut

theorem mem_steps (h : CutAt names steps stub) : ∀ name ∈ steps, name ∈ names := by
  cases h with
  | root => simp
  | whole uncut => exact fun name hn => List.mem_append_left _ hn
  | colon uncut => exact fun name hn => List.mem_append_left _ hn

/-- A slash in the stub would be one in a name. -/
theorem whole_stub (h : CutAt names steps stub) (hwhole : ∀ name ∈ names, '/' ∉ name) : '/' ∉ stub := by
  cases h with
  | root => simp
  | whole uncut => exact hwhole stub (by simp)
  | @colon _ _ _ minor uncut =>
    have := hwhole (stub ++ ':' :: minor) (by simp)
    exact fun hs => this (List.mem_append_left _ hs)

theorem takeWhile_textOf (h : CutAt names steps stub) :
    (textOf names).takeWhile (· != ':') = (steps ++ [stub]).flatMap ('/' :: ·) := by
  have hkept : ∀ c ∈ (steps ++ [stub]).flatMap ('/' :: ·), (c != ':') = true := by
    intro c hc
    obtain ⟨name, hn, hm⟩ := List.mem_flatMap.1 hc
    rw [bne_iff_ne]
    rintro rfl
    exact h.uncut name hn ((List.mem_cons.1 hm).resolve_left (by decide))
  cases h with
  | root => rfl
  | whole uncut =>
    unfold textOf
    rw [if_neg (by simp), List.takeWhile_eq_self_iff]
    exact hkept
  | @colon _ after _ minor uncut =>
    have htext : textOf (steps ++ (stub ++ ':' :: minor) :: after) =
        (steps ++ [stub]).flatMap ('/' :: ·) ++ (':' :: minor ++ after.flatMap ('/' :: ·)) := by
      unfold textOf
      rw [if_neg (by simp)]
      simp
    rw [htext, List.takeWhile_append_of_pos hkept, List.cons_append, List.takeWhile_cons_of_neg (by simp),
      List.append_nil]

end CutAt

end NodePath

open NodePath

/-! ## Resolved witnesses -/

/-- Bytes that are written as names and read as a text are the names of that text. -/
theorem exists_textOf {names : List RawPath} {cs : List Char} (h : ∀ name ∈ names, slash ∉ name)
    (hcs : encode cs = ofPieces names) :
    ∃ below : List (List Char), names = below.map encode ∧ '/' :: cs = textOf below := by
  by_cases hne : names = []
  · subst hne
    have hnil : cs = [] := Text.Utf8.encode_injective (hcs.trans rfl)
    exact ⟨[], rfl, by rw [hnil]; rfl⟩
  · obtain ⟨below, hbelow, htext, hwhole⟩ := exists_names cs
    refine ⟨below, ?_, by rw [htext, textOf, if_neg (by simpa using hbelow)]⟩
    have hbytes : encode (below.flatMap ('/' :: ·)) = names.flatMap (slash :: ·) := by
      rw [← htext, ← slash_ofPieces hne, ← hcs]
      rfl
    have hpieces : ([] : RawPath) :: names = [] :: below.map encode := by
      rw [← pieces_encode hwhole, hbytes]
      exact (pieces_flatMap names [] h).symm
    exact (List.cons.inj hpieces).2

/-- The node path of a resolved witness is what is left of the names below the device-tree root. -/
theorem Witness.written_of_nodeOf {above names : List RawPath} {cut : NodeCut}
    (ha : ∀ name ∈ above, RawPath.IsStep name) (hn : ∀ name ∈ names, RawPath.IsStep name)
    (h : nodeOf (FileSystem.pathOf names) (FileSystem.pathOf above) = .ok cut) :
    ∃ below steps stub, names = above ++ below.map encode ∧ CutAt below steps stub ∧ cut.node.Written steps stub := by
  cases nodeOf_eq_iff.1 h with
  | @node left cs kept node inside text cut chars =>
    obtain ⟨raw, rfl, rfl⟩ := of_stripBase? (components_canonical (isStep_of_mem ha)) (isStep_of_mem hn) inside
    have hraw : ∀ name ∈ raw, RawPath.IsStep name := fun name hm => hn name (List.mem_append_right _ hm)
    obtain ⟨below, rfl, htext⟩ := exists_textOf (fun name hm => (hraw name hm).whole) text
    obtain ⟨steps, stub, hcut⟩ := exists_cutAt below
    have hbelow : ∀ name ∈ below, NodePath.IsStep name := fun name hm =>
      isStep_of_encode (hraw _ (List.mem_map_of_mem hm))
    have hchars : node.chars = (steps ++ [stub]).flatMap ('/' :: ·) := by
      rw [chars, ← cut.takeWhile_slash, htext, hcut.takeWhile_textOf]
    refine ⟨below, steps, stub, rfl, hcut, hchars, fun name hm => ⟨?_, ?_⟩,
      hcut.whole_stub fun name hm => (hbelow name hm).whole, hcut.uncut stub (by simp)⟩
    · exact hbelow name (hcut.mem_steps name hm)
    · exact hcut.uncut name (List.mem_append_left _ hm)

namespace Walk

/-! ## Emitted nodes -/

variable {w : Walk}

theorem candidate_ok {group : BoundedPath} {name resolved : RawPath} {cut : NodeCut}
    (h : w.candidate group name = .ok (resolved, cut)) :
    ∃ witness, Witness.pathOf w.settings group name = .ok witness ∧
      w.directories.canonicalize witness.path = .ok resolved ∧
      Witness.nodeOf resolved w.settings.devicesRoot = .ok cut := by
  unfold candidate at h
  cases hw : Witness.pathOf w.settings group name with
  | error e =>
    rw [hw] at h
    cases h
  | ok witness =>
    rw [hw] at h
    dsimp only at h
    cases hr : w.directories.canonicalize witness.path with
    | error e =>
      rw [hr] at h
      cases h
    | ok found =>
      rw [hr] at h
      dsimp only at h
      cases hn : Witness.nodeOf found w.settings.devicesRoot with
      | error e =>
        rw [hn] at h
        cases h
      | ok node =>
        rw [hn] at h
        cases h
        exact ⟨witness, rfl, hr, hn⟩

/-- An emitted node is that of an instance. -/
theorem candidate_of_mem_emitted {node : NodePath} (h : node ∈ w.emitted) :
    ∃ group name resolved cut, w.candidate group name = .ok (resolved, cut) ∧ cut.node = node := by
  cases hr : w.directories.readDir w.settings.devUsbRoot with
  | error e =>
    have hnone : w.emitted = [] := by
      unfold emitted pass
      rw [hr]
    rw [hnone] at h
    cases h
  | ok names =>
    rw [emitted_eq hr] at h
    obtain ⟨⟨group, name⟩, -, hi⟩ := List.mem_filterMap.1 h
    obtain ⟨⟨resolved, cut⟩, hc, rfl⟩ := Option.map_eq_some_iff.1 hi
    exact ⟨group, name, resolved, cut, ok_of_toOption hc, rfl⟩

/-- Some witness resolves to the given names below the device-tree root. -/
def WitnessAt (w : Walk) (below : List (List Char)) : Prop :=
  ∃ group name witness above, Witness.pathOf w.settings group name = .ok witness ∧
    w.settings.devicesRoot = FileSystem.pathOf above ∧
    w.directories.canonicalize witness.path = .ok (FileSystem.pathOf (above ++ below.map encode))

end Walk

/-- Every emitted node is what cutting leaves of the names that a witness resolves to: steps, and a stub. Only the stub
keeps it from being canonical, and only that of `/..` leads out of a snapshot. -/
theorem emitted_node_canonical_iff {w : Walk} (hd : w.directories.Canonical)
    (hroot : w.settings.devicesRoot.IsCanonical) {node : NodePath} (hm : node ∈ w.emitted) :
    ∃ below steps stub, w.WitnessAt below ∧ CutAt below steps stub ∧ node.Written steps stub ∧ ':' ∉ node.chars ∧
      (node.Canonical ↔ ¬ (stub = ['.'] ∨ stub = ['.', '.'] ∨ stub = [] ∧ steps ≠ [])) ∧
      ∀ snapshot, (Snapshot.nodeDir snapshot node).Inside snapshot ↔ node.chars ≠ ['/', '.', '.'] := by
  obtain ⟨group, name, resolved, cut, hc, rfl⟩ := Walk.candidate_of_mem_emitted hm
  obtain ⟨witness, hw, hr, hn⟩ := Walk.candidate_ok hc
  obtain ⟨above, habove, hsteps⟩ := hroot
  obtain ⟨names, rfl, hnames⟩ := hd _ _ hr
  rw [habove] at hn
  obtain ⟨below, steps, stub, rfl, hcut, hwritten⟩ := Witness.written_of_nodeOf hsteps hnames hn
  exact ⟨below, steps, stub, ⟨group, name, witness, above, hw, habove, hr⟩, hcut, hwritten, hwritten.no_colon,
    hwritten.canonical_iff, hwritten.inside_iff⟩

/-- A namespace in which one witness leads to a device, and two lead to files whose names begin with `..:`. -/
def climbingFiles : FileSystem :=
  let instanceOf (minor : String) : Entry :=
    .directory [(RawPath.ofString "devstat", .link (RawPath.ofString ("/devices/" ++ minor)))]
  let group : Entry := .directory
    [(RawPath.ofString "0", instanceOf "device@2/..:x"), (RawPath.ofString "1", instanceOf "..:x"),
      (RawPath.ofString "2", instanceOf "hub@1/device@2:x")]
  let devices : Entry := .directory
    [(RawPath.ofString "device@2", .directory [(RawPath.ofString "..:x", .file [])]),
      (RawPath.ofString "..:x", .file []),
      (RawPath.ofString "hub@1", .directory [(RawPath.ofString "device@2:x", .file [])])]
  ⟨.directory
    [(RawPath.ofString "dev", .directory [(RawPath.ofString "usb", .directory [(RawPath.ofString "a12.1", group)])]),
      (RawPath.ofString "devices", devices)], []⟩

theorem climbingFiles_canonical : climbingFiles.directories.Canonical :=
  FileSystem.Named.canonical (by decide +kernel) fun _ hn => by cases hn

theorem default_devicesRoot_canonical : ({ } : DiscoverySettings).devicesRoot.IsCanonical :=
  ⟨[RawPath.ofString "devices"], by decide +kernel, fun name hn => by
    obtain rfl := List.mem_singleton.1 hn
    exact isStep_of_isComponent (by decide +kernel) (by decide +kernel) (by decide +kernel)⟩

theorem climbingFiles_emitted : ∃ w, Walk.ofSettings {} climbingFiles.directories sampleTree = .ok w ∧
    w.emitted.map NodePath.text = ["/device@2/..", "/..", "/hub@1/device@2"] := by
  have h : ((Walk.ofSettings {} climbingFiles.directories sampleTree).toOption.map fun w =>
      w.emitted.map NodePath.text) = some ["/device@2/..", "/..", "/hub@1/device@2"] := by
    decide +kernel
  obtain ⟨w, hw, he⟩ := Option.map_eq_some_iff.1 h
  exact ⟨w, ok_of_toOption hw, he⟩

/-- A stub `..` below the first level: the node is not canonical, and its directory is still inside a snapshot. -/
theorem climbing_node_written :
    climbingFiles.directories.Canonical ∧ ({ } : DiscoverySettings).devicesRoot.IsCanonical ∧
    ∃ w node below steps, Walk.ofSettings {} climbingFiles.directories sampleTree = .ok w ∧ node ∈ w.emitted ∧
      node.text = "/device@2/.." ∧ w.WitnessAt below ∧ CutAt below steps ['.', '.'] ∧ ¬ node.Canonical ∧
      ∀ snapshot, (Snapshot.nodeDir snapshot node).Inside snapshot := by
  obtain ⟨w, hw, hemitted⟩ := climbingFiles_emitted
  obtain ⟨node, hm, htext⟩ : ∃ node ∈ w.emitted, node.text = "/device@2/.." := by
    rw [← List.mem_map, hemitted]
    exact List.mem_cons_self
  have hchars : node.chars = "/device@2/..".toList := by rw [← htext, NodePath.text, String.toList_ofList]
  refine ⟨climbingFiles_canonical, default_devicesRoot_canonical, w, node, ?_⟩
  obtain ⟨pattern, -, rfl⟩ := Walk.ofSettings_ok hw
  obtain ⟨below, steps, stub, hwitness, hcut, hwritten, -, hcanonical, hinside⟩ :=
    emitted_node_canonical_iff climbingFiles_canonical default_devicesRoot_canonical hm
  have hnames : steps ++ [stub] = ["device@2".toList] ++ ["..".toList] :=
    names_inj hwritten.whole_of_mem (by decide) (by rw [← hwritten.text, hchars]; decide)
  obtain rfl : stub = ['.', '.'] := List.singleton_inj.1 (List.append_inj_right' hnames rfl)
  exact ⟨below, steps, hw, hm, htext, hwitness, hcut, fun h => hcanonical.1 h (.inr (.inl rfl)), fun snapshot =>
    (hinside snapshot).2 (by rw [hchars]; decide)⟩

/-- Not every node that a walk emits is canonical and inside the snapshot. -/
theorem not_every_node_canonical :
    ¬ ∀ (fs : FileSystem) (settings : DiscoverySettings) (tree : DeviceTree) (w : Walk), fs.directories.Canonical →
        settings.devicesRoot.IsCanonical → Walk.ofSettings settings fs.directories tree = .ok w →
        ∀ node ∈ w.emitted, node.Canonical ∧ ∀ snapshot, (Snapshot.nodeDir snapshot node).Inside snapshot := by
  intro h
  obtain ⟨w, hw, hemitted⟩ := climbingFiles_emitted
  obtain ⟨node, hm, htext⟩ : ∃ node ∈ w.emitted, node.text = "/.." := by
    rw [← List.mem_map, hemitted]
    exact List.mem_cons_of_mem _ List.mem_cons_self
  have hchars : node.chars = "/..".toList := by rw [← htext, NodePath.text, String.toList_ofList]
  have hwritten : node.Written [] ['.', '.'] := ⟨hchars, by simp, by decide, by decide⟩
  have hinside := (h climbingFiles {} sampleTree w climbingFiles_canonical default_devicesRoot_canonical hw node hm).2
  exact (hwritten.inside_iff []).1 (hinside []) hchars

end UsbInventory
