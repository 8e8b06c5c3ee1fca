/-
What a walk comes across, as lists in the order of the listings: the groups it goes into, the instances it
sees there, the nodes they lead to and the identities of those nodes. The loops of a pass hand exactly these
nodes to their closure, whatever the closure does, and so register exactly these identities.

The proofs follow the loops: one lemma for an entry, one for a listing by induction, for both levels.
-/
import UsbInventory.Pass.Discovery

namespace UsbInventory

variable {σ γ : Type}

/-! ## Listings -/

namespace Directories

variable {α β : Type}

/-- What becomes of the entries that can be read is what is left of what becomes of all of them. -/
theorem readable_map (f : α → β) : ∀ entries : List (Except FileError α),
    readable (entries.map (Except.map f)) = (readable entries).map f
  | [] => rfl
  | .error _ :: entries => readable_map f entries
  | .ok a :: entries => congrArg (f a :: ·) (readable_map f entries)

/-- Entries come out alike if those do that can be read. -/
theorem map_congr_readable {f g : α → β} {entries : List (Except FileError α)}
    (h : ∀ a ∈ readable entries, f a = g a) : entries.map (Except.map f) = entries.map (Except.map g) := by
  refine List.map_congr_left fun entry hm => ?_
  cases entry with
  | error e => rfl
  | ok a => exact congrArg Except.ok (h a (List.mem_filterMap.2 ⟨.ok a, hm, rfl⟩))

theorem readDir_of_entries {d : Directories} {path : RawPath} {r : Except FileError (List (Except FileError RawPath))}
    (h : d.entries path = r) : d.readDir path = r.map readable := by
  rw [readDir, h]

end Directories

namespace Walk

/-! ## What a walk comes across -/

/-- Whether an entry of the root is a group that the walk goes into: its name matches, and the filters admit
its ids. -/
def takes (w : Walk) (name : RawPath) : Bool :=
  (w.groupName? name).any fun text => admits w.filters text.toList

/-- The path and the entries of a group that can be opened. -/
def openGroup? (w : Walk) (name : RawPath) : Option (BoundedPath × List RawPath) :=
  (Witness.groupPath w.settings name).toOption.bind fun group =>
    (w.directories.readDir group.path).toOption.map fun names => (group, names)

/-- The groups that the walk goes into and can open. -/
def openGroups (w : Walk) (names : List RawPath) : List (BoundedPath × List RawPath) :=
  (names.filter w.takes).filterMap w.openGroup?

/-- The instances of an open group: its entries that are not hidden. -/
def instancesOf (g : BoundedPath × List RawPath) : List (BoundedPath × RawPath) :=
  (g.2.filter fun name => !RawPath.isHidden name).map fun name => (g.1, name)

/-- The instances that the walk sees. -/
def instances (w : Walk) (names : List RawPath) : List (BoundedPath × RawPath) :=
  (w.openGroups names).flatMap instancesOf

/-- The node that an instance leads to. -/
def node? (w : Walk) (i : BoundedPath × RawPath) : Option NodePath :=
  (w.candidate i.1 i.2).toOption.map fun found => found.2.node

/-- The nodes that the instances lead to. -/
def nodes (w : Walk) (names : List RawPath) : List NodePath := (w.instances names).filterMap w.node?

/-- The identities of the nodes. -/
def identities (w : Walk) (names : List RawPath) : List DeviceIdentity :=
  (w.nodes names).filterMap w.identity?

/-! ## One entry at a time -/

theorem instancesOf_cons (group : BoundedPath) (name : RawPath) (names : List RawPath) :
    instancesOf (group, name :: names) = instancesOf (group, [name]) ++ instancesOf (group, names) := by
  unfold instancesOf
  cases h : RawPath.isHidden name <;> simp [h]

theorem instancesOf_singleton (group : BoundedPath) (name : RawPath) :
    instancesOf (group, [name]) = if RawPath.isHidden name then [] else [(group, name)] := by
  unfold instancesOf
  cases h : RawPath.isHidden name <;> simp [h]

theorem openGroups_cons (w : Walk) (name : RawPath) (names : List RawPath) :
    w.openGroups (name :: names) = w.openGroups [name] ++ w.openGroups names := by
  unfold openGroups
  cases h : w.takes name <;> simp [h, List.filterMap_cons]
  cases w.openGroup? name <;> rfl

theorem instances_cons (w : Walk) (name : RawPath) (names : List RawPath) :
    w.instances (name :: names) = w.instances [name] ++ w.instances names := by
  unfold instances
  rw [openGroups_cons, List.flatMap_append]

theorem nodes_cons (w : Walk) (name : RawPath) (names : List RawPath) :
    w.nodes (name :: names) = w.nodes [name] ++ w.nodes names := by
  unfold nodes
  rw [instances_cons, List.filterMap_append]

/-- How one entry of the root is passed: it is left out, counted as skipped, or gone through. -/
theorem passGroup_cases (w : Walk) (emit : NodePath → Progress σ → Progress σ) (p : Progress σ)
    (name : RawPath) :
    (w.takes name = false ∧ w.passGroup emit p name = p) ∨
    (w.takes name = true ∧ w.openGroup? name = none ∧
      w.passGroup emit p name = (p.count fun s => { s with groups := s.groups + 1 }).count
        fun s => { s with groupsSkipped := s.groupsSkipped + 1 }) ∨
    (∃ group names, w.takes name = true ∧ w.openGroup? name = some (group, names) ∧
      w.passGroup emit p name = names.foldl (w.passInstance emit group)
        (p.count fun s => { s with groups := s.groups + 1 })) := by
  unfold passGroup takes openGroup?
  cases w.groupName? name with
  | none => exact .inl ⟨rfl, rfl⟩
  | some text =>
    cases ha : admits w.filters text.toList with
    | false => exact .inl ⟨by simp [ha], by simp [ha]⟩
    | true =>
      cases Witness.groupPath w.settings name with
      | error e => exact .inr (.inl ⟨by simp [ha], rfl, by simp [ha]⟩)
      | ok group =>
        cases hd : w.directories.readDir group.path with
        | error e => exact .inr (.inl ⟨by simp [ha], by simp [Except.toOption, hd], by simp [ha, hd]⟩)
        | ok names =>
          exact .inr (.inr ⟨group, names, by simp [ha], by simp [Except.toOption, hd], by simp [ha, hd]⟩)

theorem openGroups_singleton (w : Walk) (name : RawPath) :
    w.openGroups [name] = if w.takes name then (w.openGroup? name).toList else [] := by
  unfold openGroups
  cases h : w.takes name <;> simp [h, List.filterMap_cons]
  cases w.openGroup? name <;> rfl

/-! ## What the loops emit -/

section Emitted

-- the closure tells its sink the calls `k n` for the node `n`, and may count as it likes
variable {w : Walk} {emit : NodePath → Progress σ → Progress σ} {k : NodePath → List γ} {tell : σ → γ → σ}

theorem passInstance_sink (h : ∀ n p, (emit n p).sink = (k n).foldl tell p.sink) (group : BoundedPath)
    (name : RawPath) (p : Progress σ) :
    (w.passInstance emit group p name).sink =
      (((instancesOf (group, [name])).filterMap w.node?).flatMap k).foldl tell p.sink := by
  rw [instancesOf_singleton]
  unfold passInstance
  split
  · rfl
  · cases hc : w.candidate group name with
    | error e => simp [node?, hc, Except.toOption, Progress.count]
    | ok found => simp [node?, hc, Except.toOption, h, Progress.count]

theorem foldl_passInstance_sink (h : ∀ n p, (emit n p).sink = (k n).foldl tell p.sink) (group : BoundedPath) :
    ∀ (names : List RawPath) (p : Progress σ), (names.foldl (w.passInstance emit group) p).sink =
      (((instancesOf (group, names)).filterMap w.node?).flatMap k).foldl tell p.sink
  | [], _ => rfl
  | name :: names, p => by
    rw [List.foldl_cons, foldl_passInstance_sink h group names, passInstance_sink h,
      instancesOf_cons group name names, List.filterMap_append, List.flatMap_append, List.foldl_append]

theorem passGroup_sink (h : ∀ n p, (emit n p).sink = (k n).foldl tell p.sink) (name : RawPath)
    (p : Progress σ) :
    (w.passGroup emit p name).sink = ((w.nodes [name]).flatMap k).foldl tell p.sink := by
  unfold nodes instances
  rw [openGroups_singleton]
  rcases passGroup_cases w emit p name with ⟨ht, hp⟩ | ⟨ht, ho, hp⟩ | ⟨group, names, ht, ho, hp⟩
  · simp [hp, ht]
  · simp [hp, ht, ho, Progress.count]
  · rw [hp, foldl_passInstance_sink h]
    simp [ht, ho, Progress.count]

theorem foldl_passGroup_sink (h : ∀ n p, (emit n p).sink = (k n).foldl tell p.sink) :
    ∀ (names : List RawPath) (p : Progress σ),
      (names.foldl (w.passGroup emit) p).sink = ((w.nodes names).flatMap k).foldl tell p.sink
  | [], _ => rfl
  | name :: names, p => by
    rw [List.foldl_cons, foldl_passGroup_sink h names, passGroup_sink h, w.nodes_cons name names,
      List.flatMap_append, List.foldl_append]

end Emitted

theorem foldl_concat {α : Type} : ∀ (xs ys : List α), xs.foldl (fun zs x => zs ++ [x]) ys = ys ++ xs
  | [], ys => (List.append_nil ys).symm
  | x :: xs, ys => by rw [List.foldl_cons, foldl_concat xs, List.append_assoc]; rfl

/-- The node paths that a walk emits: what a closure gets that only keeps them. -/
def emitted (w : Walk) : List NodePath :=
  (w.pass (fun node p => { p with sink := p.sink ++ [node] }) { sink := [] }).1.sink

/-- The walk emits the nodes of its instances, each at its place. -/
theorem emitted_eq {w : Walk} {names : List RawPath}
    (hr : w.directories.readDir w.settings.devUsbRoot = .ok names) : w.emitted = w.nodes names := by
  have keeps : ∀ (node : NodePath) (p : Progress (List NodePath)),
      ({ p with sink := p.sink ++ [node] } : Progress _).sink =
        [node].foldl (fun ns n => ns ++ [n]) p.sink := fun _ _ => rfl
  have h := foldl_passGroup_sink (w := w) keeps names { sink := [] }
  rw [List.flatMap_singleton', foldl_concat, List.nil_append] at h
  unfold emitted pass
  rw [hr]
  exact h

/-! ## What a pass registers -/

theorem settle_sink (tell : σ → RegistryCall → σ) (found : Option DeviceIdentity) (p : Progress σ) :
    (p.settle tell found).sink = (found.toList.map RegistryCall.register).foldl tell p.sink := by
  cases found <;> rfl

theorem flatMap_register {α : Type} (f : α → Option DeviceIdentity) : ∀ xs : List α,
    xs.flatMap (fun x => (f x).toList.map RegistryCall.register) = (xs.filterMap f).map RegistryCall.register
  | [] => rfl
  | x :: xs => by
    rw [List.flatMap_cons, flatMap_register f xs, List.filterMap_cons]
    cases f x <;> rfl

/-- The loops tell the registry the identities, each at its place, and nothing else. -/
theorem foldl_passGroup_resolveInto (w : Walk) (tell : σ → RegistryCall → σ) (names : List RawPath)
    (p : Progress σ) :
    (names.foldl (w.passGroup (w.resolveInto tell)) p).sink =
      ((w.identities names).map RegistryCall.register).foldl tell p.sink := by
  have h := foldl_passGroup_sink (w := w) (fun node => settle_sink tell (w.identity? node)) names p
  rw [flatMap_register] at h
  exact h

end Walk

end UsbInventory
