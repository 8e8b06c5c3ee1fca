/-
A pass over the device namespace as it runs: two nested loops that count what they meet, hand every node to
the resolver, and tell the registry about an identity as soon as there is one. An entry that cannot be read is
passed over without a count. A registry takes calls and gives nothing back, so it may be of any type.
-/
import UsbInventory.Pass.Registry
import UsbInventory.Pass.Walk

namespace UsbInventory

variable {σ : Type}

namespace Walk

/-! ## The loops -/

/-- Passes one entry of a group; an instance that leads to a node hands it to `emit`. -/
def passInstance (w : Walk) (emit : NodePath → Progress σ → Progress σ) (group : BoundedPath)
    (p : Progress σ) (name : RawPath) : Progress σ :=
  if RawPath.isHidden name then p
  else
    let seen := p.count fun s => { s with instances := s.instances + 1 }
    match w.candidate group name with
    | .ok (_, cut) => emit cut.node seen
    | .error _ => seen.count fun s => { s with instancesSkipped := s.instancesSkipped + 1 }

/-- Passes one entry of the root, and every entry of the group if it is one. -/
def passGroup (w : Walk) (emit : NodePath → Progress σ → Progress σ) (p : Progress σ)
    (name : RawPath) : Progress σ :=
  match w.groupName? name with
  | none => p
  | some text =>
    if !admits w.filters text.toList then p
    else
      let seen := p.count fun s => { s with groups := s.groups + 1 }
      let skipped := seen.count fun s => { s with groupsSkipped := s.groupsSkipped + 1 }
      match Witness.groupPath w.settings name with
      | .error _ => skipped
      | .ok group =>
        match w.directories.readDir group.path with
        | .error _ => skipped
        | .ok names => names.foldl (w.passInstance emit group) seen

/-- Passes every entry of the root. -/
def pass (w : Walk) (emit : NodePath → Progress σ → Progress σ) (p : Progress σ) :
    Progress σ × Except DiscoveryError Unit :=
  match w.directories.readDir w.settings.devUsbRoot with
  | .error e => (p, .error (.rootUnreadable w.settings.devUsbRoot e))
  | .ok names => (names.foldl (w.passGroup emit) p, .ok ())

/-- The identity that the resolver gives a node. -/
def identity? (w : Walk) (node : NodePath) : Option DeviceIdentity :=
  (Resolution.resolve w.tree w.settings.numConfigsPolicy node).result.toOption

/-- Hands a node to the resolver, and an identity to the registry. -/
def resolveInto (w : Walk) (tell : σ → RegistryCall → σ) (node : NodePath) (p : Progress σ) :
    Progress σ :=
  p.settle tell (w.identity? node)

end Walk

/-! ## Passes -/

/-- Runs one pass over the device namespace, for a registry that changes by `tell`: the registry afterwards,
and how the pass ended. -/
def discover (tell : σ → RegistryCall → σ) (settings : DiscoverySettings) (directories : Directories)
    (tree : DeviceTree) (registry : σ) : σ × Except DiscoveryError PassSummary :=
  match Walk.ofSettings settings directories tree with
  | .error e => (registry, .error e)
  | .ok w =>
    match w.pass (w.resolveInto tell) { sink := registry } with
    | (p, .error e) => (p.sink, .error e)
    | (p, .ok ()) => (tell p.sink (.endOfPass p.summary), .ok p.summary)

end UsbInventory
