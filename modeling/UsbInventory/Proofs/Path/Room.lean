/-
Composing paths with less and with more room. A path that fits into a small capacity is composed byte for byte alike
under a larger one, and a name that is no component is refused under both. So only the paths that are too long for the
small capacity may come out differently.
-/
import UsbInventory.Pass.Witness
import UsbInventory.Proofs.Path.Joining

namespace UsbInventory

namespace BoundedPath

/-- The same path, with at least as much room. -/
structure Widens (p q : BoundedPath) : Prop where
  path : q.path = p.path
  room : p.capacity ≤ q.capacity

/-- How composing comes out with less room and with more. -/
inductive Composed : Except PathError BoundedPath → Except PathError BoundedPath → Prop where
  | fits {p q : BoundedPath} (h : p.Widens q) : Composed (.ok p) (.ok q)
  | refused (component : String) :
    Composed (.error (.invalidComponent component)) (.error (.invalidComponent component))
  | tooLong (length capacity : Nat) (roomier : Except PathError BoundedPath) :
    Composed (.error (.tooLong length capacity)) roomier

theorem composed_ofPath (base : RawPath) {c c' : Nat} (h : c ≤ c') : Composed (ofPath base c) (ofPath base c') := by
  unfold ofPath
  by_cases hb : base.length < c
  · rw [dif_pos hb, dif_pos (Nat.lt_of_lt_of_le hb h)]
    exact .fits ⟨rfl, h⟩
  · rw [dif_neg hb]
    exact .tooLong _ _ _

theorem Widens.join {p q : BoundedPath} (h : p.Widens q) (name : RawPath) : Composed (p.join name) (q.join name) := by
  have hlen : q.extendedLength name = p.extendedLength name := by
    unfold extendedLength
    rw [h.path]
  unfold BoundedPath.join
  by_cases hc : isComponent name = true
  · rw [dif_pos hc, dif_pos hc]
    by_cases hp : p.extendedLength name < p.capacity
    · have hq : q.extendedLength name < q.capacity := by
        rw [hlen]
        exact Nat.lt_of_lt_of_le hp h.room
      rw [dif_pos hp, dif_pos hq]
      exact .fits ⟨congrArg (RawPath.join · name) h.path, h.room⟩
    · rw [dif_neg hp]
      exact .tooLong _ _ _
  · rw [dif_neg hc, dif_neg hc]
    exact .refused _

theorem Composed.bind {r r' : Except PathError BoundedPath} (h : Composed r r')
    {f f' : BoundedPath → Except PathError BoundedPath} (hf : ∀ p q, p.Widens q → Composed (f p) (f' q)) :
    Composed (r >>= f) (r' >>= f') := by
  cases h with
  | fits hw => exact hf _ _ hw
  | refused component => exact .refused component
  | tooLong length capacity => exact .tooLong length capacity _

end BoundedPath

open BoundedPath (Composed Widens)

/-- Settings with another capacity for composed paths. -/
def DiscoverySettings.within (settings : DiscoverySettings) (capacity : Nat) : DiscoverySettings :=
  { settings with pathCapacity := capacity }

namespace Witness

/-! ## More room -/

theorem composed_groupPath (settings : DiscoverySettings) {c c' : Nat} (h : c ≤ c') (name : RawPath) :
    Composed (groupPath (settings.within c) name) (groupPath (settings.within c') name) :=
  (BoundedPath.composed_ofPath settings.devUsbRoot h).bind fun _ _ hw => hw.join name

theorem composed_pathOf (settings : DiscoverySettings) {p q : BoundedPath} (h : p.Widens q) (c c' : Nat)
    (name : RawPath) :
    Composed (pathOf (settings.within c) p name) (pathOf (settings.within c') q name) :=
  (h.join name).bind fun _ _ hw => hw.join (RawPath.ofString settings.witnessFile)

/-! ## Whole paths -/

variable {settings : DiscoverySettings} {group : BoundedPath} {name : RawPath}

/-- The path of a group is its whole path, which fits. -/
theorem of_groupPath_ok (h : groupPath settings name = .ok group) :
    group.path = settings.devUsbRoot.child name ∧ group.capacity = settings.pathCapacity ∧
      (settings.devUsbRoot.child name).length < settings.pathCapacity := by
  unfold groupPath BoundedPath.ofPath at h
  split at h
  · obtain ⟨-, hpath, hcapacity⟩ := BoundedPath.of_join_ok h
    have hfits := group.fits
    rw [hpath, hcapacity] at hfits
    exact ⟨hpath, hcapacity, hfits⟩
  · cases h

/-- The path of a witness is its whole path, which fits. -/
theorem of_pathOf_ok {witness : BoundedPath} (h : pathOf settings group name = .ok witness) :
    witness.path = (group.path.child name).child (RawPath.ofString settings.witnessFile) ∧
      witness.path.length < group.capacity := by
  unfold pathOf at h
  cases hi : group.join name with
  | error e =>
    rw [hi] at h
    cases h
  | ok i =>
    rw [hi] at h
    obtain ⟨-, hipath, hicapacity⟩ := BoundedPath.of_join_ok hi
    obtain ⟨-, hpath, hcapacity⟩ := BoundedPath.of_join_ok h
    refine ⟨by rw [hpath, hipath], ?_⟩
    rw [← hicapacity, ← hcapacity]
    exact witness.fits

end Witness

end UsbInventory
