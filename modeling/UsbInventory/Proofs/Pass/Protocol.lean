/-
The registry protocol. A pass that fails makes no call on its registry; a pass that comes to its end registers
its devices one after the other and then ends the pass once, with the counters that it returns. Both kinds of
pass keep it, whatever registry they are given, and so does every pass of a backend.
-/
import UsbInventory.Proofs.Pass.Counters

namespace UsbInventory

/-- The registry protocol, for the calls of a pass and its result. -/
inductive PassProtocol : List RegistryCall → Except DiscoveryError PassSummary → Prop where
  | failed (e : DiscoveryError) : PassProtocol [] (.error e)
  | finished (found : List DeviceIdentity) (s : PassSummary) :
    PassProtocol (RegistryCall.ofPass found s) (.ok s)

/-- A pass as a function of the way in which a registry changes, and of the registry. -/
abbrev RegistryPass : Type 1 :=
  ∀ {σ : Type}, (σ → RegistryCall → σ) → σ → σ × Except DiscoveryError PassSummary

/-- A pass keeps the protocol: either it fails and leaves every registry as it was, or it comes to its end, and
every registry gets the same registrations, as many as the counter of devices says, and then the counters. -/
inductive KeepsProtocol (pass : RegistryPass) : Prop where
  | failed (e : DiscoveryError)
    (untouched : ∀ {σ : Type} (tell : σ → RegistryCall → σ) (registry : σ),
      pass tell registry = (registry, .error e))
  | finished (found : List DeviceIdentity) (s : PassSummary) (counted : s.devices.toNat = found.length % UInt32.size)
    (told : ∀ {σ : Type} (tell : σ → RegistryCall → σ) (registry : σ),
      pass tell registry = (tell ((found.map .register).foldl tell registry) (.endOfPass s), .ok s))

/-- A registry that records is told what the protocol asks for. -/
theorem KeepsProtocol.recorded {pass : RegistryPass} (h : KeepsProtocol pass) :
    PassProtocol (pass RegistryCall.record []).1 (pass RegistryCall.record []).2 := by
  cases h with
  | failed e untouched =>
    rw [untouched]
    exact .failed e
  | finished found s _ told =>
    rw [told, ← foldl_ofPass RegistryCall.record [] found s, RegistryCall.foldl_record]
    exact .finished found s

theorem discover_keepsProtocol (settings : DiscoverySettings) (directories : Directories) (tree : DeviceTree) :
    KeepsProtocol fun tell => discover tell settings directories tree := by
  cases hw : Walk.ofSettings settings directories tree with
  | error e => exact .failed e (discover_of_badPattern settings directories tree hw)
  | ok w =>
    cases hr : directories.readDir settings.devUsbRoot with
    | error e => exact .failed _ (discover_of_unreadable hw hr)
    | ok names =>
      obtain ⟨s, hs, hd⟩ := discover_of_ok hw hr
      refine .finished (w.identities names) s ?_ fun tell registry => ?_
      · rw [hs.devices, UInt32.zero_add, UInt32.toNat_ofNat']
        rfl
      · rw [hd, foldl_ofPass]

theorem enumerate_keepsProtocol (filters : List DeviceFilter) (bus : Bus) :
    KeepsProtocol fun tell => bus.enumerate filters tell := by
  by_cases hl : bus.listing = 0
  · obtain ⟨s, hs, he⟩ := enumerate_of_listed filters hl
    refine .finished (Bus.identities filters bus.devices) s ?_ fun tell registry => ?_
    · rw [hs.devices, UInt32.zero_add, UInt32.toNat_ofNat']
      rfl
    · rw [he, foldl_ofPass]
  · refine .failed (.backend (BusStatus.text bus.listing)) fun tell registry => ?_
    unfold Bus.enumerate
    rw [if_pos hl]

/-- What the calls and the result of a backend's pass obey. -/
theorem Backend.enumerate_protocol (backend : Backend) (world : World) :
    PassProtocol (backend.enumerate world).calls (backend.enumerate world).result := by
  cases backend with
  | walk settings snapshot =>
    exact (discover_keepsProtocol settings world.files.directories (Snapshot.tree world.files snapshot)).recorded
  | bus filters => exact (enumerate_keepsProtocol filters world.bus).recorded

/-- Both kinds of pass keep the registry protocol for every registry, and the passes of every backend obey it. A
pass over the device namespace fails exactly when its pattern or its root cannot be read, and a pass over the
bus exactly when the devices cannot be listed. -/
theorem passes_keep_protocol (settings : DiscoverySettings) (directories : Directories) (tree : DeviceTree)
    (filters : List DeviceFilter) (bus : Bus) (backend : Backend) (world : World) :
    (KeepsProtocol fun tell => discover tell settings directories tree) ∧
    (KeepsProtocol fun tell => bus.enumerate filters tell) ∧
    PassProtocol (backend.enumerate world).calls (backend.enumerate world).result ∧
    ((∃ e, (discover RegistryCall.record settings directories tree []).2 = .error e) ↔
      (∃ e, Pattern.parse settings.groupPattern = .error e) ∨
        ∃ e, directories.readDir settings.devUsbRoot = .error e) ∧
    ((∃ e, (bus.enumerate filters RegistryCall.record []).2 = .error e) ↔ bus.listing ≠ 0) := by
  refine ⟨discover_keepsProtocol settings directories tree, enumerate_keepsProtocol filters bus,
    backend.enumerate_protocol world, ?_, ?_⟩
  · cases hw : Walk.ofSettings settings directories tree with
    | error e =>
      have hp : ∃ e, Pattern.parse settings.groupPattern = .error e := by
        unfold Walk.ofSettings at hw
        split at hw
        · exact ⟨_, ‹_›⟩
        · cases hw
      rw [discover_of_badPattern settings directories tree hw]
      exact ⟨fun _ => .inl hp, fun _ => ⟨e, rfl⟩⟩
    | ok w =>
      obtain ⟨pattern, hp, -⟩ := Walk.ofSettings_ok hw
      rw [hp]
      cases hr : directories.readDir settings.devUsbRoot with
      | error e =>
        rw [discover_of_unreadable hw hr]
        exact ⟨fun _ => .inr ⟨e, rfl⟩, fun _ => ⟨_, rfl⟩⟩
      | ok names =>
        obtain ⟨s, -, hd⟩ := discover_of_ok hw hr
        rw [hd]
        constructor
        · rintro ⟨e, he⟩
          cases he
        · rintro (⟨e, he⟩ | ⟨e, he⟩) <;> cases he
  · unfold Bus.enumerate
    by_cases hl : bus.listing = 0
    · simp [hl]
    · simp [hl]

end UsbInventory
