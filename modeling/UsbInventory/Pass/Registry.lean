/-
The calls that a pass makes on a registry, the progress of a pass that makes them, and the registry that
collects what it is told.
-/
import UsbInventory.Identity.Device
import UsbInventory.Identity.Summary

namespace UsbInventory

/-- What a registry is told. -/
inductive RegistryCall where
  | register (device : DeviceIdentity)
  | endOfPass (summary : PassSummary)
  deriving DecidableEq

/-- The registry that only keeps what it is told. -/
def RegistryCall.record (calls : List RegistryCall) (call : RegistryCall) : List RegistryCall :=
  calls ++ [call]

/-- A registry that keeps everything in order. -/
structure Registry where
  devices : List DeviceIdentity := []
  passes : List PassSummary := []

namespace Registry

def tell (r : Registry) : RegistryCall → Registry
  | .register d => { r with devices := r.devices ++ [d] }
  | .endOfPass s => { r with passes := r.passes ++ [s] }

def tellAll (r : Registry) (calls : List RegistryCall) : Registry := calls.foldl tell r

end Registry

/-! ## Progress -/

/-- What a pass changes on its way: its counters, and whatever takes its results. -/
structure Progress (σ : Type) where
  summary : PassSummary := {}
  sink : σ

namespace Progress

variable {σ : Type}

/-- Changes the counters. -/
def count (p : Progress σ) (change : PassSummary → PassSummary) : Progress σ :=
  { p with summary := change p.summary }

/-- Settles a candidate: an identity is counted and registered, and a candidate without one is counted as
discarded. -/
def settle (p : Progress σ) (tell : σ → RegistryCall → σ) : Option DeviceIdentity → Progress σ
  | some d =>
    { summary := { p.summary with devices := p.summary.devices + 1 }, sink := tell p.sink (.register d) }
  | none => p.count fun s => { s with discarded := s.discarded + 1 }

end Progress

end UsbInventory
