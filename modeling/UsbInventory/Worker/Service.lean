/-
The service: a bridge with a worker at its other side. A requester asks it for scans, follows each of them
to its end, and finally asks the worker to stop.
-/
import UsbInventory.Worker.Scan

namespace UsbInventory

/-- A bridge and the worker at its other side. -/
structure Service where
  bridge : Bridge := {}
  worker : Worker := .idle

namespace Service

/-- What a requester gets from a scan: its end, and what the pass sent on the way. -/
structure ScanReport where
  outcome : ScanEnd
  calls : List RegistryCall

namespace ScanReport

/-- The registry as the requester keeps it. -/
def registry (r : ScanReport) : Registry := ({} : Registry).tellAll r.calls

end ScanReport

/-- Asks for a scan and follows it to its end. A scan is never asked for while another is queued, so there is
always room for the command. -/
def scan (service : Service) (serve : Nat → ServedPass) :
    Service × Except ServiceError ScanReport × List Log.Event :=
  match service.bridge.requestScan with
  | (bridge, .failed e) => ({ service with bridge }, .error (.ofChannel e), [])
  | (bridge, _) =>
    let ended : Scan :=
      Scan.run serve { bridge, worker := service.worker, ticket := service.bridge.tickets.length }
    let outcome := match ended.listener with
      | .returned outcome => outcome
      | _ => none
    (⟨ended.bridge, ended.worker⟩, .ok ⟨outcome, ended.handled⟩, ended.events)

/-- Lets the worker go on until it has to wait or has stopped. -/
def settleFor (serve : Nat → ServedPass) : Nat → Service → Service × List Log.Event
  | 0, service => (service, [])
  | fuel + 1, service =>
    match service.worker.step? serve service.bridge with
    | none => (service, [])
    | some (worker, bridge, events) =>
      let (service, later) := settleFor serve fuel ⟨bridge, worker⟩
      (service, events ++ later)

/-- Asks the worker to stop, and waits until it has. -/
def shutdown (service : Service) : Service × Except ServiceError Unit × List Log.Event :=
  match service.bridge.requestShutdown with
  | (bridge, .failed e) => ({ service with bridge }, .error (.ofChannel e), [])
  | (bridge, _) =>
    let serve := fun _ => ServedPass.broken
    let steps := Scan.servingWeight serve bridge service.worker
    let (service, events) := settleFor serve steps { service with bridge }
    (service, .ok (), events)

end Service

end UsbInventory
