/-
The worker: it takes commands from the bridge one at a time, runs a pass for every scan, sends on what the
pass tells its registry, and then answers the scan. It stops when it takes a shutdown, or when no requester
is left. One step is one exchange with the bridge, so that requesters may act between any two of them.
-/
import UsbInventory.Backend.Basic
import UsbInventory.Bridge.Forward

namespace UsbInventory

/-- A pass as the worker sees it. -/
structure ServedPass where
  /-- What the pass tells its registry, in order. -/
  calls : List RegistryCall
  /-- How it ends; a pass that breaks off has no result. -/
  result : Option (Except DiscoveryError PassSummary)
  events : List Log.Event := []

namespace ServedPass

/-- A pass of a backend always has a result. -/
def ofEnumeration (e : Enumeration) : ServedPass := ⟨e.calls, some e.result, e.events⟩

/-- A pass that breaks off at once. -/
def broken : ServedPass := ⟨[], none, []⟩

end ServedPass

/-- What the worker is about to do. -/
inductive Worker where
  /-- To take a command. -/
  | idle
  /-- To send on what is left of a pass, and then to answer for it. -/
  | serving (ticket : Nat) (calls : List RegistryCall) (result : Option (Except DiscoveryError PassSummary))
  /-- Nothing any more. -/
  | stopped

namespace Worker

/-! ## The log -/

private def event (level : Log.Level) (message : String) : Log.Event :=
  { level, target := "enumerator::worker", message }

/-- What the log says when a worker starts. -/
def startEvents (backend : String) : List Log.Event :=
  [event .info s!"Discovery worker started ({backend} backend)"]

private def stopEvents (reason : Log.Event) : List Log.Event :=
  [reason, event .info "Discovery worker stopped"]

/-- What the log says about the end of a pass. -/
def endEvents : Option (Except DiscoveryError PassSummary) → List Log.Event
  | some (.ok _) => []
  | some (.error e) =>
    [event .error s!"Discovery failed: {e.message} ({e.code.message})"]
  | none => [event .error "Panic in discovery command handler: Any \x7b .. \x7d"]

/-! ## Steps -/

/-- Answers the scan that was served. A pass that broke off leaves it without an outcome. -/
def answer (b : Bridge) (ticket : Nat) : Option (Except DiscoveryError PassSummary) → Bridge
  | some (.ok summary) => (b.respond ticket (.completed summary)).1
  | some (.error e) => (b.respond ticket (.failed e.message)).1
  | none => b.dropResponse ticket

/-- One step of the worker, where `serve` gives the pass for a ticket; `none` when it has to wait or has
stopped. -/
def step? (serve : Nat → ServedPass) (b : Bridge) : Worker → Option (Worker × Bridge × List Log.Event)
  | idle =>
    match b.take with
    | (b, .done (.scan ticket)) =>
      let pass := serve ticket
      some (.serving ticket pass.calls pass.result, b, event .debug "Starting discovery pass" :: pass.events)
    | (b, .done .shutdown) =>
      some (.stopped, b.dropWorker, stopEvents (event .info "Discovery worker shutting down"))
    | (b, .failed e) =>
      let reason := (ServiceError.ofChannel e).message
      some (.stopped, b.dropWorker, stopEvents (event .debug s!"Command channel closed: {reason}"))
    | (_, .pending) => none
  | serving ticket (call :: rest) result =>
    (b.forward? call).map fun (b, events) => (.serving ticket rest result, b, events)
  | serving ticket [] result => some (.idle, answer b ticket result, endEvents result)
  | stopped => none

end Worker

end UsbInventory
