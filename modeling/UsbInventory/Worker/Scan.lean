/-
A requester that follows its scan. It listens to what the pass sends and, when nothing is queued, looks
whether the scan is answered; once it is, what is still queued is taken in before the scan is over. The
look at the queue and the look at the ticket are two steps, so that the worker may act in between.
-/
import UsbInventory.Worker.Basic

namespace UsbInventory

/-- How a scan ended: with an outcome, or with nothing because the worker let it go. -/
abbrev ScanEnd := Option ScanOutcome

/-- What the requester is about to do. -/
inductive Listener where
  /-- To look at the queue. -/
  | listening
  /-- To look at the ticket, having found the queue empty. -/
  | checking
  /-- To wait until the queue or the ticket has something to show. -/
  | waiting
  /-- To wait for the ticket alone, since nothing more can come through the queue. -/
  | closing
  /-- To take in what is still queued, having seen the end of the scan. -/
  | draining (outcome : ScanEnd)
  /-- Nothing any more. -/
  | returned (outcome : ScanEnd)

/-- A scan under way: the bridge, the worker at one side of it and the requester at the other. -/
structure Scan where
  bridge : Bridge
  worker : Worker
  listener : Listener := .listening
  /-- The ticket of the scan. -/
  ticket : Nat
  /-- What the requester has taken in, in order. -/
  handled : List RegistryCall := []
  events : List Log.Event := []

namespace Scan

/-! ## The requester -/

/-- What the log says when the requester takes a call in. -/
def handledEvents : RegistryCall → List Log.Event
  | .register _ => []
  | .endOfPass summary =>
    [{ level := .debug, target := "usb_enum", message := "pass complete: " ++ summary.debugText }]

/-- Takes a call in. -/
def handle (s : Scan) (call : RegistryCall) : Scan :=
  { s with handled := s.handled ++ [call], events := s.events ++ handledEvents call }

/-- The end that a ticket shows, if it shows one. -/
def endOf? : Reply → Option ScanEnd
  | .waiting => none
  | .ready outcome => some (some outcome)
  | .closed => some none

/-- Looks at the queue: takes a call in, or goes on to `idle` when there is none. -/
def look (s : Scan) (idle : Listener) : Scan :=
  match s.bridge.receive with
  | (bridge, .done call) => { s with bridge, listener := .listening }.handle call
  | (_, .pending) => { s with listener := idle }
  | (_, .failed e) =>
    let reason := (ServiceError.ofChannel e).message
    let event : Log.Event :=
      { level := .debug, target := "usb_enum", message := s!"Event channel closed: {reason}" }
    { s with listener := .closing, events := s.events ++ [event] }

/-- Looks at the ticket: goes on to take in the rest when the scan has ended, and to `other` when not. -/
def check (s : Scan) (other : Listener) : Scan :=
  match s.bridge.poll s.ticket with
  | (bridge, reply) =>
    match endOf? reply with
    | some outcome => { s with bridge, listener := .draining outcome }
    | none => { s with listener := other }

/-- Whether the queue has something to show: a call, or that nothing more will come. -/
def queueReady (b : Bridge) : Bool := !b.calls.items.isEmpty || !b.worker

/-- Whether the ticket has something to show. -/
def ticketReady (b : Bridge) (ticket : Nat) : Bool := (endOf? (b.poll ticket).2).isSome

/-- One step of the requester; `none` when it has to wait or has returned. -/
def listenerStep? (s : Scan) : Option Scan :=
  match s.listener with
  | .listening => some (s.look .checking)
  | .checking => some (s.check .waiting)
  | .waiting =>
    if queueReady s.bridge then some (s.look .checking)
    else if ticketReady s.bridge s.ticket then some { s with listener := .checking }
    else none
  | .closing => if ticketReady s.bridge s.ticket then some (s.check .closing) else none
  | .draining outcome =>
    match s.bridge.receive? with
    | (bridge, some call) => some ({ s with bridge }.handle call)
    | (_, none) => some { s with listener := .returned outcome }
  | .returned _ => none

/-! ## Both together -/

/-- One step of the worker. -/
def workerStep? (serve : Nat → ServedPass) (s : Scan) : Option Scan :=
  (s.worker.step? serve s.bridge).map fun (worker, bridge, events) =>
    { s with worker, bridge, events := s.events ++ events }

/-- One step of a run in which the worker goes first whenever it can. -/
def next? (serve : Nat → ServedPass) (s : Scan) : Option Scan :=
  (s.workerStep? serve).or s.listenerStep?

/-- Goes on until the requester has returned or neither can step. -/
def runFor (serve : Nat → ServedPass) : Nat → Scan → Scan
  | 0, s => s
  | fuel + 1, s =>
    match s.listener, s.next? serve with
    | .returned _, _ => s
    | _, some t => runFor serve fuel t
    | _, none => s

/-! ## How long a run can be -/

/-- A bound for the steps that a command can still cause. -/
def commandWeight (serve : Nat → ServedPass) : Command → Nat
  | .scan ticket => 16 * (serve ticket).calls.length + 24
  | .shutdown => 24

def workerWeight : Worker → Nat
  | .idle => 10
  | .serving _ calls _ => 16 * calls.length + 20
  | .stopped => 0

def listenerWeight (s : Scan) : Nat :=
  match s.listener with
  | .listening => 9
  | .checking => 8
  | .waiting => if ticketReady s.bridge s.ticket then 9 else 5
  | .closing => 4
  | .draining _ => 3
  | .returned _ => 0

/-- A bound for the steps that commands can still cause. -/
def commandsWeight (serve : Nat → ServedPass) : List Command → Nat
  | [] => 0
  | command :: rest => commandWeight serve command + commandsWeight serve rest

/-- A bound for the steps of the worker alone. -/
def servingWeight (serve : Nat → ServedPass) (b : Bridge) (worker : Worker) : Nat :=
  commandsWeight serve b.commands.items + workerWeight worker

/-- A bound for the steps of both sides together. Every step makes it smaller. -/
def weight (serve : Nat → ServedPass) (s : Scan) : Nat :=
  servingWeight serve s.bridge s.worker + 8 * s.bridge.calls.items.length + s.listenerWeight

/-- Follows the scan to its end. -/
def run (serve : Nat → ServedPass) (s : Scan) : Scan := runFor serve (s.weight serve) s

end Scan

end UsbInventory
