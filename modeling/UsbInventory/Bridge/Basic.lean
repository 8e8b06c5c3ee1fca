/-
The bridge between those who ask for passes and the worker that runs them. Commands go one way and the
calls of the passes the other, each through a queue of its own; every requested scan has a ticket, and
its reply is given to whoever holds the ticket. Requesters share the bridge through handles that can be
cloned. A side is gone when all its handles are dropped.
-/
import UsbInventory.Bridge.Queue
import UsbInventory.Log.Event
import UsbInventory.Pass.Registry

namespace UsbInventory

/-- What a requested pass came to; a failed pass leaves its text. -/
inductive ScanOutcome where
  | completed (summary : PassSummary)
  | failed (text : String)
  deriving DecidableEq, Repr

/-- What the worker is asked for. A scan is named by its ticket. -/
inductive Command where
  | scan (ticket : Nat)
  | shutdown
  deriving DecidableEq, Repr

/-- What the holder of a ticket can learn. -/
inductive Reply where
  | waiting
  | ready (outcome : ScanOutcome)
  /-- There will be no outcome, or it was already taken. -/
  | closed
  deriving DecidableEq

/-- A requested scan. -/
structure Ticket where
  reply : Reply
  /-- Whether the requester still wants the outcome. -/
  wanted : Bool := true
  deriving DecidableEq

/-- The state of the bridge. -/
structure Bridge where
  commands : Queue Command := {}
  calls : Queue RegistryCall := {}
  /-- For every handle made so far, whether it lives. -/
  handles : List Bool := [true]
  /-- Whether the worker still holds its end. -/
  worker : Bool := true
  /-- The scans requested so far, in order; a ticket is an index here. -/
  tickets : List Ticket := []
  /-- The scans that the worker took and nobody has let go yet, in the order in which they were taken. -/
  taken : List Nat := []
  deriving DecidableEq

namespace Bridge

/-- The commands that may be queued. -/
def commandCapacity : Nat := 16

/-- The calls that may be queued. -/
def callCapacity : Nat := 256

/-! ## Handles -/

/-- Whether a requester is left. -/
def hasRequester (b : Bridge) : Bool := b.handles.any id

/-- Whether a handle lives. -/
def lives (b : Bridge) (handle : Nat) : Bool := (b.handles[handle]?).getD false

/-- Makes one more handle; the answer is its number. -/
def addHandle (b : Bridge) : Bridge × Nat :=
  ({ b with handles := b.handles ++ [true] }, b.handles.length)

/-! ## Tickets -/

def setReply (b : Bridge) (ticket : Nat) (reply : Reply) : Bridge :=
  { b with tickets := b.tickets.modify ticket fun t => { t with reply } }

/-- What a ticket shows now. An outcome is shown once. -/
def poll (b : Bridge) (ticket : Nat) : Bridge × Reply :=
  match b.tickets[ticket]? with
  | none => (b, .closed)
  | some t =>
    match t.reply with
    | .waiting => (b, .waiting)
    | reply => (b.setReply ticket .closed, reply)

/-- Gives a ticket up. -/
def dropTicket (b : Bridge) (ticket : Nat) : Bridge :=
  { b with tickets := b.tickets.modify ticket fun t => { t with wanted := false } }

/-- Whether the outcome of a ticket is still wanted. -/
def wants (b : Bridge) (ticket : Nat) : Bool := (b.tickets[ticket]?).any (·.wanted)

/-- Lets a scan go that was taken. -/
def letGo (b : Bridge) (ticket : Nat) : Bridge := { b with taken := b.taken.erase ticket }

/-- Answers a scan that was taken; says whether the outcome was wanted. -/
def respond (b : Bridge) (ticket : Nat) (outcome : ScanOutcome) : Bridge × Bool :=
  if ticket ∈ b.taken then
    let b := b.letGo ticket
    if b.wants ticket then (b.setReply ticket (.ready outcome), true) else (b, false)
  else (b, false)

/-- Lets a scan go that was taken, without an outcome. -/
def dropResponse (b : Bridge) (ticket : Nat) : Bridge :=
  if ticket ∈ b.taken then (b.letGo ticket).setReply ticket .closed else b

/-! ## Leaving -/

/-- Drops a queued command: a scan gets no outcome. -/
def discard (b : Bridge) : Command → Bridge
  | .scan ticket => b.setReply ticket .closed
  | .shutdown => b

/-- Once both sides are gone nobody can reach the queues: what they hold is dropped, and the queued
scans get no outcome. While one side is left a queued scan only waits. -/
def settle (b : Bridge) : Bridge :=
  if b.hasRequester || b.worker then b
  else
    { b.commands.items.foldl discard b with commands := {}, calls := {} }

def dropHandle (b : Bridge) (handle : Nat) : Bridge :=
  { b with handles := b.handles.set handle false }.settle

def dropWorker (b : Bridge) : Bridge := { b with worker := false }.settle

/-! ## Requesters -/

def sendCommand (b : Bridge) (command : Command) : Bridge × Attempt Unit :=
  let (commands, attempt) := b.commands.put commandCapacity b.worker command
  ({ b with commands }, attempt)

/-- Asks for a scan. The request has a ticket in any case; one that could not be queued is closed. -/
def requestScan (b : Bridge) : Bridge × Attempt Unit :=
  let (b, attempt) := b.sendCommand (.scan b.tickets.length)
  let reply := if attempt.isDone then Reply.waiting else Reply.closed
  ({ b with tickets := b.tickets ++ [{ reply }] }, attempt)

def requestShutdown (b : Bridge) : Bridge × Attempt Unit := b.sendCommand .shutdown

/-- Receives the next call. -/
def receive (b : Bridge) : Bridge × Attempt RegistryCall :=
  let (calls, attempt) := b.calls.take b.worker
  ({ b with calls }, attempt)

/-- Receives the next call if one is queued. -/
def receive? (b : Bridge) : Bridge × Option RegistryCall :=
  let (calls, found) := b.calls.take?
  ({ b with calls }, found)

/-! ## The worker -/

/-- The worker answers for a scan as soon as it holds the command. -/
def hold (b : Bridge) : Command → Bridge
  | .scan ticket => { b with taken := b.taken ++ [ticket] }
  | .shutdown => b

/-- Takes the next command. -/
def take (b : Bridge) : Bridge × Attempt Command :=
  match b.commands.take b.hasRequester with
  | (commands, .done command) => ({ b with commands }.hold command, .done command)
  | (commands, attempt) => ({ b with commands }, attempt)

/-- Takes the next command if one is queued. -/
def take? (b : Bridge) : Bridge × Option Command :=
  match b.commands.take? with
  | (commands, some command) => ({ b with commands }.hold command, some command)
  | (commands, none) => ({ b with commands }, none)

/-- Sends a call to the requesters. -/
def send (b : Bridge) (call : RegistryCall) : Bridge × Attempt Unit :=
  let (calls, attempt) := b.calls.put callCapacity b.hasRequester call
  ({ b with calls }, attempt)

end Bridge

end UsbInventory
