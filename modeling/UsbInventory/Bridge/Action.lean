/-
Everything that can be done to a bridge, as one type of actions with one type of answers, so that a run of
the bridge is a list of actions. A handle or a worker that is gone does nothing.
-/
import UsbInventory.Bridge.Forward

namespace UsbInventory

namespace Bridge

/-- An action on a bridge. The first six are done through a handle, the next five by the worker, the others by
whoever holds a response or a ticket. -/
inductive Action where
  | requestScan (handle : Nat)
  | requestShutdown (handle : Nat)
  | receive (handle : Nat)
  | tryReceive (handle : Nat)
  | clone (handle : Nat)
  | dropHandle (handle : Nat)
  | take
  | tryTake
  | send (call : RegistryCall)
  | forward (call : RegistryCall)
  | dropWorker
  /-- Answers the scan of a ticket; without a ticket, the oldest scan that is held. -/
  | respond (outcome : ScanOutcome) (ticket : Option Nat := none)
  /-- Lets the scan of a ticket go without an outcome; without a ticket, the oldest scan that is held. -/
  | dropResponse (ticket : Option Nat := none)
  | poll (ticket : Nat)
  | dropTicket (ticket : Nat)

/-- The answer to an action. -/
inductive Answer where
  | sent (attempt : Attempt Unit)
  | received (attempt : Attempt RegistryCall)
  | call (found : Option RegistryCall)
  | handle (number : Nat)
  | taken (attempt : Attempt Command)
  | command (found : Option Command)
  | forwarded (events : List Log.Event)
  | heard (wanted : Bool)
  | reply (reply : Reply)
  | done
  /-- The handle or the worker is gone. -/
  | absent
  deriving DecidableEq

/-- The scan that an answer is for: the one that is named, or else the oldest that is held. -/
def addressee? (b : Bridge) (ticket : Option Nat) : Option Nat := ticket.or b.taken.head?

namespace Action

/-- Whether whoever would perform the action is still there. -/
def possible (b : Bridge) : Action → Bool
  | requestScan h | requestShutdown h | receive h | tryReceive h | clone h | dropHandle h => b.lives h
  | take | tryTake | send _ | forward _ | dropWorker => b.worker
  | respond _ _ | dropResponse _ | poll _ | dropTicket _ => true

/-- What an action does when it is possible. -/
def effect (b : Bridge) : Action → Bridge × Answer
  | requestScan _ => b.requestScan.map id .sent
  | requestShutdown _ => b.requestShutdown.map id .sent
  | receive _ => b.receive.map id .received
  | tryReceive _ => b.receive?.map id .call
  | clone _ => b.addHandle.map id .handle
  | dropHandle h => (b.dropHandle h, .done)
  | take => b.take.map id .taken
  | tryTake => b.take?.map id .command
  | send c => (b.send c).map id .sent
  | forward c => (b.forward c).map id .forwarded
  | dropWorker => (b.dropWorker, .done)
  | respond outcome ticket => ((b.addressee? ticket).elim (b, false) (b.respond · outcome)).map id .heard
  | dropResponse ticket => ((b.addressee? ticket).elim b b.dropResponse, .done)
  | poll ticket => (b.poll ticket).map id .reply
  | dropTicket ticket => (b.dropTicket ticket, .done)

end Action

/-- Performs one action. -/
def perform (b : Bridge) (action : Action) : Bridge × Answer :=
  if action.possible b then action.effect b else (b, .absent)

/-- Performs actions one after the other. -/
def performAll (b : Bridge) : List Action → Bridge × List Answer
  | [] => (b, [])
  | action :: rest =>
    let (b, answer) := b.perform action
    let (b, answers) := b.performAll rest
    (b, answer :: answers)

end Bridge

end UsbInventory
