/-
Queues between two sides. A queue keeps what was put in until it is taken out, in order; it takes
nothing beyond its capacity, and nothing once the other side is gone. What was queued before its senders
left can still be taken out.
-/
import UsbInventory.Bridge.Error

namespace UsbInventory

/-- What came of an attempt to put something in or to take something out. -/
inductive Attempt (α : Type) where
  | done (value : α)
  /-- Not now: there is no room, or there is nothing. -/
  | pending
  | failed (cause : ChannelError)
  deriving DecidableEq, Repr

namespace Attempt

variable {α : Type}

def isDone : Attempt α → Bool
  | done _ => true
  | _ => false

end Attempt

/-- What is queued, oldest first. -/
structure Queue (α : Type) where
  items : List α := []
  deriving DecidableEq, Repr

namespace Queue

variable {α : Type}

/-- Puts an item in. `heard` says whether anybody is left on the receiving side. -/
def put (q : Queue α) (capacity : Nat) (heard : Bool) (a : α) : Queue α × Attempt Unit :=
  if !heard then (q, .failed .unheard)
  else if q.items.length < capacity then (⟨q.items ++ [a]⟩, .done ())
  else (q, .pending)

/-- Takes the oldest item out. `fed` says whether anybody is left on the sending side. -/
def take (q : Queue α) (fed : Bool) : Queue α × Attempt α :=
  match q.items with
  | a :: rest => (⟨rest⟩, .done a)
  | [] => (q, if fed then .pending else .failed .exhausted)

/-- Takes the oldest item out if there is one. -/
def take? (q : Queue α) : Queue α × Option α :=
  match q.items with
  | a :: rest => (⟨rest⟩, some a)
  | [] => (q, none)

end Queue

end UsbInventory
