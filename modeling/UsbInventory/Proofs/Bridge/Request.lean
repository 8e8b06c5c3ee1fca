/-
What requesters can do to a bridge. Whatever a requester does, it leaves alone what the worker relies on (`Keeps`):
the worker's end and the scans it holds stay as they are, and requesters that have left do not come back.
-/
import UsbInventory.Bridge.Action

namespace UsbInventory

/-! ## Queues -/

/-- An item is put into a queue while somebody listens and there is room. -/
theorem Queue.put_cases {α : Type} (q : Queue α) (capacity : Nat) (heard : Bool) (a : α) :
    (heard = true ∧ q.items.length < capacity ∧ q.put capacity heard a = (⟨q.items ++ [a]⟩, .done ())) ∨
    (heard = true ∧ capacity ≤ q.items.length ∧ q.put capacity heard a = (q, .pending)) ∨
    (heard = false ∧ q.put capacity heard a = (q, .failed .unheard)) := by
  unfold Queue.put
  cases heard with
  | false => exact .inr (.inr ⟨rfl, rfl⟩)
  | true =>
    by_cases hl : q.items.length < capacity
    · exact .inl ⟨rfl, hl, by simp [hl]⟩
    · exact .inr (.inl ⟨rfl, Nat.le_of_not_lt hl, by simp [hl]⟩)

/-- The oldest item is taken out; without one, the taker waits while somebody is left to put one in. -/
theorem Queue.take_cases {α : Type} (q : Queue α) (fed : Bool) :
    (∃ a rest, q.items = a :: rest ∧ q.take fed = (⟨rest⟩, .done a)) ∨
    (q.items = [] ∧ fed = true ∧ q.take fed = (q, .pending)) ∨
    (q.items = [] ∧ fed = false ∧ q.take fed = (q, .failed .exhausted)) := by
  unfold Queue.take
  cases q.items with
  | cons a rest => exact .inl ⟨a, rest, rfl, rfl⟩
  | nil =>
    cases fed with
    | true => exact .inr (.inl ⟨rfl, rfl, rfl⟩)
    | false => exact .inr (.inr ⟨rfl, rfl, rfl⟩)

theorem Queue.take?_cases {α : Type} (q : Queue α) :
    (∃ a rest, q.items = a :: rest ∧ q.take? = (⟨rest⟩, some a)) ∨ (q.items = [] ∧ q.take? = (q, none)) := by
  unfold Queue.take?
  cases q.items with
  | cons a rest => exact .inl ⟨a, rest, rfl, rfl⟩
  | nil => exact .inr ⟨rfl, rfl⟩

/-- What a ticket shows when its scan has been let go, with an outcome or without. -/
def Reply.ofOutcome : Option ScanOutcome → Reply
  | some outcome => .ready outcome
  | none => .closed

namespace Bridge

/-! ## What tickets show -/

/-- Whether a ticket shows an outcome. -/
def Shows (b : Bridge) (ticket : Nat) (outcome : ScanOutcome) : Prop :=
  (b.tickets[ticket]?).map Ticket.reply = some (.ready outcome)

/-- A look at a ticket shows its reply; a ticket that there is not is closed. -/
theorem poll_reply (b : Bridge) (ticket : Nat) :
    (b.poll ticket).2 = ((b.tickets[ticket]?).map Ticket.reply).getD .closed := by
  unfold poll
  cases b.tickets[ticket]? with
  | none => rfl
  | some tk =>
    dsimp only
    cases h : tk.reply <;> simp [h]

/-- A look at a ticket changes nothing but tickets. -/
theorem poll_tickets (b : Bridge) (ticket : Nat) : ∃ tickets, (b.poll ticket).1 = { b with tickets } := by
  unfold poll
  split
  · exact ⟨_, rfl⟩
  · split
    · exact ⟨_, rfl⟩
    · exact ⟨_, rfl⟩

/-- The replies after a change of one ticket. -/
theorem reply_modify (ts : List Ticket) (ticket t : Nat) (f : Ticket → Ticket) :
    ((ts.modify ticket f)[t]?).map Ticket.reply =
      if ticket = t then (ts[t]?).map fun tk => (f tk).reply else (ts[t]?).map Ticket.reply := by
  rw [List.getElem?_modify]
  by_cases h : ticket = t
  · cases ts[t]? <;> simp [h]
  · cases ts[t]? <;> simp [h]

/-! ## Leaving -/

/-- Dropping queued commands changes nothing but tickets. -/
theorem foldl_discard : ∀ (items : List Command) (b : Bridge), ∃ tickets, items.foldl discard b = { b with tickets }
  | [], b => ⟨b.tickets, rfl⟩
  | .shutdown :: items, b => foldl_discard items b
  | .scan ticket :: items, b => foldl_discard items (b.setReply ticket .closed)

/-- A side that leaves changes nothing while the other is left; the last one takes the queues with it and closes
the tickets in them. -/
theorem settle_cases (b : Bridge) :
    b.settle = b ∨ (b.hasRequester = false ∧ b.worker = false ∧
      ∃ tickets, b.settle = { b with tickets, commands := {}, calls := {} }) := by
  unfold settle
  split
  · exact .inl rfl
  · next h =>
    rw [Bool.not_eq_true, Bool.or_eq_false_iff] at h
    obtain ⟨tickets, he⟩ := foldl_discard b.commands.items b
    exact .inr ⟨h.1, h.2, tickets, by rw [he]⟩

theorem hasRequester_of_lives {b : Bridge} {handle : Nat} (h : b.lives handle = true) : b.hasRequester = true := by
  unfold lives at h
  cases hh : b.handles[handle]? with
  | none =>
    rw [hh] at h
    cases h
  | some alive =>
    rw [hh] at h
    exact List.any_eq_true.2 ⟨alive, List.mem_of_getElem? hh, h⟩

/-! ## What a request does -/

/-- Whether an action is one of a requester: it needs a handle or a ticket. -/
def Action.byRequester : Action → Bool
  | requestScan _ | requestShutdown _ | receive _ | tryReceive _ | clone _ | dropHandle _ | poll _
  | dropTicket _ => true
  | _ => false

/-- What the worker relies on, from a bridge `b` to `b'`: its end and the scans it holds are the same, and requesters
do not come back. -/
structure Keeps (b b' : Bridge) : Prop where
  worker : b'.worker = b.worker
  taken : b'.taken = b.taken
  requesters : b'.hasRequester = true → b.hasRequester = true

theorem Keeps.refl (b : Bridge) : Keeps b b := ⟨rfl, rfl, id⟩

theorem keeps_dropHandle (b : Bridge) (handle : Nat) : Keeps b (b.dropHandle handle) := by
  have hreq : ({ b with handles := b.handles.set handle false } : Bridge).hasRequester = true →
      b.hasRequester = true := by
    intro h
    obtain ⟨alive, hm, ha⟩ := List.any_eq_true.1 h
    rcases List.mem_or_eq_of_mem_set hm with hm | rfl
    · exact List.any_eq_true.2 ⟨alive, hm, ha⟩
    · cases ha
  unfold dropHandle
  rcases settle_cases { b with handles := b.handles.set handle false } with hs | ⟨-, -, tickets, hs⟩
  · rw [hs]
    exact ⟨rfl, rfl, hreq⟩
  · rw [hs]
    exact ⟨rfl, rfl, hreq⟩

/-- Whatever a requester does, it leaves alone what the worker relies on. -/
theorem keeps_of_request (b : Bridge) {action : Action} (h : action.byRequester = true) :
    Keeps b (b.perform action).1 := by
  cases hp : action.possible b with
  | false =>
    -- whoever would act is gone
    rw [show b.perform action = (b, .absent) from if_neg (by rw [hp]; exact Bool.false_ne_true)]
    exact .refl b
  | true =>
    rw [show b.perform action = action.effect b from if_pos hp]
    cases action with
    | requestScan | requestShutdown | receive | tryReceive | dropTicket => exact ⟨rfl, rfl, id⟩
    | clone handle => exact ⟨rfl, rfl, fun _ => hasRequester_of_lives hp⟩
    | dropHandle handle => exact keeps_dropHandle b handle
    | poll ticket =>
      obtain ⟨tickets, ht⟩ := b.poll_tickets ticket
      show Keeps b (b.poll ticket).1
      rw [ht]
      exact ⟨rfl, rfl, id⟩
    | _ => cases h

end Bridge

end UsbInventory
