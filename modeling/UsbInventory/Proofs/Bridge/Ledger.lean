/-
What goes over a bridge, written down action by action. In every run of actions, by whichever side and in whatever
order, each queue gives out what was put in, once and in order, and holds what has not been given out.

An action is one of a few deals (`Deal`), and each of them keeps the accounts of the queues (`Balanced`).
-/
import UsbInventory.Proofs.Worker.Course

namespace UsbInventory

namespace Bridge

/-! ## Ledgers -/

/-- What has gone over a bridge, each kind in its order. -/
structure Ledger where
  /-- The commands that were queued. -/
  asked : List Command := []
  taken : List Command := []
  sent : List RegistryCall := []
  received : List RegistryCall := []
  /-- The taken scans that were let go, with the outcome that each was given. -/
  settled : List (Nat × Option ScanOutcome) := []
  /-- The outcomes that tickets have shown. -/
  shown : List (Nat × ScanOutcome) := []

/-- The scan that an answer lets go, if it is held. -/
def settled? (b : Bridge) (ticket : Option Nat) : Option Nat := (b.addressee? ticket).filter (· ∈ b.taken)

/-- Writes down an action on a bridge, by its answer. A scan is written under its ticket. -/
def Ledger.enter (l : Ledger) (b : Bridge) (action : Action) : Ledger :=
  match action, (b.perform action).2 with
  | .requestScan _, .sent (.done _) => { l with asked := l.asked ++ [.scan b.tickets.length] }
  | .requestShutdown _, .sent (.done _) => { l with asked := l.asked ++ [.shutdown] }
  | .take, .taken (.done command) => { l with taken := l.taken ++ [command] }
  | .tryTake, .command (some command) => { l with taken := l.taken ++ [command] }
  | .send call, .sent (.done _) => { l with sent := l.sent ++ [call] }
  | .forward call, .forwarded _ => if (b.send call).2.isDone then { l with sent := l.sent ++ [call] } else l
  | .receive _, .received (.done call) => { l with received := l.received ++ [call] }
  | .tryReceive _, .call (some call) => { l with received := l.received ++ [call] }
  | .respond outcome ticket, .heard _ =>
    { l with settled := l.settled ++ (b.settled? ticket).toList.map (·, some outcome) }
  | .dropResponse ticket, .done => { l with settled := l.settled ++ (b.settled? ticket).toList.map (·, none) }
  | .poll ticket, .reply (.ready outcome) => { l with shown := l.shown ++ [(ticket, outcome)] }
  | _, _ => l

/-- A bridge with its ledger. -/
structure Traffic where
  bridge : Bridge := {}
  ledger : Ledger := {}

namespace Traffic

def perform (x : Traffic) (action : Action) : Traffic :=
  ⟨(x.bridge.perform action).1, x.ledger.enter x.bridge action⟩

/-- The traffic of some actions on a new bridge. -/
def run (actions : List Action) : Traffic := actions.foldl perform {}

/-- What holds of a new bridge, and after every action of a run if it held before, holds after the run. -/
theorem run_induction {P : Traffic → Prop} {actions : List Action} (start : P {})
    (step : ∀ x, ∀ action ∈ actions, P x → P (x.perform action)) : P (run actions) :=
  List.foldlRecOn actions perform start fun x h action hm => step x action hm h

/-- The ledger has no say in what happens to the bridge. -/
theorem bridge_run (actions : List Action) : (run actions).bridge = (({} : Bridge).performAll actions).1 := by
  have goes : ∀ (actions : List Action) (x : Traffic),
      (actions.foldl perform x).bridge = (x.bridge.performAll actions).1 := by
    intro actions
    induction actions with
    | nil => exact fun x => rfl
    | cons action actions ih => exact fun x => ih (x.perform action)
  exact goes actions {}

end Traffic

/-! ## Replies -/

/-- What a ticket would show. -/
def replyAt (b : Bridge) (ticket : Nat) : Option Reply := (b.tickets[ticket]?).map Ticket.reply

/-- Whether anybody can still reach the queues. -/
def isOpen (b : Bridge) : Bool := b.hasRequester || b.worker

theorem replyAt_setReply (b : Bridge) (ticket t : Nat) (reply : Reply) :
    (b.setReply ticket reply).replyAt t = if ticket = t then (b.replyAt t).map fun _ => reply else b.replyAt t := by
  unfold replyAt setReply
  rw [reply_modify, Option.map_map]
  rfl

theorem wants_setReply (b : Bridge) (ticket t : Nat) (reply : Reply) :
    (b.setReply ticket reply).wants t = b.wants t := by
  unfold wants setReply
  rw [List.getElem?_modify]
  cases b.tickets[t]? with
  | none => rfl
  | some tk => by_cases h : ticket = t <;> simp [h]

/-- Setting a reply that is there already changes nothing. -/
theorem setReply_of_replyAt {b : Bridge} {ticket : Nat} {reply : Reply} (h : b.replyAt ticket = some reply) :
    b.setReply ticket reply = b := by
  have hm : b.tickets.modify ticket (fun tk => { tk with reply }) = b.tickets := by
    refine List.ext_getElem? fun t => ?_
    rw [List.getElem?_modify]
    by_cases ht : ticket = t
    · subst ht
      obtain ⟨tk, hk, rfl⟩ := Option.map_eq_some_iff.1 h
      simp [hk]
    · simp [ht]
  unfold setReply
  rw [hm]

theorem replyAt_dropTicket (b : Bridge) (ticket t : Nat) : (b.dropTicket ticket).replyAt t = b.replyAt t := by
  unfold replyAt dropTicket
  rw [reply_modify]
  split <;> rfl

/-- A ticket that is given up is not wanted back. -/
theorem wants_of_dropTicket {b : Bridge} {ticket t : Nat} (h : (b.dropTicket ticket).wants t = true) :
    b.wants t = true := by
  unfold wants dropTicket at *
  rw [List.getElem?_modify] at h
  cases hk : b.tickets[t]? with
  | none =>
    rw [hk] at h
    cases h
  | some tk =>
    rw [hk] at h
    by_cases ht : ticket = t
    · simp [ht] at h
    · simpa [ht] using h

/-- The replies after one more ticket. -/
theorem replyAt_append {b b' : Bridge} {reply : Reply} (h : b'.tickets = b.tickets ++ [{ reply := reply }]) (t : Nat) :
    b'.replyAt t = if t = b.tickets.length then some reply else b.replyAt t := by
  unfold replyAt
  rw [h, List.getElem?_append]
  rcases Nat.lt_trichotomy t b.tickets.length with hl | rfl | hl
  · rw [if_pos hl, if_neg (Nat.ne_of_lt hl)]
  · simp
  · rw [if_neg (Nat.lt_asymm hl), if_neg (Nat.ne_of_gt hl), List.getElem?_eq_none (Nat.le_of_lt hl),
      List.getElem?_eq_none (Nat.le_sub_of_add_le (by rw [List.length_singleton]; omega))]

theorem wants_append {b b' : Bridge} {tk : Ticket} (h : b'.tickets = b.tickets ++ [tk]) {t : Nat}
    (ht : t < b.tickets.length) : b'.wants t = b.wants t := by
  unfold wants
  rw [h, List.getElem?_append_left ht]

theorem lt_of_replyAt {b : Bridge} {t : Nat} {reply : Reply} (h : b.replyAt t = some reply) :
    t < b.tickets.length := by
  obtain ⟨tk, hk, -⟩ := Option.map_eq_some_iff.1 h
  exact (List.getElem?_eq_some_iff.1 hk).1

/-- Closes some tickets. -/
def closing (scans : List Nat) (tickets : List Ticket) : List Ticket :=
  scans.foldl (fun tickets ticket => tickets.modify ticket fun t => { t with reply := .closed }) tickets

theorem reply_closing : ∀ (scans : List Nat) (tickets : List Ticket) (t : Nat),
    ((closing scans tickets)[t]?).map Ticket.reply =
      if t ∈ scans then ((tickets[t]?).map Ticket.reply).map fun _ => .closed else (tickets[t]?).map Ticket.reply
  | [], _, _ => rfl
  | scan :: scans, _, t => by
    refine (reply_closing scans _ t).trans ?_
    rw [reply_modify]
    by_cases hs : t ∈ scans <;> by_cases ht : scan = t <;> simp [hs, ht, Function.comp_def, eq_comm]

theorem wanted_closing : ∀ (scans : List Nat) (tickets : List Ticket) (t : Nat),
    ((closing scans tickets)[t]?).any (·.wanted) = (tickets[t]?).any (·.wanted)
  | [], _, _ => rfl
  | scan :: scans, tickets, t => by
    refine (wanted_closing scans _ t).trans ?_
    rw [List.getElem?_modify]
    cases tickets[t]? with
    | none => rfl
    | some tk => by_cases h : scan = t <;> simp [h]

theorem length_closing : ∀ (scans : List Nat) (tickets : List Ticket),
    (closing scans tickets).length = tickets.length
  | [], _ => rfl
  | _ :: scans, _ => (length_closing scans _).trans (List.length_modify ..)

/-! ## Deals -/

/-- What an action does to a bridge and to its ledger. -/
inductive Deal (b : Bridge) (l : Ledger) : Bridge → Ledger → Prop where
  | nothing : Deal b l b l
  /-- A handle is added, or a side leaves and another is left. -/
  | sides (handles : List Bool) (worker : Bool) (requesters : handles.any id = true → b.hasRequester = true)
    (here : worker = true → b.worker = true) (stays : isOpen { b with handles, worker } = true) :
    Deal b l { b with handles, worker } l
  /-- The last side leaves. The queues go with it, and the scans in them are closed. -/
  | close (handles : List Bool) (worker : Bool) (tickets : List Ticket)
    (gone : isOpen { b with handles, worker } = false)
    (closed : tickets = closing (Command.scans b.commands.items) b.tickets) :
    Deal b l { b with handles, worker, tickets, commands := {}, calls := {} } l
  /-- A scan that could not be queued is closed. -/
  | refuse : Deal b l { b with tickets := b.tickets ++ [{ reply := .closed }] } l
  | askScan (worker : b.worker = true) (room : b.commands.items.length < commandCapacity) :
    Deal b l
      { b with
        commands := ⟨b.commands.items ++ [.scan b.tickets.length]⟩
        tickets := b.tickets ++ [{ reply := .waiting }] }
      { l with asked := l.asked ++ [.scan b.tickets.length] }
  | askShutdown (worker : b.worker = true) (room : b.commands.items.length < commandCapacity) :
    Deal b l { b with commands := ⟨b.commands.items ++ [.shutdown]⟩ } { l with asked := l.asked ++ [.shutdown] }
  | take (command : Command) (rest : List Command) (worker : b.worker = true)
    (next : b.commands.items = command :: rest) :
    Deal b l ({ b with commands := ⟨rest⟩ }.hold command) { l with taken := l.taken ++ [command] }
  | send (call : RegistryCall) (requester : b.hasRequester = true) (room : b.calls.items.length < callCapacity) :
    Deal b l { b with calls := ⟨b.calls.items ++ [call]⟩ } { l with sent := l.sent ++ [call] }
  | receive (call : RegistryCall) (rest : List RegistryCall) (requester : b.hasRequester = true)
    (next : b.calls.items = call :: rest) :
    Deal b l { b with calls := ⟨rest⟩ } { l with received := l.received ++ [call] }
  /-- A scan that is held is let go, with an outcome or without. -/
  | answer (ticket : Nat) (outcome : Option ScanOutcome) (held : ticket ∈ b.taken) :
    Deal b l ((b.letGo ticket).setReply ticket (.ofOutcome outcome))
      { l with settled := l.settled ++ [(ticket, outcome)] }
  /-- An outcome is given to a scan that nobody follows any more. -/
  | waste (ticket : Nat) (outcome : ScanOutcome) (held : ticket ∈ b.taken) (unwanted : b.wants ticket = false) :
    Deal b l (b.letGo ticket) { l with settled := l.settled ++ [(ticket, some outcome)] }
  | reveal (ticket : Nat) (outcome : ScanOutcome) (shows : b.Shows ticket outcome) :
    Deal b l (b.setReply ticket .closed) { l with shown := l.shown ++ [(ticket, outcome)] }
  | giveUp (ticket : Nat) : Deal b l (b.dropTicket ticket) l

theorem settle_of_open {b : Bridge} (h : b.isOpen = true) : b.settle = b := if_pos h

/-- Dropping queued commands closes the tickets of the scans among them. -/
theorem foldl_discard_eq : ∀ (items : List Command) (b : Bridge),
    items.foldl discard b = { b with tickets := closing (Command.scans items) b.tickets }
  | [], _ => rfl
  | .shutdown :: items, _ => foldl_discard_eq items _
  | .scan ticket :: items, b => foldl_discard_eq items (b.setReply ticket .closed)

theorem settle_of_gone {b : Bridge} (h : b.isOpen = false) :
    b.settle = { b with
      tickets := closing (Command.scans b.commands.items) b.tickets, commands := {}, calls := {} } := by
  have hs : b.settle = { b.commands.items.foldl discard b with commands := {}, calls := {} } :=
    if_neg (by rw [show (b.hasRequester || b.worker) = false from h]; exact Bool.false_ne_true)
  rw [hs, foldl_discard_eq]

/-- A side that leaves takes the queues with it if no other is left. -/
theorem deal_settle {b : Bridge} (l : Ledger) {handles : List Bool} {worker : Bool}
    (requesters : handles.any id = true → b.hasRequester = true) (here : worker = true → b.worker = true) :
    Deal b l (settle { b with handles, worker }) l := by
  cases hs : isOpen { b with handles, worker } with
  | true =>
    rw [settle_of_open hs]
    exact .sides handles worker requesters here hs
  | false =>
    rw [settle_of_gone hs]
    exact .close handles worker _ hs rfl

section

variable (b : Bridge) (l : Ledger)

theorem deal_requestScan {handle : Nat} (h : b.lives handle = true) :
    Deal b l (b.perform (.requestScan handle)).1 (l.enter b (.requestScan handle)) := by
  have hp : b.perform (.requestScan handle) = (b.requestScan.1, .sent b.requestScan.2) := if_pos h
  unfold Ledger.enter
  rw [hp]
  unfold requestScan sendCommand
  rcases b.commands.put_cases commandCapacity b.worker (.scan b.tickets.length) with
    ⟨hw, hr, hq⟩ | ⟨-, -, hq⟩ | ⟨-, hq⟩
  · rw [hq]
    exact .askScan hw hr
  · rw [hq]
    exact .refuse
  · rw [hq]
    exact .refuse

theorem deal_requestShutdown {handle : Nat} (h : b.lives handle = true) :
    Deal b l (b.perform (.requestShutdown handle)).1 (l.enter b (.requestShutdown handle)) := by
  have hp : b.perform (.requestShutdown handle) = (b.requestShutdown.1, .sent b.requestShutdown.2) := if_pos h
  unfold Ledger.enter
  rw [hp]
  unfold requestShutdown sendCommand
  rcases b.commands.put_cases commandCapacity b.worker .shutdown with ⟨hw, hr, hq⟩ | ⟨-, -, hq⟩ | ⟨-, hq⟩
  · rw [hq]
    exact .askShutdown hw hr
  · rw [hq]
    exact .nothing
  · rw [hq]
    exact .nothing

theorem deal_receive {handle : Nat} (h : b.lives handle = true) :
    Deal b l (b.perform (.receive handle)).1 (l.enter b (.receive handle)) := by
  have hp : b.perform (.receive handle) = (b.receive.1, .received b.receive.2) := if_pos h
  unfold Ledger.enter
  rw [hp]
  unfold Bridge.receive
  rcases b.calls.take_cases b.worker with ⟨call, rest, hc, hq⟩ | ⟨-, -, hq⟩ | ⟨-, -, hq⟩
  · rw [hq]
    exact .receive call rest (hasRequester_of_lives h) hc
  · rw [hq]
    exact .nothing
  · rw [hq]
    exact .nothing

theorem deal_tryReceive {handle : Nat} (h : b.lives handle = true) :
    Deal b l (b.perform (.tryReceive handle)).1 (l.enter b (.tryReceive handle)) := by
  have hp : b.perform (.tryReceive handle) = (b.receive?.1, .call b.receive?.2) := if_pos h
  unfold Ledger.enter
  rw [hp]
  unfold Bridge.receive?
  rcases b.calls.take?_cases with ⟨call, rest, hc, hq⟩ | ⟨-, hq⟩
  · rw [hq]
    exact .receive call rest (hasRequester_of_lives h) hc
  · rw [hq]
    exact .nothing

theorem deal_take (h : b.worker = true) : Deal b l (b.perform .take).1 (l.enter b .take) := by
  have hp : b.perform .take = (b.take.1, .taken b.take.2) := if_pos h
  unfold Ledger.enter
  rw [hp]
  unfold Bridge.take
  rcases b.commands.take_cases b.hasRequester with ⟨command, rest, hc, hq⟩ | ⟨-, -, hq⟩ | ⟨-, -, hq⟩
  · rw [hq]
    exact .take command rest h hc
  · rw [hq]
    exact .nothing
  · rw [hq]
    exact .nothing

theorem deal_tryTake (h : b.worker = true) : Deal b l (b.perform .tryTake).1 (l.enter b .tryTake) := by
  have hp : b.perform .tryTake = (b.take?.1, .command b.take?.2) := if_pos h
  unfold Ledger.enter
  rw [hp]
  unfold Bridge.take?
  rcases b.commands.take?_cases with ⟨command, rest, hc, hq⟩ | ⟨-, hq⟩
  · rw [hq]
    exact .take command rest h hc
  · rw [hq]
    exact .nothing

theorem deal_send (call : RegistryCall) (h : b.worker = true) :
    Deal b l (b.perform (.send call)).1 (l.enter b (.send call)) := by
  have hp : b.perform (.send call) = ((b.send call).1, .sent (b.send call).2) := if_pos h
  unfold Ledger.enter
  rw [hp]
  unfold Bridge.send
  rcases b.calls.put_cases callCapacity b.hasRequester call with ⟨hr, hl, hq⟩ | ⟨-, -, hq⟩ | ⟨-, hq⟩
  · rw [hq]
    exact .send call hr hl
  · rw [hq]
    exact .nothing
  · rw [hq]
    exact .nothing

theorem deal_forward (call : RegistryCall) (h : b.worker = true) :
    Deal b l (b.perform (.forward call)).1 (l.enter b (.forward call)) := by
  have hp : b.perform (.forward call) = ((b.forward call).1, .forwarded (b.forward call).2) := if_pos h
  unfold Ledger.enter
  rw [hp]
  dsimp only
  unfold Bridge.forward Bridge.forward? Bridge.send
  rcases b.calls.put_cases callCapacity b.hasRequester call with ⟨hr, hl, hq⟩ | ⟨-, -, hq⟩ | ⟨-, hq⟩
  · rw [hq]
    exact .send call hr hl
  · rw [hq]
    exact .nothing
  · rw [hq]
    exact .nothing

theorem settled?_of_mem {ticket : Option Nat} {t : Nat} (ha : b.addressee? ticket = some t) (hm : t ∈ b.taken) :
    b.settled? ticket = some t := by
  rw [settled?, ha, Option.filter_some, if_pos (decide_eq_true hm)]

theorem settled?_of_not_mem {ticket : Option Nat} (hn : ∀ t, b.addressee? ticket = some t → t ∉ b.taken) :
    b.settled? ticket = none := by
  unfold settled?
  cases ha : b.addressee? ticket with
  | none => rfl
  | some t => rw [Option.filter_some, if_neg (by simpa using hn t ha)]

/-- An answer for no scan that is held is lost. -/
theorem deal_lost {ticket : Option Nat} (outcome : Option ScanOutcome) (hn : b.settled? ticket = none) :
    Deal b l b { l with settled := l.settled ++ (b.settled? ticket).toList.map (·, outcome) } := by
  rw [hn, Option.toList_none, List.map_nil, List.append_nil]
  exact .nothing

theorem deal_respond (outcome : ScanOutcome) (ticket : Option Nat) :
    Deal b l (b.perform (.respond outcome ticket)).1 (l.enter b (.respond outcome ticket)) := by
  let after : Bridge × Bool := (b.addressee? ticket).elim (b, false) (b.respond · outcome)
  have hp : b.perform (.respond outcome ticket) = (after.1, .heard after.2) := if_pos rfl
  unfold Ledger.enter
  rw [hp]
  dsimp only [after]
  cases ha : b.addressee? ticket with
  | none => exact deal_lost b l (some outcome) (b.settled?_of_not_mem fun t ht => by rw [ha] at ht; cases ht)
  | some t =>
    rw [Option.elim_some]
    unfold Bridge.respond
    by_cases hm : t ∈ b.taken
    · rw [if_pos hm, b.settled?_of_mem ha hm]
      dsimp only
      split
      · exact .answer t (some outcome) hm
      · next hw => exact .waste t outcome hm (Bool.not_eq_true _ ▸ hw)
    · rw [if_neg hm]
      refine deal_lost b l (some outcome) (b.settled?_of_not_mem fun u hu => ?_)
      cases ha.symm.trans hu
      exact hm

theorem deal_dropResponse (ticket : Option Nat) :
    Deal b l (b.perform (.dropResponse ticket)).1 (l.enter b (.dropResponse ticket)) := by
  have hp : b.perform (.dropResponse ticket) = ((b.addressee? ticket).elim b b.dropResponse, .done) := if_pos rfl
  unfold Ledger.enter
  rw [hp]
  dsimp only
  cases ha : b.addressee? ticket with
  | none => exact deal_lost b l none (b.settled?_of_not_mem fun t ht => by rw [ha] at ht; cases ht)
  | some t =>
    rw [Option.elim_some]
    unfold Bridge.dropResponse
    by_cases hm : t ∈ b.taken
    · rw [if_pos hm, b.settled?_of_mem ha hm]
      exact .answer t none hm
    · rw [if_neg hm]
      refine deal_lost b l none (b.settled?_of_not_mem fun u hu => ?_)
      cases ha.symm.trans hu
      exact hm

theorem deal_poll (ticket : Nat) : Deal b l (b.perform (.poll ticket)).1 (l.enter b (.poll ticket)) := by
  have hp : b.perform (.poll ticket) = ((b.poll ticket).1, .reply (b.poll ticket).2) := if_pos rfl
  unfold Ledger.enter
  rw [hp]
  dsimp only
  unfold Bridge.poll
  cases hk : b.tickets[ticket]? with
  | none => exact .nothing
  | some tk =>
    have hr : b.replyAt ticket = some tk.reply := by rw [replyAt, hk, Option.map_some]
    dsimp only
    cases hc : tk.reply with
    | waiting => exact .nothing
    | ready outcome => exact .reveal ticket outcome (show b.replyAt ticket = _ by rw [hr, hc])
    | closed =>
      -- a closed ticket stays as it is
      show Deal b l (b.setReply ticket .closed) l
      rw [setReply_of_replyAt (hc ▸ hr)]
      exact .nothing

theorem deal_clone {handle : Nat} (h : b.lives handle = true) :
    Deal b l (b.perform (.clone handle)).1 (l.enter b (.clone handle)) := by
  have hp : b.perform (.clone handle) = (b.addHandle.1, .handle b.addHandle.2) := if_pos h
  unfold Ledger.enter
  rw [hp]
  exact .sides (b.handles ++ [true]) b.worker (fun _ => hasRequester_of_lives h) id (by simp [isOpen, hasRequester])

theorem deal_dropHandle {handle : Nat} (h : b.lives handle = true) :
    Deal b l (b.perform (.dropHandle handle)).1 (l.enter b (.dropHandle handle)) := by
  have hp : b.perform (.dropHandle handle) = (b.dropHandle handle, .done) := if_pos h
  unfold Ledger.enter
  rw [hp]
  exact deal_settle l (fun _ => hasRequester_of_lives h) id

theorem deal_dropWorker (h : b.worker = true) : Deal b l (b.perform .dropWorker).1 (l.enter b .dropWorker) := by
  have hp : b.perform .dropWorker = (b.dropWorker, .done) := if_pos h
  unfold Ledger.enter
  rw [hp]
  exact deal_settle l id fun hf => by cases hf

/-- Every action is a deal. -/
theorem deal_of_perform (action : Action) : Deal b l (b.perform action).1 (l.enter b action) := by
  cases hp : action.possible b with
  | false =>
    -- whoever would act is gone
    have hi : b.perform action = (b, .absent) := if_neg (by rw [hp]; exact Bool.false_ne_true)
    have hn : l.enter b action = l := by
      unfold Ledger.enter
      rw [hi]
      cases action <;> rfl
    rw [hi, hn]
    exact .nothing
  | true =>
    cases action with
    | requestScan handle => exact deal_requestScan b l hp
    | requestShutdown handle => exact deal_requestShutdown b l hp
    | receive handle => exact deal_receive b l hp
    | tryReceive handle => exact deal_tryReceive b l hp
    | clone handle => exact deal_clone b l hp
    | dropHandle handle => exact deal_dropHandle b l hp
    | take => exact deal_take b l hp
    | tryTake => exact deal_tryTake b l hp
    | send call => exact deal_send b l call hp
    | forward call => exact deal_forward b l call hp
    | dropWorker => exact deal_dropWorker b l hp
    | respond outcome ticket => exact deal_respond b l outcome ticket
    | dropResponse ticket => exact deal_dropResponse b l ticket
    | poll ticket => exact deal_poll b l ticket
    | dropTicket ticket =>
      have hi : b.perform (.dropTicket ticket) = (b.dropTicket ticket, .done) := if_pos hp
      have hn : l.enter b (.dropTicket ticket) = l := by
        unfold Ledger.enter
        rw [hi]
      rw [hi, hn]
      exact .giveUp ticket

end

/-! ## The accounts of the queues -/

/-- While anybody can reach the queues, what was given out and what is queued make up what was put in; and a queue
never holds more than its capacity. -/
structure Balanced (b : Bridge) (l : Ledger) : Prop where
  commands : b.isOpen = true → l.taken ++ b.commands.items = l.asked
  calls : b.isOpen = true → l.received ++ b.calls.items = l.sent
  taken : l.taken <+: l.asked
  received : l.received <+: l.sent
  commandRoom : b.commands.items.length ≤ commandCapacity
  callRoom : b.calls.items.length ≤ callCapacity
  left : b.isOpen = false → b.commands.items = []

variable {b b' : Bridge} {l l' : Ledger}

theorem isOpen_of_sides {handles : List Bool} {worker : Bool} (hr : handles.any id = true → b.hasRequester = true)
    (hw : worker = true → b.worker = true) (h : isOpen { b with handles, worker } = true) : b.isOpen = true := by
  unfold isOpen at h ⊢
  rw [Bool.or_eq_true] at h ⊢
  exact h.imp hr hw

theorem isOpen_of_requester (h : b.hasRequester = true) : b.isOpen = true := by
  unfold isOpen
  rw [h]
  rfl

theorem isOpen_of_worker (h : b.worker = true) : b.isOpen = true := by
  unfold isOpen
  rw [h, Bool.or_true]

/-- A command may be queued while the worker is there and has room for it. -/
theorem Balanced.ask (h : Balanced b l) {command : Command} (worker : b.worker = true)
    (room : b.commands.items.length < commandCapacity) {tickets : List Ticket} :
    Balanced { b with commands := ⟨b.commands.items ++ [command]⟩, tickets }
      { l with asked := l.asked ++ [command] } := by
  have hb := isOpen_of_worker worker
  refine ⟨fun _ => ?_, h.calls, h.taken.trans (List.prefix_append _ _), h.received, ?_, h.callRoom, fun hf => ?_⟩
  · rw [← List.append_assoc, h.commands hb]
  · rw [List.length_append]
    exact room
  · exact absurd (hf.symm.trans hb) Bool.false_ne_true

theorem Balanced.deal (h : Balanced b l) (d : Deal b l b' l') : Balanced b' l' := by
  cases d with
  | nothing => exact h
  | sides handles worker requesters here stays =>
    have hb := isOpen_of_sides requesters here stays
    refine ⟨fun _ => h.commands hb, fun _ => h.calls hb, h.taken, h.received, h.commandRoom, h.callRoom, fun hf => ?_⟩
    exact absurd (hf.symm.trans stays) Bool.false_ne_true
  | close handles worker tickets gone =>
    refine ⟨fun ht => ?_, fun ht => ?_, h.taken, h.received, Nat.zero_le _, Nat.zero_le _, fun _ => rfl⟩
    · exact absurd (gone.symm.trans ht) Bool.false_ne_true
    · exact absurd (gone.symm.trans ht) Bool.false_ne_true
  | refuse => exact ⟨h.commands, h.calls, h.taken, h.received, h.commandRoom, h.callRoom, h.left⟩
  | askScan worker room => exact h.ask worker room
  | askShutdown worker room => exact h.ask worker room
  | take command rest worker next =>
    have hb := isOpen_of_worker worker
    have hc : l.taken ++ [command] ++ rest = l.asked := by
      rw [List.append_assoc, List.singleton_append, ← next, h.commands hb]
    have hroom : rest.length ≤ commandCapacity := by
      have hr := h.commandRoom
      rw [next, List.length_cons] at hr
      omega
    cases command with
    | scan ticket =>
      exact ⟨fun _ => hc, h.calls, ⟨rest, hc⟩, h.received, hroom, h.callRoom,
        fun hf => absurd (hf.symm.trans hb) Bool.false_ne_true⟩
    | shutdown =>
      exact ⟨fun _ => hc, h.calls, ⟨rest, hc⟩, h.received, hroom, h.callRoom,
        fun hf => absurd (hf.symm.trans hb) Bool.false_ne_true⟩
  | send call requester room =>
    have hb := isOpen_of_requester requester
    refine ⟨h.commands, fun _ => ?_, h.taken, h.received.trans (List.prefix_append _ _), h.commandRoom, ?_, h.left⟩
    · rw [← List.append_assoc, h.calls hb]
    · rw [List.length_append]
      exact room
  | receive call rest requester next =>
    have hb := isOpen_of_requester requester
    have hc : l.received ++ [call] ++ rest = l.sent := by
      rw [List.append_assoc, List.singleton_append, ← next, h.calls hb]
    refine ⟨h.commands, fun _ => hc, h.taken, ⟨rest, hc⟩, h.commandRoom, ?_, h.left⟩
    have hr := h.callRoom
    rw [next, List.length_cons] at hr
    exact Nat.le_of_succ_le hr
  | answer ticket outcome held =>
    exact ⟨h.commands, h.calls, h.taken, h.received, h.commandRoom, h.callRoom, h.left⟩
  | waste ticket outcome held =>
    exact ⟨h.commands, h.calls, h.taken, h.received, h.commandRoom, h.callRoom, h.left⟩
  | reveal ticket outcome shows =>
    exact ⟨h.commands, h.calls, h.taken, h.received, h.commandRoom, h.callRoom, h.left⟩
  | giveUp ticket => exact ⟨h.commands, h.calls, h.taken, h.received, h.commandRoom, h.callRoom, h.left⟩

end Bridge

end UsbInventory
