/-
The course of a service: requesters and the worker act on the bridge in any order, one exchange at a time, and
everything that passes between the two sides is written down: a request by its answer, a step of the worker by what it
has changed on the bridge. Requesters may do whatever a handle or a ticket lets them do; the worker does its next step,
or waits. A step of the worker is one of six (`Work`).
-/
import UsbInventory.Proofs.Bridge.Request
import UsbInventory.Worker.Service

namespace UsbInventory

/-! ## Moves -/

/-- A move of one of the two sides. -/
inductive Move where
  | request (action : Bridge.Action) (requester : action.byRequester = true)
  | work

/-! ## Histories -/

/-- What passes between the two sides. -/
inductive Deed where
  /-- A requester has put a command into the queue. -/
  | queued (command : Command)
  /-- The worker has taken a command. -/
  | took (command : Command)
  /-- The worker has put a call into the queue. -/
  | sent (call : RegistryCall)
  /-- The worker has offered a call that nobody is left to receive. -/
  | refused (call : RegistryCall)
  /-- A requester has received a call. -/
  | received (call : RegistryCall)
  /-- The worker has answered a scan. -/
  | answered (ticket : Nat) (outcome : ScanOutcome)
  /-- The worker has let a scan go without an outcome. -/
  | abandoned (ticket : Nat)
  /-- A ticket has shown its outcome. -/
  | shown (ticket : Nat) (outcome : ScanOutcome)
  deriving DecidableEq

namespace Deed

/-- The commands that were queued. -/
def queuedIn (history : List Deed) : List Command :=
  history.filterMap fun
    | .queued command => some command
    | _ => none

/-- The commands that the worker took. -/
def takenIn (history : List Deed) : List Command :=
  history.filterMap fun
    | .took command => some command
    | _ => none

/-- The calls that were sent. -/
def sentIn (history : List Deed) : List RegistryCall :=
  history.filterMap fun
    | .sent call => some call
    | _ => none

/-- The calls that were offered, whether they could be sent or not. -/
def offeredIn (history : List Deed) : List RegistryCall :=
  history.filterMap fun
    | .sent call | .refused call => some call
    | _ => none

/-- The calls that were received. -/
def receivedIn (history : List Deed) : List RegistryCall :=
  history.filterMap fun
    | .received call => some call
    | _ => none

/-- The answers that were given. -/
def answeredIn (history : List Deed) : List (Nat × ScanOutcome) :=
  history.filterMap fun
    | .answered ticket outcome => some (ticket, outcome)
    | _ => none

/-- The scans that were let go, with the outcome that each was given. -/
def settledIn (history : List Deed) : List (Nat × Option ScanOutcome) :=
  history.filterMap fun
    | .answered ticket outcome => some (ticket, some outcome)
    | .abandoned ticket => some (ticket, none)
    | _ => none

/-- The outcomes that tickets have shown. -/
def shownIn (history : List Deed) : List (Nat × ScanOutcome) :=
  history.filterMap fun
    | .shown ticket outcome => some (ticket, outcome)
    | _ => none

section

variable (h h' : List Deed)

theorem takenIn_append : takenIn (h ++ h') = takenIn h ++ takenIn h' := List.filterMap_append

theorem sentIn_append : sentIn (h ++ h') = sentIn h ++ sentIn h' := List.filterMap_append

theorem offeredIn_append : offeredIn (h ++ h') = offeredIn h ++ offeredIn h' := List.filterMap_append

theorem answeredIn_append : answeredIn (h ++ h') = answeredIn h ++ answeredIn h' := List.filterMap_append

end

/-- What a request adds to a history: the worker has no part in it. -/
structure OfRequest (ds : List Deed) : Prop where
  taken : takenIn ds = []
  sent : sentIn ds = []
  offered : offeredIn ds = []
  settled : settledIn ds = []

section

variable {history : List Deed} {ticket : Nat} {outcome : ScanOutcome}

/-- What only one deed gives is in a view of a history if that deed is in the history. -/
theorem mem_view {β : Type} {view : Deed → Option β} {x : β} {d : Deed} (only : ∀ d', view d' = some x ↔ d' = d) :
    x ∈ history.filterMap view ↔ d ∈ history := by
  simp only [List.mem_filterMap, only, exists_eq_right]

/-- A scan that was answered was let go. -/
theorem mem_settledIn : (ticket, some outcome) ∈ settledIn history ↔ .answered ticket outcome ∈ history :=
  mem_view fun d => by cases d <;> simp

theorem mem_answeredIn : (ticket, outcome) ∈ answeredIn history ↔ .answered ticket outcome ∈ history :=
  mem_view fun d => by cases d <;> simp

theorem mem_shownIn : (ticket, outcome) ∈ shownIn history ↔ .shown ticket outcome ∈ history :=
  mem_view fun d => by cases d <;> simp

end

namespace OfRequest

variable {ds : List Deed}

/-- No answer is given by a request. -/
theorem not_answered (hr : OfRequest ds) (ticket : Nat) (outcome : ScanOutcome) :
    .answered ticket outcome ∉ ds := by
  rw [← mem_settledIn, hr.settled]
  exact List.not_mem_nil

/-- What the worker has taken, offered and answered is the same after a request. -/
theorem after (hr : OfRequest ds) (h : List Deed) :
    takenIn (h ++ ds) = takenIn h ∧ offeredIn (h ++ ds) = offeredIn h ∧ answeredIn (h ++ ds) = answeredIn h := by
  have ha : answeredIn ds = [] :=
    List.eq_nil_iff_forall_not_mem.2 fun ⟨ticket, outcome⟩ hm => hr.not_answered ticket outcome (mem_answeredIn.1 hm)
  rw [takenIn_append, offeredIn_append, answeredIn_append, hr.taken, hr.offered, ha]
  exact ⟨List.append_nil _, List.append_nil _, List.append_nil _⟩

end OfRequest

end Deed

/-- The tickets of the scans among some commands. -/
def Command.scans (commands : List Command) : List Nat :=
  commands.filterMap fun
    | .scan ticket => some ticket
    | .shutdown => none

theorem Command.scans_append (cs cs' : List Command) : scans (cs ++ cs') = scans cs ++ scans cs' :=
  List.filterMap_append

/-! ## Courses -/

/-- The outcome that the result of a pass gives its scan; a pass that broke off gives none. -/
def ScanOutcome.ofResult? : Option (Except DiscoveryError PassSummary) → Option ScanOutcome
  | some (.ok summary) => some (.completed summary)
  | some (.error e) => some (.failed e.message)
  | none => none

/-- What a request comes to, by its answer. -/
def Bridge.deeds (b : Bridge) (action : Action) : List Deed :=
  match action, (b.perform action).2 with
  | .requestScan _, .sent (.done ()) => [.queued (.scan b.tickets.length)]
  | .requestShutdown _, .sent (.done ()) => [.queued .shutdown]
  | .receive _, .received (.done call) => [.received call]
  | .tryReceive _, .call (some call) => [.received call]
  | .poll ticket, .reply (.ready outcome) => [.shown ticket outcome]
  | _, _ => []

/-- What a step of a worker has done, by the bridge before it and after it: it has taken the first command if the queue
of commands has changed, sent a call if that is the last in the queue of calls now, and let a scan go if that is not
held any more. -/
def Worker.deeds (b b' : Bridge) : Worker → List Deed
  | .idle => if b'.commands = b.commands then [] else b.commands.items.head?.toList.map .took
  | .serving _ (call :: _) _ =>
    if b'.calls.items = b.calls.items ++ [call] then [.sent call] else [.refused call]
  | .serving ticket [] result =>
    if ticket ∈ b.taken ∧ ticket ∉ b'.taken then
      [(ScanOutcome.ofResult? result).elim (.abandoned ticket) (.answered ticket)]
    else []
  | .stopped => []

/-- A service, and what has passed between its two sides. -/
structure Course where
  service : Service := {}
  history : List Deed := []

namespace Course

/-- Makes a move; a worker that has to wait or has stopped makes none. -/
def move (serve : Nat → ServedPass) (c : Course) : Move → Course
  | .request action _ =>
    { service := { c.service with bridge := (c.service.bridge.perform action).1 }
      history := c.history ++ c.service.bridge.deeds action }
  | .work =>
    match c.service.worker.step? serve c.service.bridge with
    | none => c
    | some (worker, bridge, _) =>
      { service := ⟨bridge, worker⟩, history := c.history ++ c.service.worker.deeds c.service.bridge bridge }

/-- The course of some moves, from a new service on. -/
def run (serve : Nat → ServedPass) (moves : List Move) : Course := moves.foldl (move serve) {}

/-- What holds of a new service, and after every move if it held before, holds after every course. -/
theorem run_induction {serve : Nat → ServedPass} {P : Course → Prop} (start : P {})
    (step : ∀ c m, P c → P (c.move serve m)) (moves : List Move) : P (run serve moves) :=
  List.foldlRecOn moves (move serve) start fun c h m _ => step c m h

end Course

/-! ## Requests -/

/-- A request is written down as what it queues, or as what it learns. -/
theorem Bridge.deeds_of_request (b : Bridge) {action : Action} (h : action.byRequester = true) :
    Deed.OfRequest (b.deeds action) := by
  unfold deeds
  generalize (b.perform action).2 = answer
  cases action with
  | requestScan | requestShutdown =>
    cases answer with
    | sent attempt => cases attempt <;> exact ⟨rfl, rfl, rfl, rfl⟩
    | _ => exact ⟨rfl, rfl, rfl, rfl⟩
  | receive | tryReceive =>
    cases answer with
    | received attempt => cases attempt <;> exact ⟨rfl, rfl, rfl, rfl⟩
    | call found => cases found <;> exact ⟨rfl, rfl, rfl, rfl⟩
    | _ => exact ⟨rfl, rfl, rfl, rfl⟩
  | poll =>
    cases answer with
    | reply reply => cases reply <;> exact ⟨rfl, rfl, rfl, rfl⟩
    | _ => exact ⟨rfl, rfl, rfl, rfl⟩
  | clone | dropHandle | dropTicket => exact ⟨rfl, rfl, rfl, rfl⟩
  | _ => cases h

/-! ## Steps of the worker -/

/-- What a step of the worker can be: what it is about to do before, what it does, and what it and the bridge are
like afterwards. -/
inductive Work (serve : Nat → ServedPass) (b : Bridge) : Worker → List Deed → Worker → Bridge → Prop where
  | takeScan (ticket : Nat) (rest : List Command) (next : b.commands.items = .scan ticket :: rest) :
    Work serve b .idle [.took (.scan ticket)] (.serving ticket (serve ticket).calls (serve ticket).result)
      { b with commands := ⟨rest⟩, taken := b.taken ++ [ticket] }
  | takeShutdown (rest : List Command) (next : b.commands.items = .shutdown :: rest) :
    Work serve b .idle [.took .shutdown] .stopped { b with commands := ⟨rest⟩ }.dropWorker
  | leave (empty : b.commands.items = []) (left : b.hasRequester = false) :
    Work serve b .idle [] .stopped b.dropWorker
  | send (ticket : Nat) (call : RegistryCall) (rest : List RegistryCall)
    (result : Option (Except DiscoveryError PassSummary)) (heard : b.hasRequester = true)
    (room : b.calls.items.length < Bridge.callCapacity) :
    Work serve b (.serving ticket (call :: rest) result) [.sent call] (.serving ticket rest result)
      { b with calls := ⟨b.calls.items ++ [call]⟩ }
  | refuse (ticket : Nat) (call : RegistryCall) (rest : List RegistryCall)
    (result : Option (Except DiscoveryError PassSummary)) (left : b.hasRequester = false) :
    Work serve b (.serving ticket (call :: rest) result) [.refused call] (.serving ticket rest result) b
  | answer (ticket : Nat) (result : Option (Except DiscoveryError PassSummary)) :
    Work serve b (.serving ticket [] result) ((Worker.serving ticket [] result).deeds b (Worker.answer b ticket result))
      .idle (Worker.answer b ticket result)

/-- A call is sent while a requester is left and has room for it. -/
theorem Bridge.send_cases (b : Bridge) (call : RegistryCall) :
    (b.hasRequester = true ∧ b.calls.items.length < callCapacity ∧
      b.send call = ({ b with calls := ⟨b.calls.items ++ [call]⟩ }, .done ())) ∨
    (b.hasRequester = true ∧ b.send call = (b, .pending)) ∨
    (b.hasRequester = false ∧ b.send call = (b, .failed .unheard)) := by
  unfold send
  rcases b.calls.put_cases callCapacity b.hasRequester call with ⟨hr, hl, hp⟩ | ⟨hr, -, hp⟩ | ⟨hr, hp⟩
  · exact .inl ⟨hr, hl, by rw [hp]⟩
  · exact .inr (.inl ⟨hr, by rw [hp]⟩)
  · exact .inr (.inr ⟨hr, by rw [hp]⟩)

/-- The bridge `b` after the worker has left it. -/
structure Bridge.Left (b b' : Bridge) : Prop where
  worker : b'.worker = false
  taken : b'.taken = b.taken
  handles : b'.handles = b.handles
  commands : b'.commands = b.commands ∨ b'.commands = {}

theorem Bridge.dropWorker_left (b : Bridge) : b.Left b.dropWorker := by
  unfold dropWorker
  rcases settle_cases { b with worker := false } with hs | ⟨-, -, tickets, hs⟩
  · rw [hs]
    exact ⟨rfl, rfl, rfl, .inl rfl⟩
  · rw [hs]
    exact ⟨rfl, rfl, rfl, .inr rfl⟩

/-- A worker that is about to take a command takes the first one, unless the queue stays as it is. -/
theorem Worker.deeds_take {b b' : Bridge} {command : Command} {rest : List Command}
    (next : b.commands.items = command :: rest) (hb : b'.commands.items = rest ∨ b'.commands.items = []) :
    Worker.idle.deeds b b' = [.took command] := by
  have hne : b'.commands ≠ b.commands := by
    intro he
    rw [he, next] at hb
    rcases hb with hb | hb
    · exact List.cons_ne_self command rest hb
    · cases hb
  rw [deeds, if_neg hne, next]
  rfl

theorem work_of_step {serve : Nat → ServedPass} {b b' : Bridge} {w w' : Worker} {events : List Log.Event}
    (h : w.step? serve b = some (w', b', events)) : Work serve b w (w.deeds b b') w' b' := by
  cases w with
  | idle =>
    cases hi : b.commands.items with
    | nil =>
      have ht : b.take = (b, if b.hasRequester then .pending else .failed .exhausted) := by
        simp only [Bridge.take, Queue.take, hi]
        cases b.hasRequester <;> simp
      cases hr : b.hasRequester with
      | true =>
        simp only [Worker.step?, ht, hr, if_true] at h
        cases h
      | false =>
        simp only [Worker.step?, ht, hr, Bool.false_eq_true, if_false] at h
        cases h
        have hd : Worker.idle.deeds b b.dropWorker = [] := by
          rw [Worker.deeds, hi]
          exact ite_self _
        rw [hd]
        exact .leave hi hr
    | cons command rest =>
      have ht : b.take = ({ b with commands := ⟨rest⟩ }.hold command, .done command) := by
        simp only [Bridge.take, Queue.take, hi]
      cases command with
      | scan ticket =>
        simp only [Worker.step?, ht] at h
        cases h
        rw [Worker.deeds_take hi (.inl rfl)]
        exact .takeScan ticket rest hi
      | shutdown =>
        simp only [Worker.step?, ht] at h
        cases h
        have hleft := Bridge.dropWorker_left { b with commands := ⟨rest⟩ }
        show Work serve b .idle (Worker.idle.deeds b (Bridge.dropWorker { b with commands := ⟨rest⟩ })) .stopped _
        rw [Worker.deeds_take hi (hleft.commands.imp (congrArg Queue.items) (congrArg Queue.items))]
        exact .takeShutdown rest hi
  | serving ticket calls result =>
    cases calls with
    | nil =>
      cases h
      exact .answer ticket result
    | cons call rest =>
      rcases b.send_cases call with ⟨hr, hl, hs⟩ | ⟨-, hs⟩ | ⟨hr, hs⟩
      · simp only [Worker.step?, Bridge.forward?, hs] at h
        cases h
        rw [Worker.deeds, if_pos rfl]
        exact .send ticket call rest result hr hl
      · simp only [Worker.step?, Bridge.forward?, hs] at h
        cases h
      · simp only [Worker.step?, Bridge.forward?, hs] at h
        cases h
        rw [Worker.deeds, if_neg (by simp)]
        exact .refuse ticket call rest result hr
  | stopped => cases h

/-! ## The worker's end of the bridge -/

/-- Whether a requester is left is told by the handles. -/
theorem Bridge.hasRequester_of_handles {b b' : Bridge} (hb : b'.handles = b.handles) (h : b'.hasRequester = true) :
    b.hasRequester = true := by
  unfold hasRequester at h ⊢
  rwa [← hb]

/-- The bridge `b` after the only scan that the worker holds has been answered: the worker is free. -/
structure Bridge.Answered (b b' : Bridge) : Prop where
  worker : b'.worker = b.worker
  taken : b'.taken = []
  handles : b'.handles = b.handles

theorem Bridge.letGo_only {b : Bridge} {ticket : Nat} (hb : b.taken = [ticket]) :
    ticket ∈ b.taken ∧ b.letGo ticket = { b with taken := [] } := by
  unfold letGo
  rw [hb, List.erase_cons_head]
  exact ⟨List.mem_singleton_self ticket, rfl⟩

/-- The only scan that is held is answered at its ticket if the outcome is wanted, and let go in any case. -/
theorem Bridge.respond_answered {b : Bridge} {ticket : Nat} (hb : b.taken = [ticket]) (outcome : ScanOutcome) :
    b.Answered (b.respond ticket outcome).1 := by
  obtain ⟨hm, hg⟩ := letGo_only hb
  unfold respond
  rw [if_pos hm, hg]
  dsimp only
  split <;> exact ⟨rfl, rfl, rfl⟩

theorem Worker.answer_answered {b : Bridge} {ticket : Nat} (hb : b.taken = [ticket])
    (result : Option (Except DiscoveryError PassSummary)) : b.Answered (answer b ticket result) := by
  unfold answer
  split
  · exact Bridge.respond_answered hb _
  · exact Bridge.respond_answered hb _
  · obtain ⟨hm, hg⟩ := Bridge.letGo_only hb
    unfold Bridge.dropResponse
    rw [if_pos hm, hg]
    exact ⟨rfl, rfl, rfl⟩

theorem Worker.deeds_answer {b : Bridge} {ticket : Nat} (hb : b.taken = [ticket])
    (result : Option (Except DiscoveryError PassSummary)) :
    (Worker.serving ticket [] result).deeds b (answer b ticket result) =
      [(ScanOutcome.ofResult? result).elim (.abandoned ticket) (.answered ticket)] := by
  refine if_pos ⟨(Bridge.letGo_only hb).1, ?_⟩
  rw [(answer_answered hb result).taken]
  exact List.not_mem_nil

/-- Answering a scan takes nothing and sends nothing. -/
theorem Worker.answer_in (b b' : Bridge) (ticket : Nat) (result : Option (Except DiscoveryError PassSummary)) :
    Deed.takenIn ((Worker.serving ticket [] result).deeds b b') = [] ∧
      Deed.sentIn ((Worker.serving ticket [] result).deeds b b') = [] ∧
      Deed.offeredIn ((Worker.serving ticket [] result).deeds b b') = [] := by
  rw [deeds]
  split
  · cases ScanOutcome.ofResult? result <;> exact ⟨rfl, rfl, rfl⟩
  · exact ⟨rfl, rfl, rfl⟩

end UsbInventory
