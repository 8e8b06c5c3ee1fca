/-
A scan followed to its end, over every order in which the worker and the requester take their steps. However the two
take turns, the requester takes in the calls of the pass in order, each once, and when it returns it has all of them
and the end of that pass; until then one of the two can step, and no order of steps is endless.

The invariant has a constructor for each stage of a scan (`Scan.Stage`): asked for, served, answered, over. At each of
them the calls taken in, those queued and those to be sent make up the pass, so a requester that finds the queue empty
after the answer has seen all of it. Every step makes the bound of the scan smaller (`Scan.weight`), whatever its
stage.
-/
import UsbInventory.CommandLine.Run
import UsbInventory.Proofs.Worker.Course

namespace UsbInventory

/-- The devices that some calls register, in order. -/
def RegistryCall.registered (calls : List RegistryCall) : List DeviceIdentity :=
  calls.filterMap fun
    | .register d => some d
    | .endOfPass _ => none

theorem Registry.devices_tellAll (calls : List RegistryCall) :
    (({} : Registry).tellAll calls).devices = RegistryCall.registered calls := by
  have goes : ∀ (calls : List RegistryCall) (r : Registry),
      (r.tellAll calls).devices = r.devices ++ RegistryCall.registered calls := by
    intro calls
    induction calls with
    | nil => exact fun r => (List.append_nil _).symm
    | cons call calls ih =>
      intro r
      refine (ih (r.tell call)).trans ?_
      cases call with
      | register d => simp [Registry.tell, RegistryCall.registered]
      | endOfPass s => rfl
  exact goes calls {}

/-! ## Turns -/

namespace Scan

/-- The two sides of a scan. -/
inductive Party where
  | worker
  | requester

/-- The next step of one side, if it can take one. -/
def step? (serve : Nat → ServedPass) (s : Scan) : Party → Option Scan
  | .worker => s.workerStep? serve
  | .requester => s.listenerStep?

/-- One side takes its turn; if it cannot step, nothing happens. -/
def turn (serve : Nat → ServedPass) (s : Scan) (p : Party) : Scan := (s.step? serve p).getD s

/-- A scan that was just asked for, on a new bridge whose worker has not taken anything yet. -/
def fresh : Scan := { bridge := ({} : Bridge).requestScan.1, worker := .idle, ticket := 0 }

/-- The scan after the two sides have taken turns. -/
def after (serve : Nat → ServedPass) (turns : List Party) : Scan := turns.foldl (turn serve) fresh

/-! ## Steps of the requester -/

/-- The requester looks at the queue: it takes the first call in, or there is none and the worker is there or
gone. -/
theorem look_cases (s : Scan) (idle : Listener) :
    (∃ call rest, s.bridge.calls.items = call :: rest ∧ s.look idle =
      { s with bridge := { s.bridge with calls := ⟨rest⟩ }, listener := .listening }.handle call) ∨
    (s.bridge.calls.items = [] ∧ s.bridge.worker = true ∧ s.look idle = { s with listener := idle }) ∨
    (s.bridge.calls.items = [] ∧ s.bridge.worker = false ∧
      ∃ events, s.look idle = { s with listener := .closing, events }) := by
  unfold look Bridge.receive Queue.take
  cases hc : s.bridge.calls.items with
  | cons call rest => exact .inl ⟨call, rest, rfl, rfl⟩
  | nil =>
    cases hw : s.bridge.worker with
    | true => exact .inr (.inl ⟨rfl, rfl, rfl⟩)
    | false => exact .inr (.inr ⟨rfl, rfl, _, rfl⟩)

/-- The requester looks at the ticket: it shows the end of the scan, or it does not. -/
theorem check_cases (s : Scan) (other : Listener) :
    (ticketReady s.bridge s.ticket = false ∧ s.check other = { s with listener := other }) ∨
    (∃ outcome, endOf? (s.bridge.poll s.ticket).2 = some outcome ∧
      s.check other = { s with bridge := (s.bridge.poll s.ticket).1, listener := .draining outcome }) := by
  unfold check ticketReady
  cases he : endOf? (s.bridge.poll s.ticket).2 with
  | some outcome => exact .inr ⟨outcome, rfl, by dsimp only; rw [he]⟩
  | none => exact .inl ⟨rfl, by dsimp only; rw [he]⟩

/-! ## Stages -/

/-- The requester looks for calls and for the end of the scan. -/
def Looking : Listener → Prop
  | .listening | .checking | .waiting => True
  | _ => False

/-- Where a followed scan stands, with the calls of its pass: taken in, queued, and still to be sent. -/
inductive Stage (pass : ServedPass) (s : Scan) : Prop where
  /-- The worker has not taken the scan. -/
  | asked (looking : Looking s.listener) (worker : s.worker = .idle)
    (commands : s.bridge.commands.items = [.scan 0]) (tickets : s.bridge.tickets = [⟨.waiting, true⟩])
    (taken : s.bridge.taken = []) (calls : s.handled ++ s.bridge.calls.items = [])
  /-- The worker has sent a part of the pass. -/
  | serving (rest : List RegistryCall) (looking : Looking s.listener)
    (worker : s.worker = .serving 0 rest pass.result) (commands : s.bridge.commands.items = [])
    (tickets : s.bridge.tickets = [⟨.waiting, true⟩]) (taken : s.bridge.taken = [0])
    (calls : s.handled ++ s.bridge.calls.items ++ rest = pass.calls)
  /-- The worker has sent the pass and answered, and the requester has not seen the answer. -/
  | answered (looking : Looking s.listener) (worker : s.worker = .idle)
    (commands : s.bridge.commands.items = [])
    (tickets : s.bridge.tickets = [⟨.ofOutcome (ScanOutcome.ofResult? pass.result), true⟩])
    (calls : s.handled ++ s.bridge.calls.items = pass.calls)
  /-- The requester has seen the answer. -/
  | finished (listener : s.listener = .draining (ScanOutcome.ofResult? pass.result) ∨
      s.listener = .returned (ScanOutcome.ofResult? pass.result) ∧ s.bridge.calls.items = [])
    (worker : s.worker = .idle) (commands : s.bridge.commands.items = [])
    (calls : s.handled ++ s.bridge.calls.items = pass.calls)

/-- What holds of a scan that is followed on a new bridge: both sides are there, and the scan is at one of its
stages. -/
structure Followed (serve : Nat → ServedPass) (s : Scan) : Prop where
  worker : s.bridge.worker = true
  requester : s.bridge.hasRequester = true
  ticket : s.ticket = 0
  stage : s.Stage (serve 0)

theorem followed_fresh (serve : Nat → ServedPass) : Followed serve fresh :=
  ⟨rfl, rfl, rfl, .asked trivial rfl rfl rfl rfl rfl⟩

/-! ## Every step keeps to the stages -/

variable {serve : Nat → ServedPass} {s t : Scan} {pass : ServedPass}

theorem not_looking_over (hl : Looking s.listener) {outcome : ScanEnd} {p : Prop}
    (ho : s.listener = .draining outcome ∨ s.listener = .returned outcome ∧ p) : False := by
  rcases ho with e | ⟨e, -⟩
  · rw [e] at hl
    exact hl
  · rw [e] at hl
    exact hl

/-- A requester may look for another thing at any time. -/
theorem Stage.turnTo (h : s.Stage pass) (hl : Looking s.listener) {l : Listener} (hi : Looking l) :
    Stage pass { s with listener := l } := by
  cases h with
  | asked _ worker commands tickets taken calls => exact .asked hi worker commands tickets taken calls
  | serving rest _ worker commands tickets taken calls =>
    exact .serving rest hi worker commands tickets taken calls
  | answered _ worker commands tickets calls => exact .answered hi worker commands tickets calls
  | finished listener => exact (not_looking_over hl listener).elim

/-- The first of the queued calls becomes the last of those taken in. -/
theorem Stage.takeIn (h : s.Stage pass) (hl : Looking s.listener) {call : RegistryCall} {rest : List RegistryCall}
    (hc : s.bridge.calls.items = call :: rest) :
    ({ s with bridge := { s.bridge with calls := ⟨rest⟩ }, listener := .listening }.handle call).Stage pass := by
  cases h with
  | asked _ worker commands tickets taken calls =>
    rw [hc] at calls
    simp at calls
  | serving unsent _ worker commands tickets taken calls =>
    refine .serving unsent trivial worker commands tickets taken ?_
    rw [hc] at calls
    simpa [handle] using calls
  | answered _ worker commands tickets calls =>
    refine .answered trivial worker commands tickets ?_
    rw [hc] at calls
    simpa [handle] using calls
  | finished listener => exact (not_looking_over hl listener).elim

/-- The answer to the only scan of a bridge shows at its ticket. -/
theorem answer_only {b : Bridge} (hk : b.taken = [0]) (ht : b.tickets = [⟨.waiting, true⟩])
    (result : Option (Except DiscoveryError PassSummary)) :
    Worker.answer b 0 result =
      { b with taken := [], tickets := [⟨.ofOutcome (ScanOutcome.ofResult? result), true⟩] } := by
  obtain ⟨hm, hg⟩ := Bridge.letGo_only hk
  rcases result with - | (e | summary)
  · simp [Worker.answer, Bridge.dropResponse, Bridge.setReply, Reply.ofOutcome, ScanOutcome.ofResult?, hm, hg, ht]
  · simp [Worker.answer, Bridge.respond, Bridge.wants, Bridge.setReply, Reply.ofOutcome, ScanOutcome.ofResult?, hm,
      hg, ht]
  · simp [Worker.answer, Bridge.respond, Bridge.wants, Bridge.setReply, Reply.ofOutcome, ScanOutcome.ofResult?, hm,
      hg, ht]

theorem Followed.workerStep (h : Followed serve s) (hs : s.workerStep? serve = some t) : Followed serve t := by
  obtain ⟨⟨w, b, events⟩, hw, rfl⟩ := Option.map_eq_some_iff.1 hs
  obtain ⟨ds, work⟩ : ∃ ds, Work serve s.bridge s.worker ds w b := ⟨_, work_of_step hw⟩
  -- a worker without a command waits, since the requester is there
  have waits (worker : s.worker = .idle) (commands : s.bridge.commands.items = []) : False := by
    rw [worker] at work
    cases work with
    | takeScan ticket rest next => rw [commands] at next; cases next
    | takeShutdown rest next => rw [commands] at next; cases next
    | leave empty left => rw [h.requester] at left; cases left
  cases h.stage with
  | asked looking worker commands tickets taken calls =>
    rw [worker] at work
    cases work with
    | takeScan ticket rest next =>
      rw [commands] at next
      cases next
      refine ⟨h.worker, h.requester, h.ticket, .serving _ looking rfl rfl tickets ?_ ?_⟩
      · show s.bridge.taken ++ [0] = [0]
        rw [taken, List.nil_append]
      · show s.handled ++ s.bridge.calls.items ++ (serve 0).calls = (serve 0).calls
        rw [calls, List.nil_append]
    | takeShutdown rest next => rw [commands] at next; cases next
    | leave empty left => rw [h.requester] at left; cases left
  | serving rest looking worker commands tickets taken calls =>
    rw [worker] at work
    cases work with
    | send _ call rest result heard =>
      refine ⟨h.worker, h.requester, h.ticket, .serving rest looking rfl commands tickets taken ?_⟩
      simpa using calls
    | refuse _ call rest result left => rw [h.requester] at left; cases left
    | answer _ result =>
      rw [answer_only taken tickets]
      rw [List.append_nil] at calls
      exact ⟨h.worker, h.requester, h.ticket, .answered looking rfl commands rfl calls⟩
  | answered looking worker commands => exact (waits worker commands).elim
  | finished listener worker commands => exact (waits worker commands).elim

/-- A requester that looks at the queue of a scan that is not over goes on looking. -/
theorem Followed.look (h : Followed serve s) {idle : Listener} (hl : Looking s.listener) (hi : Looking idle) :
    Followed serve (s.look idle) := by
  rcases s.look_cases idle with ⟨call, rest, hc, he⟩ | ⟨-, -, he⟩ | ⟨-, hw, -⟩
  · rw [he]
    exact ⟨h.worker, h.requester, h.ticket, h.stage.takeIn hl hc⟩
  · rw [he]
    exact ⟨h.worker, h.requester, h.ticket, h.stage.turnTo hl hi⟩
  · rw [h.worker] at hw
    cases hw

theorem endOf?_ofOutcome (outcome : Option ScanOutcome) : endOf? (.ofOutcome outcome) = some outcome := by
  cases outcome <;> rfl

theorem poll_only {b : Bridge} {reply : Reply} (ht : b.tickets = [⟨reply, true⟩]) : (b.poll 0).2 = reply := by
  rw [Bridge.poll_reply, ht]
  rfl

/-- A requester that looks at the ticket goes on looking, or has seen the end of the pass. -/
theorem Followed.check (h : Followed serve s) (hl : Looking s.listener) : Followed serve (s.check .waiting) := by
  rcases s.check_cases .waiting with ⟨-, he⟩ | ⟨outcome, ho, he⟩
  · rw [he]
    exact ⟨h.worker, h.requester, h.ticket, h.stage.turnTo hl trivial⟩
  · obtain ⟨tickets', hp⟩ := s.bridge.poll_tickets s.ticket
    rw [he, hp]
    rw [h.ticket] at ho
    refine ⟨h.worker, h.requester, h.ticket, ?_⟩
    cases h.stage with
    | asked _ _ _ tickets => rw [poll_only tickets] at ho; cases ho
    | serving _ _ _ _ tickets => rw [poll_only tickets] at ho; cases ho
    | answered _ worker commands tickets calls =>
      rw [poll_only tickets, endOf?_ofOutcome] at ho
      cases ho
      exact .finished (.inl rfl) worker commands calls
    | finished listener => exact (not_looking_over hl listener).elim

/-- A scan whose requester does not look any more is over. -/
theorem Stage.over_of_not_looking (h : s.Stage pass) (hl : ¬ Looking s.listener) :
    (s.listener = .draining (ScanOutcome.ofResult? pass.result) ∨
      s.listener = .returned (ScanOutcome.ofResult? pass.result) ∧ s.bridge.calls.items = []) ∧
    s.worker = .idle ∧ s.bridge.commands.items = [] ∧ s.handled ++ s.bridge.calls.items = pass.calls := by
  cases h with
  | asked looking => exact absurd looking hl
  | serving _ looking => exact absurd looking hl
  | answered looking => exact absurd looking hl
  | finished listener worker commands calls => exact ⟨listener, worker, commands, calls⟩

/-- A requester that has seen the end of the pass takes in what is queued, and returns when nothing is. -/
theorem Followed.drain (h : Followed serve s) {outcome : ScanEnd} (hl : s.listener = .draining outcome)
    (hs : s.listenerStep? = some t) : Followed serve t := by
  obtain ⟨listener, worker, commands, calls⟩ := h.stage.over_of_not_looking (by rw [hl]; exact id)
  have ho : outcome = ScanOutcome.ofResult? (serve 0).result := by
    rcases listener with e | ⟨e, -⟩
    · rw [hl] at e
      exact Listener.draining.inj e
    · rw [hl] at e
      cases e
  simp only [listenerStep?, hl, Bridge.receive?, Queue.take?] at hs
  cases hc : s.bridge.calls.items with
  | nil =>
    simp only [hc] at hs
    cases hs
    exact ⟨h.worker, h.requester, h.ticket, .finished (.inr ⟨by rw [ho], hc⟩) worker commands calls⟩
  | cons call rest =>
    simp only [hc] at hs
    cases hs
    rw [hc] at calls
    refine ⟨h.worker, h.requester, h.ticket, .finished (.inl (by rw [← ho]; rfl)) worker commands ?_⟩
    simpa [handle] using calls

theorem Followed.listenerStep (h : Followed serve s) (hs : s.listenerStep? = some t) : Followed serve t := by
  cases hl : s.listener with
  | listening =>
    simp only [listenerStep?, hl] at hs
    cases hs
    exact h.look (by rw [hl]; trivial) trivial
  | checking =>
    simp only [listenerStep?, hl] at hs
    cases hs
    exact h.check (by rw [hl]; trivial)
  | waiting =>
    have looking : Looking s.listener := by rw [hl]; trivial
    simp only [listenerStep?, hl] at hs
    split at hs
    · cases hs
      exact h.look looking trivial
    · split at hs
      · cases hs
        exact ⟨h.worker, h.requester, h.ticket, h.stage.turnTo looking trivial⟩
      · cases hs
  | closing =>
    obtain ⟨e | ⟨e, -⟩, -⟩ := h.stage.over_of_not_looking (by rw [hl]; exact id)
    · rw [hl] at e
      cases e
    · rw [hl] at e
      cases e
  | draining outcome => exact h.drain hl hs
  | returned outcome =>
    simp only [listenerStep?, hl] at hs
    cases hs

theorem Followed.step (h : Followed serve s) {p : Party} (hs : s.step? serve p = some t) : Followed serve t := by
  cases p with
  | worker => exact h.workerStep hs
  | requester => exact h.listenerStep hs

theorem Followed.turn (h : Followed serve s) (p : Party) : Followed serve (s.turn serve p) := by
  unfold Scan.turn
  cases hs : s.step? serve p with
  | none => exact h
  | some t => exact h.step hs

theorem Followed.turns (h : Followed serve s) (ps : List Party) : Followed serve (ps.foldl (Scan.turn serve) s) := by
  induction ps generalizing s with
  | nil => exact h
  | cons p ps ih => exact ih (h.turn p)

/-! ## One of the two can step -/

/-- A worker that has something to do for the scan can do it, unless the queue of calls is full. -/
theorem Followed.worker_can (h : Followed serve s) (hl : Looking s.listener) :
    (∃ t, s.workerStep? serve = some t) ∨ s.bridge.calls.items ≠ [] ∨ ticketReady s.bridge s.ticket = true := by
  cases h.stage with
  | asked _ worker commands =>
    refine .inl (Option.isSome_iff_exists.1 ?_)
    simp [workerStep?, worker, Worker.step?, Bridge.take, Queue.take, commands]
  | serving rest _ worker =>
    cases rest with
    | nil =>
      refine .inl (Option.isSome_iff_exists.1 ?_)
      simp [workerStep?, worker, Worker.step?]
    | cons call rest =>
      rcases s.bridge.calls.put_cases Bridge.callCapacity s.bridge.hasRequester call with
        ⟨-, -, hp⟩ | ⟨-, hf, -⟩ | ⟨hr, -⟩
      · refine .inl (Option.isSome_iff_exists.1 ?_)
        simp [workerStep?, worker, Worker.step?, Bridge.forward?, Bridge.send, hp]
      · refine .inr (.inl fun hn => ?_)
        rw [hn] at hf
        contradiction
      · rw [h.requester] at hr
        cases hr
  | answered _ _ _ tickets =>
    refine .inr (.inr ?_)
    unfold ticketReady
    rw [h.ticket, poll_only tickets, endOf?_ofOutcome]
    rfl
  | finished listener => exact (not_looking_over hl listener).elim

/-- As long as the scan has not returned, one of the two can step. -/
theorem Followed.progress (h : Followed serve s) :
    (∃ outcome, s.listener = .returned outcome) ∨ ∃ p t, s.step? serve p = some t := by
  cases hl : s.listener with
  | listening => exact .inr ⟨.requester, s.look .checking, by simp only [step?, listenerStep?, hl]⟩
  | checking => exact .inr ⟨.requester, s.check .waiting, by simp only [step?, listenerStep?, hl]⟩
  | waiting =>
    -- it waits for the worker only while there is nothing for it to see
    rcases h.worker_can (by rw [hl]; trivial) with ⟨t, ht⟩ | hq | hr
    · exact .inr ⟨.worker, t, ht⟩
    · refine .inr ⟨.requester, s.look .checking, ?_⟩
      simp only [step?, listenerStep?, hl]
      rw [if_pos]
      simp [queueReady, hq]
    · by_cases hq : queueReady s.bridge = true
      · exact .inr ⟨.requester, s.look .checking, by simp only [step?, listenerStep?, hl, if_pos hq]⟩
      · refine .inr ⟨.requester, { s with listener := .checking }, ?_⟩
        simp only [step?, listenerStep?, hl, if_neg hq, if_pos hr]
  | closing =>
    obtain ⟨e | ⟨e, -⟩, -⟩ := h.stage.over_of_not_looking (by rw [hl]; exact id)
    · rw [hl] at e
      cases e
    · rw [hl] at e
      cases e
  | draining outcome =>
    refine .inr ⟨.requester, Option.isSome_iff_exists.1 ?_⟩
    simp only [step?, listenerStep?, hl]
    split <;> rfl
  | returned outcome => exact .inl ⟨outcome, rfl⟩

/-! ## No order of steps is endless -/

theorem ticketReady_congr {b b' : Bridge} (h : b'.tickets = b.tickets) (ticket : Nat) :
    ticketReady b' ticket = ticketReady b ticket := by
  unfold ticketReady
  rw [Bridge.poll_reply, Bridge.poll_reply, h]

/-- A change of tickets makes the requester's part of the bound greater by four at most. -/
theorem listenerWeight_le (hl : t.listener = s.listener) : t.listenerWeight ≤ s.listenerWeight + 4 := by
  unfold listenerWeight
  rw [hl]
  cases s.listener <;> dsimp only <;> (try split) <;> (try split) <;> omega

theorem listenerWeight_congr (hl : t.listener = s.listener) (ht : t.ticket = s.ticket)
    (hb : t.bridge.tickets = s.bridge.tickets) : t.listenerWeight = s.listenerWeight := by
  unfold listenerWeight
  rw [hl, ht, ticketReady_congr hb]

theorem respond_queues (b : Bridge) (ticket : Nat) (outcome : ScanOutcome) :
    (b.respond ticket outcome).1.commands = b.commands ∧ (b.respond ticket outcome).1.calls = b.calls := by
  unfold Bridge.respond
  split
  · dsimp only
    split <;> exact ⟨rfl, rfl⟩
  · exact ⟨rfl, rfl⟩

/-- Answering a scan leaves the queues as they are. -/
theorem answer_queues (b : Bridge) (ticket : Nat) (result : Option (Except DiscoveryError PassSummary)) :
    (Worker.answer b ticket result).commands = b.commands ∧ (Worker.answer b ticket result).calls = b.calls := by
  unfold Worker.answer
  split
  · exact respond_queues b ticket _
  · exact respond_queues b ticket _
  · unfold Bridge.dropResponse
    split <;> exact ⟨rfl, rfl⟩

/-- A worker that leaves makes neither queue longer. -/
theorem dropWorker_weight (serve : Nat → ServedPass) (b : Bridge) :
    commandsWeight serve b.dropWorker.commands.items ≤ commandsWeight serve b.commands.items ∧
      b.dropWorker.calls.items.length ≤ b.calls.items.length := by
  unfold Bridge.dropWorker
  rcases Bridge.settle_cases { b with worker := false } with hs | ⟨-, -, tickets, hs⟩
  · rw [hs]
    exact ⟨Nat.le_refl _, Nat.le_refl _⟩
  · rw [hs]
    exact ⟨Nat.zero_le _, Nat.zero_le _⟩

theorem weight_workerStep (hs : s.workerStep? serve = some t) : t.weight serve < s.weight serve := by
  obtain ⟨⟨w, b, events⟩, hw, rfl⟩ := Option.map_eq_some_iff.1 hs
  obtain ⟨ds, work⟩ : ∃ ds, Work serve s.bridge s.worker ds w b := ⟨_, work_of_step hw⟩
  have hle : Scan.listenerWeight { s with worker := w, bridge := b, events := s.events ++ events } ≤
      s.listenerWeight + 4 := listenerWeight_le rfl
  have heq (hb : b.tickets = s.bridge.tickets) :
      Scan.listenerWeight { s with worker := w, bridge := b, events := s.events ++ events } = s.listenerWeight :=
    listenerWeight_congr rfl rfl hb
  unfold weight servingWeight
  generalize s.worker = worker at work
  cases work with
  | takeScan ticket rest next =>
    rw [heq rfl, next]
    simp only [commandsWeight, commandWeight, workerWeight]
    omega
  | takeShutdown rest next =>
    obtain ⟨hcommands, hcalls⟩ := dropWorker_weight serve { s.bridge with commands := ⟨rest⟩ }
    rw [next]
    simp only [commandsWeight, commandWeight, workerWeight] at hcommands hcalls ⊢
    omega
  | leave empty left =>
    obtain ⟨hcommands, hcalls⟩ := dropWorker_weight serve s.bridge
    simp only [workerWeight]
    omega
  | send ticket call rest result heard =>
    rw [heq rfl]
    simp only [workerWeight, List.length_append, List.length_cons, List.length_nil]
    omega
  | refuse ticket call rest result left =>
    rw [heq rfl]
    simp only [workerWeight, List.length_cons]
    omega
  | answer ticket result =>
    obtain ⟨hcommands, hcalls⟩ := answer_queues s.bridge ticket result
    rw [hcommands, hcalls]
    simp only [workerWeight, List.length_nil]
    omega

theorem weight_look (hl : s.listener = .listening ∨ s.listener = .waiting ∧ queueReady s.bridge = true) :
    (s.look .checking).weight serve < s.weight serve := by
  have h5 : 5 ≤ s.listenerWeight := by
    unfold listenerWeight
    rcases hl with hl | ⟨hl, -⟩
    · rw [hl]
      exact Nat.le_add_left 5 4
    · rw [hl]
      dsimp only
      split <;> decide
  rcases s.look_cases .checking with ⟨call, rest, hc, he⟩ | ⟨hc, hw, he⟩ | ⟨-, -, events, he⟩
  · rw [he]
    unfold weight servingWeight
    rw [hc]
    have h9 : (Scan.handle { s with bridge := { s.bridge with calls := ⟨rest⟩ }, listener := .listening }
        call).listenerWeight = 9 := rfl
    rw [h9]
    simp only [handle, List.length_cons]
    omega
  · rcases hl with hl | ⟨-, hq⟩
    · rw [he]
      unfold weight listenerWeight
      rw [hl]
      exact Nat.lt_succ_self _
    · simp [queueReady, hc, hw] at hq
  · rw [he]
    unfold weight
    have h4 : Scan.listenerWeight { s with listener := .closing, events } = 4 := rfl
    rw [h4]
    dsimp only
    omega

theorem weight_check {other : Listener} (h4 : 4 ≤ s.listenerWeight)
    (ho : ticketReady s.bridge s.ticket = false → Scan.listenerWeight { s with listener := other } < s.listenerWeight) :
    (s.check other).weight serve < s.weight serve := by
  rcases s.check_cases other with ⟨hr, he⟩ | ⟨outcome, -, he⟩
  · rw [he]
    exact Nat.add_lt_add_left (ho hr) _
  · obtain ⟨tickets, hp⟩ := s.bridge.poll_tickets s.ticket
    rw [he, hp]
    exact Nat.add_lt_add_left (Nat.lt_of_succ_le h4) _

theorem weight_listenerStep (hs : s.listenerStep? = some t) : t.weight serve < s.weight serve := by
  cases hl : s.listener with
  | listening =>
    simp only [listenerStep?, hl] at hs
    cases hs
    exact weight_look (.inl hl)
  | checking =>
    simp only [listenerStep?, hl] at hs
    cases hs
    have h8 : s.listenerWeight = 8 := by rw [listenerWeight, hl]
    refine weight_check (by omega) fun hr => ?_
    rw [h8]
    simp only [listenerWeight, hr]
    decide
  | waiting =>
    simp only [listenerStep?, hl] at hs
    split at hs
    · next hq =>
      cases hs
      exact weight_look (.inr ⟨hl, hq⟩)
    · split at hs
      · next hr =>
        cases hs
        refine Nat.add_lt_add_left ?_ _
        simp only [listenerWeight, hl, hr]
        decide
      · cases hs
  | closing =>
    have h4 : s.listenerWeight = 4 := by rw [listenerWeight, hl]
    simp only [listenerStep?, hl] at hs
    split at hs
    · next hr =>
      cases hs
      refine weight_check (by omega) fun hf => ?_
      rw [hr] at hf
      cases hf
    · cases hs
  | draining outcome =>
    have h3 : s.listenerWeight = 3 := by rw [listenerWeight, hl]
    simp only [listenerStep?, hl, Bridge.receive?, Queue.take?] at hs
    cases hc : s.bridge.calls.items with
    | nil =>
      simp only [hc] at hs
      cases hs
      refine Nat.add_lt_add_left ?_ _
      rw [h3]
      exact Nat.zero_lt_succ 2
    | cons call rest =>
      simp only [hc] at hs
      cases hs
      unfold weight servingWeight
      rw [hc, h3]
      simp only [handle, listenerWeight, List.length_cons]
      omega
  | returned outcome =>
    simp only [listenerStep?, hl] at hs
    cases hs

/-- Every step makes the bound smaller. -/
theorem weight_step {p : Party} (hs : s.step? serve p = some t) : t.weight serve < s.weight serve := by
  cases p with
  | worker => exact weight_workerStep hs
  | requester => exact weight_listenerStep hs

/-- A followed scan can go on until it has returned. -/
theorem Followed.returns (h : Followed serve s) :
    ∃ (ps : List Party) (outcome : ScanEnd), (ps.foldl (Scan.turn serve) s).listener = .returned outcome := by
  induction hw : s.weight serve using Nat.strongRecOn generalizing s with
  | _ n ih =>
    rcases h.progress with ⟨outcome, ho⟩ | ⟨p, t, ht⟩
    · exact ⟨[], outcome, ho⟩
    · obtain ⟨ps, outcome, ho⟩ := ih _ (hw ▸ weight_step ht) (h.step ht) rfl
      refine ⟨p :: ps, outcome, ?_⟩
      rw [List.foldl_cons, show s.turn serve p = t by rw [Scan.turn, ht]; rfl]
      exact ho

/-- What a scan that has returned took in, and its end. -/
theorem Followed.returned (h : Followed serve s) {outcome : ScanEnd} (hl : s.listener = .returned outcome) :
    s.handled = (serve 0).calls ∧ outcome = ScanOutcome.ofResult? (serve 0).result := by
  obtain ⟨e | ⟨e, hc⟩, -, -, calls⟩ := h.stage.over_of_not_looking (by rw [hl]; exact id)
  · rw [hl] at e
    cases e
  · rw [hl] at e
    rw [hc, List.append_nil] at calls
    exact ⟨calls, Listener.returned.inj e⟩

end Scan

/-! ## The whole scan -/

open Scan in
/-- In whatever order the two sides of a scan take turns, the requester has all calls of the pass, each once and in
order, and the end of the pass when it returns: so its devices are those that the pass registered, and what it
reports are the counters or the failure of the pass. Until then one of the two can step, every step makes the bound
smaller, and the scan can be brought to its return. -/
theorem scan_takes_in_whole_pass (serve : Nat → ServedPass) (turns : List Party) :
    let s := Scan.after serve turns
    (∀ outcome, s.listener = .returned outcome →
      s.handled = (serve 0).calls ∧
      CommandLine.scanDevices (.ok ⟨outcome, s.handled⟩) = RegistryCall.registered (serve 0).calls ∧
      CommandLine.scanResult (.ok ⟨outcome, s.handled⟩) =
        match (serve 0).result with
        | some (.ok summary) => .ok summary
        | some (.error e) => .error ["No devices found", (ServiceError.discovery e.message).message]
        | none => .error ["Discovery worker dropped the scan", "channel closed"]) ∧
    ((∃ outcome, s.listener = .returned outcome) ∨ ∃ p t, s.step? serve p = some t) ∧
    (∀ p t, s.step? serve p = some t → t.weight serve < s.weight serve) ∧
    ∃ more outcome, (Scan.after serve (turns ++ more)).listener = .returned outcome := by
  intro s
  have h : Followed serve s := (followed_fresh serve).turns turns
  refine ⟨fun outcome hl => ?_, h.progress, fun p t => weight_step, ?_⟩
  · obtain ⟨hcalls, rfl⟩ := h.returned hl
    refine ⟨hcalls, ?_, ?_⟩
    · rw [← hcalls]
      exact Registry.devices_tellAll s.handled
    · cases (serve 0).result with
      | none => rfl
      | some result => cases result <;> rfl
  · obtain ⟨more, outcome, ho⟩ := h.returns
    refine ⟨more, outcome, ?_⟩
    rw [Scan.after, List.foldl_append]
    exact ho

end UsbInventory
