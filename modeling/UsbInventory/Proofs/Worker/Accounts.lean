/-
The stream of calls that goes over the bridge of a service. A course of a service is a run of actions on its bridge
(`Worker.actions`), and what the course has written down is the ledger of that run: so the accounts of the queues and
of the tickets hold along it, and what a worker is said to have sent is what requesters have received and what is still
queued for them. With the invariant of the stream this is all of what a worker promises.
-/
import UsbInventory.Proofs.Bridge.Delivery
import UsbInventory.Proofs.Worker.Stream

namespace UsbInventory

open Deed Bridge

/-! ## Histories as ledgers -/

namespace Bridge.Ledger

/-- Writes down a deed. A call that could not be sent is no part of the traffic. -/
def write (l : Ledger) : Deed → Ledger
  | .queued command => { l with asked := l.asked ++ [command] }
  | .took command => { l with taken := l.taken ++ [command] }
  | .sent call => { l with sent := l.sent ++ [call] }
  | .refused _ => l
  | .received call => { l with received := l.received ++ [call] }
  | .answered ticket outcome => { l with settled := l.settled ++ [(ticket, some outcome)] }
  | .abandoned ticket => { l with settled := l.settled ++ [(ticket, none)] }
  | .shown ticket outcome => { l with shown := l.shown ++ [(ticket, outcome)] }

/-- The ledger of a history. -/
def ofHistory (h : List Deed) : Ledger := h.foldl write {}

theorem ofHistory_append (h ds : List Deed) : ofHistory (h ++ ds) = ds.foldl write (ofHistory h) :=
  List.foldl_append ..

theorem ofHistory_eq (h : List Deed) :
    ofHistory h = ⟨queuedIn h, takenIn h, sentIn h, receivedIn h, settledIn h, shownIn h⟩ := by
  have goes : ∀ (h : List Deed) (l : Ledger), h.foldl write l =
      ⟨l.asked ++ queuedIn h, l.taken ++ takenIn h, l.sent ++ sentIn h, l.received ++ receivedIn h,
        l.settled ++ settledIn h, l.shown ++ shownIn h⟩ := by
    intro h
    induction h with
    | nil =>
      intro l
      simp [queuedIn, takenIn, sentIn, receivedIn, settledIn, shownIn]
    | cons d h ih =>
      intro l
      rw [List.foldl_cons, ih]
      cases d <;> simp [write, queuedIn, takenIn, sentIn, receivedIn, settledIn, shownIn]
  exact goes h {}

end Bridge.Ledger

/-- A request enters the ledger as what it comes to. -/
theorem enter_of_request (b : Bridge) (l : Ledger) {action : Action} (h : action.byRequester = true) :
    l.enter b action = (b.deeds action).foldl Ledger.write l := by
  unfold Ledger.enter deeds
  generalize (b.perform action).2 = answer
  cases action with
  | requestScan | requestShutdown =>
    cases answer with
    | sent attempt => cases attempt <;> rfl
    | _ => rfl
  | receive | tryReceive =>
    cases answer with
    | received attempt => cases attempt <;> rfl
    | call found => cases found <;> rfl
    | _ => rfl
  | poll =>
    cases answer with
    | reply reply => cases reply <;> rfl
    | _ => rfl
  | clone | dropHandle | dropTicket => rfl
  | _ => cases h

/-! ## Steps as actions -/

/-- The actions on the bridge that the next step of a worker comes down to, if it can be taken. -/
def Worker.actions (b : Bridge) : Worker → List Action
  | .idle =>
    match b.commands.items with
    | .scan _ :: _ => [.take]
    | _ => [.take, .dropWorker]
  | .serving _ (call :: _) _ => [.forward call]
  | .serving ticket [] (some (.ok summary)) => [.respond (.completed summary) ticket]
  | .serving ticket [] (some (.error e)) => [.respond (.failed e.message) ticket]
  | .serving ticket [] none => [.dropResponse ticket]
  | .stopped => []

section

variable {b : Bridge} {l : Ledger}

theorem perform_take (here : b.worker = true) {command : Command} {rest : List Command}
    (next : b.commands.items = command :: rest) :
    (⟨b, l⟩ : Traffic).perform .take = ⟨{ b with commands := ⟨rest⟩ }.hold command, l.write (.took command)⟩ := by
  have ht : b.take = ({ b with commands := ⟨rest⟩ }.hold command, .done command) := by
    simp only [Bridge.take, Queue.take, next]
  have hp : b.perform .take = ({ b with commands := ⟨rest⟩ }.hold command, .taken (.done command)) :=
    (if_pos here).trans (congrArg (Prod.map id Answer.taken) ht)
  unfold Traffic.perform Ledger.enter
  rw [hp]
  rfl

/-- A worker that is left alone takes nothing from an empty queue. -/
theorem perform_take_left (here : b.worker = true) (empty : b.commands.items = []) (left : b.hasRequester = false) :
    (⟨b, l⟩ : Traffic).perform .take = ⟨b, l⟩ := by
  have ht : b.take = (b, .failed .exhausted) := by
    simp [Bridge.take, Queue.take, empty, left]
  have hp : b.perform .take = (b, .taken (.failed .exhausted)) :=
    (if_pos here).trans (congrArg (Prod.map id Answer.taken) ht)
  unfold Traffic.perform Ledger.enter
  rw [hp]

theorem perform_dropWorker (here : b.worker = true) :
    (⟨b, l⟩ : Traffic).perform .dropWorker = ⟨b.dropWorker, l⟩ := by
  have hp : b.perform .dropWorker = (b.dropWorker, .done) := if_pos here
  unfold Traffic.perform Ledger.enter
  rw [hp]

theorem perform_forward (here : b.worker = true) {call : RegistryCall} {attempt : Attempt Unit} {b' : Bridge}
    (hs : b.send call = (b', attempt)) (settled : attempt ≠ .pending) : (⟨b, l⟩ : Traffic).perform (.forward call) =
      ⟨b', if attempt.isDone then l.write (.sent call) else l⟩ := by
  have hp : b.perform (.forward call) = ((b.forward call).1, .forwarded (b.forward call).2) := if_pos here
  have hf : (b.forward call).1 = b' := by
    unfold forward forward?
    rw [hs]
    cases attempt with
    | pending => exact absurd rfl settled
    | _ => rfl
  unfold Traffic.perform Ledger.enter
  rw [hp, hf]
  dsimp only
  rw [hs]
  rfl

/-- The scan that a worker holds is let go by its answer. -/
theorem perform_answer {ticket : Nat} (held : ticket ∈ b.taken)
    (result : Option (Except DiscoveryError PassSummary)) :
    ((Worker.serving ticket [] result).actions b).foldl Traffic.perform ⟨b, l⟩ =
      ⟨Worker.answer b ticket result,
        l.write ((ScanOutcome.ofResult? result).elim (.abandoned ticket) (.answered ticket))⟩ := by
  have hs : b.settled? (some ticket) = some ticket := b.settled?_of_mem rfl held
  have hp (outcome : ScanOutcome) : (⟨b, l⟩ : Traffic).perform (.respond outcome ticket) =
      ⟨(b.respond ticket outcome).1, l.write (.answered ticket outcome)⟩ := by
    show (⟨_, { l with settled := l.settled ++ (b.settled? (some ticket)).toList.map _ }⟩ : Traffic) = _
    rw [hs]
    rfl
  have hd : (⟨b, l⟩ : Traffic).perform (.dropResponse ticket) =
      ⟨b.dropResponse ticket, l.write (.abandoned ticket)⟩ := by
    show (⟨_, { l with settled := l.settled ++ (b.settled? (some ticket)).toList.map _ }⟩ : Traffic) = _
    rw [hs]
    rfl
  rcases result with - | (e | summary)
  · exact hd
  · exact hp _
  · exact hp _

/-- A step of a worker is the run of its actions, and enters the ledger as what it does. -/
theorem perform_actions {serve : Nat → ServedPass} {h ds : List Deed} {w w' : Worker} {b' : Bridge}
    (hs : Stage serve h b w) (hw : Work serve b w ds w' b') :
    (w.actions b).foldl Traffic.perform ⟨b, l⟩ = ⟨b', ds.foldl Ledger.write l⟩ := by
  cases hw with
  | takeScan ticket rest next =>
    cases hs with
    | idle here =>
      simp only [Worker.actions, next]
      exact perform_take here next
  | takeShutdown rest next =>
    cases hs with
    | idle here =>
      simp only [Worker.actions, next, List.foldl_cons, List.foldl_nil, perform_take here next]
      exact perform_dropWorker here
  | leave empty left =>
    cases hs with
    | idle here =>
      simp only [Worker.actions, empty, List.foldl_cons, List.foldl_nil, perform_take_left here empty left]
      exact perform_dropWorker here
  | send ticket call rest result heard room =>
    cases hs with
    | serving before _ done _ here =>
      have hsend : b.send call = ({ b with calls := ⟨b.calls.items ++ [call]⟩ }, .done ()) := by
        simp [Bridge.send, Queue.put, heard, room]
      exact perform_forward here hsend (by rintro ⟨⟩)
  | refuse ticket call rest result left =>
    cases hs with
    | serving before _ done _ here =>
      have hsend : b.send call = (b, .failed .unheard) := by
        simp [Bridge.send, Queue.put, left]
      exact perform_forward here hsend (by rintro ⟨⟩)
  | answer ticket result =>
    cases hs with
    | serving before _ done _ here held =>
      rw [Worker.deeds_answer held]
      exact perform_answer (held ▸ List.mem_singleton_self ticket) (serve ticket).result

end

/-! ## Courses as runs of actions -/

/-- A course of a service is a run of actions: its bridge is the one after them, and its history is their ledger. -/
structure Course.Follows (c : Course) (x : Traffic) : Prop where
  bridge : x.bridge = c.service.bridge
  ledger : x.ledger = .ofHistory c.history

/-- Every course of a service is a run of actions. -/
theorem course_follows (serve : Nat → ServedPass) (moves : List Move) :
    ∃ actions, (Course.run serve moves).Follows (Traffic.run actions) := by
  -- what an answer does depends on the scan that the worker holds, so the invariant of the stream is carried along
  refine (Course.run_induction (P := fun c => Stream serve c ∧ ∃ actions, c.Follows (Traffic.run actions))
    ⟨.start serve, [], rfl, rfl⟩ (fun c m ⟨hc, actions, hb, hl⟩ => ⟨hc.move m, ?_⟩) moves).2
  have hx : Traffic.run actions = ⟨c.service.bridge, .ofHistory c.history⟩ := by
    rw [← hb, ← hl]
  cases m with
  | request action requester =>
    refine ⟨actions ++ [action], ?_⟩
    have hrun : Traffic.run (actions ++ [action]) = (Traffic.run actions).perform action := List.foldl_append ..
    rw [hrun, hx]
    exact ⟨rfl, (enter_of_request _ _ requester).trans (Ledger.ofHistory_append ..).symm⟩
  | work =>
    cases hs : c.service.worker.step? serve c.service.bridge with
    | none =>
      refine ⟨actions, ?_⟩
      simp only [Course.move, hs]
      exact ⟨hb, hl⟩
    | some next =>
      refine ⟨actions ++ c.service.worker.actions c.service.bridge, ?_⟩
      have hrun : Traffic.run (actions ++ c.service.worker.actions c.service.bridge) =
          (c.service.worker.actions c.service.bridge).foldl Traffic.perform (Traffic.run actions) :=
        List.foldl_append ..
      rw [hrun, hx, perform_actions hc.stage (work_of_step hs)]
      simp only [Course.move, hs]
      exact ⟨rfl, (Ledger.ofHistory_append ..).symm⟩

/-- The accounts of the queues and of the tickets hold along every course. -/
theorem course_accounts (serve : Nat → ServedPass) (moves : List Move) :
    let c := Course.run serve moves
    Balanced c.service.bridge (.ofHistory c.history) ∧ Tracked c.service.bridge (.ofHistory c.history) := by
  intro c
  obtain ⟨actions, hb, hl⟩ := course_follows serve moves
  have h := accounts_run actions
  rw [hb, hl] at h
  exact h

/-! ## The stream as a whole -/

/-- What requesters have received of a worker and what is still queued for them are the calls that it sent, as long as
anybody can reach the queues. These calls are the passes of the scans that the worker takes, one after the other and cut
off at most at the end, and every pass that was answered is there as a whole while a requester is left. Scans are
answered once, in the order in which they were taken and before the next one is taken, after everything of their pass
was offered, and with the counters that end it or the text of its failure; an answer shows at the ticket of its scan,
once, and nothing else does. No scan is taken that was queued after a shutdown. -/
theorem worker_event_stream (serve : Nat → ServedPass) (hs : ∀ t, (serve t).Obeys) (moves : List Move) :
    let h := (Course.run serve moves).history
    let b := (Course.run serve moves).service.bridge
    let scans := Command.scans (takenIn h)
    (b.isOpen = true → takenIn h ++ b.commands.items = queuedIn h ∧ receivedIn h ++ b.calls.items = sentIn h) ∧
    receivedIn h <+: sentIn h ∧
    sentIn h <+: blocks serve scans ∧
    (b.hasRequester = true → blocks serve ((answeredIn h).map Prod.fst) <+: sentIn h) ∧
    scans.Nodup ∧ (answeredIn h).map Prod.fst <+: scans ∧ scans.length ≤ (answeredIn h).length + 1 ∧
    (∀ past t o, past ++ [.answered t o] <+: h →
      (∃ before, Command.scans (takenIn past) = before ++ [t]) ∧
      offeredIn past = blocks serve (Command.scans (takenIn past)) ∧
      ((∃ found s, (serve t).calls = RegistryCall.ofPass found s ∧ o = .completed s) ∨
        ∃ e, (serve t).result = some (.error e) ∧ (serve t).calls = [] ∧ o = .failed e.message)) ∧
    (∀ t o, .answered t o ∈ h → b.wants t = true → .shown t o ∈ h ∨ b.Shows t o) ∧
    (∀ t o, .shown t o ∈ h ∨ b.Shows t o → .answered t o ∈ h) ∧
    ((shownIn h).map Prod.fst).Nodup ∧
    scans <+: Command.scans ((queuedIn h).takeWhile fun command => command ≠ .shutdown) := by
  intro h b scans
  have hc : Stream serve (Course.run serve moves) := stream_run serve moves
  obtain ⟨hb, ht⟩ := course_accounts serve moves
  rw [Ledger.ofHistory_eq] at hb ht
  obtain ⟨before, done, rest, hoffered, hanswered, hblocks, hbefore, hlength⟩ := hc.stage.stands
  have htickets : (answeredIn h).map Prod.fst = before := by rw [hanswered, answers_tickets hs]
  have hall : offeredIn h <+: blocks serve scans := ⟨rest, by rw [hoffered, hblocks]⟩
  refine ⟨fun ho => ⟨hb.commands ho, hb.calls ho⟩, hb.received, hc.sending.sent.trans hall, fun hr => ?_, ?_,
    htickets ▸ hbefore, ?_, ?_, fun t o ha hw => ?_, fun t o hshown => ?_, ht.once,
    hc.stage.scans_before_shutdown hb.taken⟩
  · rw [htickets, hc.sending.whole hr, hoffered]
    exact List.prefix_append _ _
  · exact (hb.taken.filterMap _).sublist.nodup ht.distinct
  · rw [← List.length_map Prod.fst, htickets]
    exact hlength
  · intro past t o hp
    have hsettled := hc.answering past t o hp
    exact ⟨hsettled.last, hsettled.offered, (hs t).outcome hsettled.outcome⟩
  · exact (ht.given t o (mem_settledIn.2 ha) hw).imp_left mem_shownIn.1
  · rcases hshown with hm | hm
    · exact mem_settledIn.1 (ht.shown t o (mem_shownIn.2 hm))
    · exact mem_settledIn.1 (ht.ready t o hm).1

/-- Passes over the bus of the sample, of which the second cannot list it. -/
def samplePass (ticket : Nat) : ServedPass :=
  let bus : Bus := if ticket = 1 then { sampleBus with listing := -4 } else sampleBus
  .ofEnumeration ((Backend.bus []).enumerate { files := .empty, bus })

/-- Two handles ask for a scan each, one of them for a shutdown, and the other for a scan again; one call is
received while the worker is at work. -/
def sampleMoves : List Move :=
  [.request (.clone 0) rfl, .request (.requestScan 0) rfl, .request (.requestScan 1) rfl, .work, .work,
    .request (.requestShutdown 0) rfl, .request (.requestScan 1) rfl, .request (.receive 1) rfl, .work, .work, .work,
    .work, .work, .work]

theorem sample_event_stream :
    let h := (Course.run samplePass sampleMoves).history
    let b := (Course.run samplePass sampleMoves).service.bridge
    Command.scans (takenIn h) = [0, 1] ∧ (receivedIn h).length = 1 ∧ b.calls.items.length = 1 ∧
      receivedIn h ++ b.calls.items <+: blocks samplePass [0, 1] ∧
      (answeredIn h).map Prod.fst = [0, 1] ∧ Command.scans (queuedIn h) = [0, 1, 2] := by
  intro h b
  have hscans : Command.scans (takenIn h) = [0, 1] := by decide +kernel
  obtain ⟨hqueues, -, hsent, -⟩ := worker_event_stream samplePass (fun _ => Backend.served_obeys _ _) sampleMoves
  obtain ⟨-, hcalls⟩ := hqueues (by decide +kernel)
  refine ⟨hscans, by decide +kernel, by decide +kernel, ?_, by decide +kernel, by decide +kernel⟩
  rw [← hscans]
  exact hcalls.symm ▸ hsent

end UsbInventory
