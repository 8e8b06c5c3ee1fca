/-
The stream of calls that a worker sends, over every course of its service. The passes of the scans that the worker
takes follow one another, each with all its calls and then the answer to its scan, and nothing comes in between.

The invariant is in three parts: where the worker stands in the pass that it serves (`Stage`), how the calls that were
sent lie in those that were offered (`Sending`), and what was known when an answer was given (`Answering`). A request or
a step of the worker keeps each of them.
-/
import UsbInventory.Proofs.Pass.Protocol
import UsbInventory.Proofs.Worker.Course

namespace UsbInventory

open Deed

/-! ## Passes for scans -/

/-- A pass that comes to a result and keeps the registry protocol. -/
def ServedPass.Obeys (pass : ServedPass) : Prop :=
  ∃ result, pass.result = some result ∧ PassProtocol pass.calls result

/-- The passes of both backends obey the protocol. -/
theorem Backend.served_obeys (backend : Backend) (world : World) :
    (ServedPass.ofEnumeration (backend.enumerate world)).Obeys :=
  ⟨_, rfl, backend.enumerate_protocol world⟩

/-- The calls of the passes for some scans, one pass after the other. -/
def blocks (serve : Nat → ServedPass) (scans : List Nat) : List RegistryCall :=
  scans.flatMap fun ticket => (serve ticket).calls

/-- The answers to some scans, in order; a scan whose pass broke off has none. -/
def answers (serve : Nat → ServedPass) (scans : List Nat) : List (Nat × ScanOutcome) :=
  scans.filterMap fun ticket =>
    (ScanOutcome.ofResult? (serve ticket).result).map fun outcome => (ticket, outcome)

theorem blocks_concat (serve : Nat → ServedPass) (scans : List Nat) (ticket : Nat) :
    blocks serve (scans ++ [ticket]) = blocks serve scans ++ (serve ticket).calls := by
  simp [blocks]

theorem answers_concat (serve : Nat → ServedPass) (scans : List Nat) (ticket : Nat) :
    answers serve (scans ++ [ticket]) = answers serve scans ++
      (ScanOutcome.ofResult? (serve ticket).result).toList.map fun outcome => (ticket, outcome) := by
  unfold answers
  rw [List.filterMap_append]
  cases h : ScanOutcome.ofResult? (serve ticket).result <;> simp [h]

/-! ## Where the worker stands -/

/-- Where a worker stands after a history. Before it takes a command, the passes of all the scans it took are behind
it; while it serves a scan, those before it are, and a part of the pass at hand. -/
inductive Stage (serve : Nat → ServedPass) (h : List Deed) (b : Bridge) : Worker → Prop where
  | idle (here : b.worker = true) (free : b.taken = []) (served : .shutdown ∉ takenIn h)
    (offered : offeredIn h = blocks serve (Command.scans (takenIn h)))
    (answered : answeredIn h = answers serve (Command.scans (takenIn h))) : Stage serve h b .idle
  | serving (before : List Nat) (ticket : Nat) (done rest : List RegistryCall) (here : b.worker = true)
    (held : b.taken = [ticket]) (served : .shutdown ∉ takenIn h)
    (scans : Command.scans (takenIn h) = before ++ [ticket]) (split : done ++ rest = (serve ticket).calls)
    (offered : offeredIn h = blocks serve before ++ done) (answered : answeredIn h = answers serve before) :
    Stage serve h b (.serving ticket rest (serve ticket).result)
  | stopped (gone : b.worker = false) (free : b.taken = [])
    (served : ∃ before, .shutdown ∉ before ∧ (takenIn h = before ∨ takenIn h = before ++ [.shutdown]))
    (offered : offeredIn h = blocks serve (Command.scans (takenIn h)))
    (answered : answeredIn h = answers serve (Command.scans (takenIn h))) : Stage serve h b .stopped

theorem Stage.request {serve : Nat → ServedPass} {h : List Deed} {b b' : Bridge} {w : Worker}
    {ds : List Deed} (hs : Stage serve h b w) (hr : OfRequest ds) (ha : b.Keeps b') :
    Stage serve (h ++ ds) b' w := by
  obtain ⟨ht, ho, hw⟩ := hr.after h
  cases hs with
  | idle here free served offered answered =>
    exact .idle (ha.worker.trans here) (ha.taken.trans free) (ht ▸ served) (by rw [ho, ht, offered])
      (by rw [hw, ht, answered])
  | serving before ticket done rest here held served scans split offered answered =>
    exact .serving before ticket done rest (ha.worker.trans here) (ha.taken.trans held) (ht ▸ served)
      (by rw [ht, scans]) split (ho.trans offered) (hw.trans answered)
  | stopped gone free served offered answered =>
    exact .stopped (ha.worker.trans gone) (ha.taken.trans free) (by rwa [ht]) (by rw [ho, ht, offered])
      (by rw [hw, ht, answered])

/-- A call that is offered goes over to the part of the pass that is behind the worker. -/
theorem Stage.offer {serve : Nat → ServedPass} {h : List Deed} {b b' : Bridge} {t : Nat} {call : RegistryCall}
    {rest : List RegistryCall} {result : Option (Except DiscoveryError PassSummary)} {d : Deed}
    (hs : Stage serve h b (.serving t (call :: rest) result)) (hd : d = .sent call ∨ d = .refused call)
    (hw : b'.worker = b.worker) (hk : b'.taken = b.taken) : Stage serve (h ++ [d]) b' (.serving t rest result) := by
  have ht : takenIn (h ++ [d]) = takenIn h := by
    rw [takenIn_append]
    rcases hd with rfl | rfl <;> exact List.append_nil _
  have ho : offeredIn (h ++ [d]) = offeredIn h ++ [call] := by
    rw [offeredIn_append]
    rcases hd with rfl | rfl <;> rfl
  have ha : answeredIn (h ++ [d]) = answeredIn h := by
    rw [answeredIn_append]
    rcases hd with rfl | rfl <;> exact List.append_nil _
  cases hs with
  | serving before _ done _ here held served scans split offered answered =>
    refine .serving before t (done ++ [call]) rest (hw.trans here) (hk.trans held) (ht ▸ served)
      (by rw [ht, scans]) ?_ ?_ (ha.trans answered)
    · rw [List.append_assoc]
      exact split
    · rw [ho, offered, List.append_assoc]

/-- A worker that has nothing left to offer for a scan has offered the whole pass. -/
theorem Stage.work {serve : Nat → ServedPass} {h ds : List Deed} {b b' : Bridge} {w w' : Worker}
    (hs : Stage serve h b w) (hw : Work serve b w ds w' b') : Stage serve (h ++ ds) b' w' := by
  cases hw with
  | takeScan ticket rest next =>
    cases hs with
    | idle here free served offered answered =>
      have ht : takenIn (h ++ [.took (.scan ticket)]) = takenIn h ++ [.scan ticket] := takenIn_append h _
      -- nothing of the new pass is behind the worker yet
      refine .serving (Command.scans (takenIn h)) ticket [] _ here ?_ ?_ ?_ rfl ?_ ?_
      · show b.taken ++ [ticket] = [ticket]
        rw [free, List.nil_append]
      · rw [ht, List.mem_append, not_or]
        exact ⟨served, by simp⟩
      · rw [ht, Command.scans_append]
        rfl
      · rw [offeredIn_append, offered]
        rfl
      · rw [answeredIn_append, answered]
        exact List.append_nil _
  | takeShutdown rest next =>
    cases hs with
    | idle here free served offered answered =>
      have hleft := Bridge.dropWorker_left { b with commands := ⟨rest⟩ }
      have ht : takenIn (h ++ [.took .shutdown]) = takenIn h ++ [.shutdown] := takenIn_append h _
      have hscans : Command.scans (takenIn (h ++ [.took .shutdown])) = Command.scans (takenIn h) := by
        rw [ht, Command.scans_append]
        exact List.append_nil _
      refine .stopped hleft.worker (hleft.taken.trans free) ⟨takenIn h, served, .inr ht⟩ ?_ ?_
      · rw [offeredIn_append, hscans, offered]
        exact List.append_nil _
      · rw [answeredIn_append, hscans, answered]
        exact List.append_nil _
  | leave empty left =>
    cases hs with
    | idle here free served offered answered =>
      have hleft := b.dropWorker_left
      rw [List.append_nil]
      exact .stopped hleft.worker (hleft.taken.trans free) ⟨takenIn h, served, .inl rfl⟩ offered answered
  | send ticket call rest result heard => exact hs.offer (.inl rfl) rfl rfl
  | refuse ticket call rest result left => exact hs.offer (.inr rfl) rfl rfl
  | answer ticket result =>
    cases hs with
    | serving before _ done _ here held served scans split offered answered =>
      have hans := Worker.answer_answered held (serve ticket).result
      obtain ⟨ht, -, ho⟩ := Worker.answer_in b (Worker.answer b ticket (serve ticket).result) ticket
        (serve ticket).result
      rw [List.append_nil] at split
      refine .idle (hans.worker.trans here) hans.taken ?_ ?_ ?_
      · rw [takenIn_append, ht, List.append_nil]
        exact served
      · rw [takenIn_append, ht, List.append_nil, scans, blocks_concat, ← split, ← offered, offeredIn_append, ho,
          List.append_nil]
      · rw [takenIn_append, ht, List.append_nil, scans, answers_concat, ← answered, answeredIn_append,
          Worker.deeds_answer held]
        cases ScanOutcome.ofResult? (serve ticket).result <;> rfl

/-- At most one shutdown was taken, and nothing after it. -/
theorem Stage.takes {serve : Nat → ServedPass} {h : List Deed} {b : Bridge} {w : Worker} (hs : Stage serve h b w) :
    ∃ before, .shutdown ∉ before ∧ (takenIn h = before ∨ takenIn h = before ++ [.shutdown]) := by
  cases hs with
  | idle _ _ served => exact ⟨_, served, .inl rfl⟩
  | serving _ _ _ _ _ _ served => exact ⟨_, served, .inl rfl⟩
  | stopped _ _ served => exact served

/-- The scans that were answered are all that were taken, or all but the last; what was offered are their passes and
a part of the pass for the last. -/
theorem Stage.stands {serve : Nat → ServedPass} {h : List Deed} {b : Bridge} {w : Worker} (hs : Stage serve h b w) :
    ∃ before done rest, offeredIn h = blocks serve before ++ done ∧ answeredIn h = answers serve before ∧
      blocks serve before ++ done ++ rest = blocks serve (Command.scans (takenIn h)) ∧
      before <+: Command.scans (takenIn h) ∧ (Command.scans (takenIn h)).length ≤ before.length + 1 := by
  cases hs with
  | idle here free served offered answered =>
    exact ⟨_, [], [], by rw [List.append_nil]; exact offered, answered, by rw [List.append_nil, List.append_nil],
      List.prefix_rfl, Nat.le_succ _⟩
  | serving before ticket done rest here held served scans split offered answered =>
    refine ⟨before, done, rest, offered, answered, ?_, ⟨[ticket], scans.symm⟩, ?_⟩
    · rw [List.append_assoc, split, ← blocks_concat, ← scans]
    · rw [scans, List.length_append]
      exact Nat.le_refl _
  | stopped gone free served offered answered =>
    exact ⟨_, [], [], by rw [List.append_nil]; exact offered, answered, by rw [List.append_nil, List.append_nil],
      List.prefix_rfl, Nat.le_succ _⟩

/-! ## How the sent calls lie in the offered ones -/

/-- The calls that were sent open those that were offered, and while a requester is left all of them were sent. -/
structure Sending (h : List Deed) (b : Bridge) : Prop where
  sent : sentIn h <+: offeredIn h
  whole : b.hasRequester = true → sentIn h = offeredIn h

/-- Where nothing is offered and no requester comes back, nothing changes. -/
theorem Sending.quiet {h ds : List Deed} {b b' : Bridge} (hn : Sending h b) (hs : sentIn ds = [])
    (ho : offeredIn ds = []) (hb : b'.hasRequester = true → b.hasRequester = true) : Sending (h ++ ds) b' := by
  have hsent : sentIn (h ++ ds) = sentIn h := by rw [sentIn_append, hs, List.append_nil]
  have hoffered : offeredIn (h ++ ds) = offeredIn h := by rw [offeredIn_append, ho, List.append_nil]
  refine ⟨?_, fun hr => ?_⟩
  · rw [hsent, hoffered]
    exact hn.sent
  · rw [hsent, hoffered]
    exact hn.whole (hb hr)

theorem Sending.work {serve : Nat → ServedPass} {h ds : List Deed} {b b' : Bridge} {w w' : Worker}
    (hn : Sending h b) (hs : Stage serve h b w) (hw : Work serve b w ds w' b') : Sending (h ++ ds) b' := by
  cases hw with
  | takeScan ticket rest next => exact hn.quiet rfl rfl id
  | takeShutdown rest next =>
    have hleft := Bridge.dropWorker_left { b with commands := ⟨rest⟩ }
    exact hn.quiet rfl rfl (Bridge.hasRequester_of_handles hleft.handles)
  | leave empty left => exact hn.quiet rfl rfl (Bridge.hasRequester_of_handles b.dropWorker_left.handles)
  | send ticket call rest result heard =>
    have heq : sentIn (h ++ [.sent call]) = offeredIn (h ++ [.sent call]) := by
      rw [sentIn_append, offeredIn_append, hn.whole heard]
      rfl
    exact ⟨heq ▸ List.prefix_rfl, fun _ => heq⟩
  | refuse ticket call rest result left =>
    refine ⟨?_, fun hr => ?_⟩
    · rw [sentIn_append, offeredIn_append]
      exact (List.append_nil (sentIn h)).symm ▸ hn.sent.trans (List.prefix_append _ _)
    · rw [left] at hr
      cases hr
  | answer ticket result =>
    cases hs with
    | serving before _ done _ here held =>
      obtain ⟨-, hsent, hoffered⟩ := Worker.answer_in b (Worker.answer b ticket (serve ticket).result) ticket
        (serve ticket).result
      have hans := Worker.answer_answered held (serve ticket).result
      exact hn.quiet hsent hoffered (Bridge.hasRequester_of_handles hans.handles)

/-! ## What was known at an answer -/

/-- What holds after a history at whose end a scan is answered: the scan is the last one taken, everything of its
pass and of those before it was offered, and the outcome is that of its pass. -/
structure Settled (serve : Nat → ServedPass) (h : List Deed) (ticket : Nat) (outcome : ScanOutcome) : Prop where
  last : ∃ before, Command.scans (takenIn h) = before ++ [ticket]
  offered : offeredIn h = blocks serve (Command.scans (takenIn h))
  outcome : ScanOutcome.ofResult? (serve ticket).result = some outcome

/-- Every answer came after its pass was settled. -/
def Answering (serve : Nat → ServedPass) (h : List Deed) : Prop :=
  ∀ past ticket outcome, past ++ [.answered ticket outcome] <+: h → Settled serve past ticket outcome

/-- A prefix that ends in something new is a prefix of what was there. -/
theorem prefix_of_not_mem {α : Type} {past h ds : List α} {a : α} (hp : past ++ [a] <+: h ++ ds) (ha : a ∉ ds) :
    past ++ [a] <+: h := by
  rcases List.prefix_or_prefix_of_prefix hp (List.prefix_append h ds) with hp' | ⟨more, hm⟩
  · exact hp'
  · rcases List.eq_nil_or_concat more with rfl | ⟨more, x, rfl⟩
    · rw [List.append_nil] at hm
      exact hm ▸ List.prefix_rfl
    · rw [List.concat_eq_append, ← List.append_assoc] at hm
      obtain ⟨-, hx⟩ := List.append_inj' hm rfl
      cases hx
      rw [← hm, List.append_assoc, List.prefix_append_right_inj] at hp
      exact absurd (hp.subset (List.mem_append_right more (List.mem_singleton_self a))) ha

theorem Answering.quiet {serve : Nat → ServedPass} {h ds : List Deed} (ha : Answering serve h)
    (hd : ∀ t o, .answered t o ∉ ds) : Answering serve (h ++ ds) :=
  fun past t o hp => ha past t o (prefix_of_not_mem hp (hd t o))

theorem Answering.work {serve : Nat → ServedPass} {h ds : List Deed} {b b' : Bridge} {w w' : Worker}
    (ha : Answering serve h) (hs : Stage serve h b w) (hw : Work serve b w ds w' b') : Answering serve (h ++ ds) := by
  cases hw with
  | takeScan ticket rest next => exact ha.quiet fun t o hm => by cases List.mem_singleton.1 hm
  | takeShutdown rest next => exact ha.quiet fun t o hm => by cases List.mem_singleton.1 hm
  | leave empty left => exact ha.quiet fun t o hm => by cases hm
  | send ticket call rest result heard => exact ha.quiet fun t o hm => by cases List.mem_singleton.1 hm
  | refuse ticket call rest result left => exact ha.quiet fun t o hm => by cases List.mem_singleton.1 hm
  | answer ticket result =>
    cases hs with
    | serving before _ done _ here held served scans split offered answered =>
      rw [Worker.deeds_answer held]
      intro past t o hp
      cases hr : ScanOutcome.ofResult? (serve ticket).result with
      | none =>
        rw [hr] at hp
        exact ha past t o (prefix_of_not_mem hp fun hm => by cases List.mem_singleton.1 hm)
      | some outcome =>
        rw [hr] at hp
        -- this answer, or an earlier one
        rcases List.prefix_concat_iff.1 hp with heq | hp
        · obtain ⟨rfl, hd⟩ := List.append_inj' heq rfl
          cases hd
          rw [List.append_nil] at split
          exact ⟨⟨before, scans⟩, by rw [scans, blocks_concat, ← split, offered], hr⟩
        · exact ha past t o hp

/-! ## Whole courses -/

/-- The three parts together. -/
structure Stream (serve : Nat → ServedPass) (c : Course) : Prop where
  stage : Stage serve c.history c.service.bridge c.service.worker
  sending : Sending c.history c.service.bridge
  answering : Answering serve c.history

theorem Stream.start (serve : Nat → ServedPass) : Stream serve {} := by
  refine ⟨.idle rfl rfl (by rintro ⟨⟩) rfl rfl, ⟨List.prefix_rfl, fun _ => rfl⟩, fun past t o hp => ?_⟩
  have hl := hp.length_le
  rw [List.length_append] at hl
  cases hl

theorem Stream.move {serve : Nat → ServedPass} {c : Course} (hc : Stream serve c) (m : Move) :
    Stream serve (c.move serve m) := by
  cases m with
  | request action requester =>
    have hr := c.service.bridge.deeds_of_request requester
    have hk := c.service.bridge.keeps_of_request requester
    exact ⟨hc.stage.request hr hk, hc.sending.quiet hr.sent hr.offered hk.requesters,
      hc.answering.quiet hr.not_answered⟩
  | work =>
    unfold Course.move
    dsimp only
    split
    · exact hc
    · next worker bridge events hstep =>
      have hw := work_of_step hstep
      exact ⟨hc.stage.work hw, hc.sending.work hc.stage hw, hc.answering.work hc.stage hw⟩

theorem stream_run (serve : Nat → ServedPass) (moves : List Move) : Stream serve (Course.run serve moves) :=
  Course.run_induction (Stream.start serve) (fun _ m hc => hc.move m) moves

theorem answers_tickets {serve : Nat → ServedPass} (hs : ∀ t, (serve t).Obeys) : ∀ scans : List Nat,
    (answers serve scans).map Prod.fst = scans
  | [] => rfl
  | t :: scans => by
    obtain ⟨result, hr, -⟩ := hs t
    have ih := answers_tickets hs scans
    unfold answers at ih ⊢
    cases result with
    | ok s => rw [List.filterMap_cons_some (by rw [hr]; rfl), List.map_cons, ih]
    | error e => rw [List.filterMap_cons_some (by rw [hr]; rfl), List.map_cons, ih]

/-- What a scan is told belongs to what its pass sent. -/
theorem ServedPass.Obeys.outcome {pass : ServedPass} {o : ScanOutcome} (hp : pass.Obeys)
    (ho : ScanOutcome.ofResult? pass.result = some o) :
    (∃ found s, pass.calls = RegistryCall.ofPass found s ∧ o = .completed s) ∨
      ∃ e, pass.result = some (.error e) ∧ pass.calls = [] ∧ o = .failed e.message := by
  obtain ⟨result, hr, hp⟩ := hp
  rw [hr] at ho ⊢
  generalize hc : pass.calls = calls at hp
  cases hp with
  | failed e => exact .inr ⟨e, rfl, rfl, (Option.some.inj ho).symm⟩
  | finished found s => exact .inl ⟨found, s, rfl, (Option.some.inj ho).symm⟩

/-- The scans that a worker took were queued before the first shutdown, if it took the commands in the order in which
they were queued. -/
theorem Stage.scans_before_shutdown {serve : Nat → ServedPass} {h : List Deed} {b : Bridge} {w : Worker}
    (hs : Stage serve h b w) (htaken : takenIn h <+: queuedIn h) :
    Command.scans (takenIn h) <+: Command.scans ((queuedIn h).takeWhile fun command => command ≠ .shutdown) := by
  -- a shutdown that was taken is the last command taken, and is not among those before it
  obtain ⟨before, hb, ht⟩ := hs.takes
  have hscans : Command.scans (takenIn h) = Command.scans before := by
    rcases ht with ht | ht
    · rw [ht]
    · rw [ht, Command.scans_append]
      exact List.append_nil _
  have hprefix : before <+: queuedIn h := by
    rcases ht with ht | ht
    · exact ht ▸ htaken
    · exact (List.prefix_append before _).trans (ht ▸ htaken)
  obtain ⟨rest, hq⟩ := hprefix
  rw [hscans, ← hq, List.takeWhile_append_of_pos, Command.scans_append]
  · exact List.prefix_append _ _
  · intro command hm
    exact decide_eq_true fun he => hb (he ▸ hm)

end UsbInventory
