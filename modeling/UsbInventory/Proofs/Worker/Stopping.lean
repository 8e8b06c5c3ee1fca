/-
What a worker that has stopped leaves behind. The accounts of the tickets hold along a course: a scan waits while it is
queued or held, and a worker that has stopped holds none. What is left is the queue. It outlives the worker as long as a
requester does, and then the scans behind the shutdown that the worker took wait for good.
-/
import UsbInventory.Proofs.Worker.Accounts

namespace UsbInventory

open Deed Bridge

/-! ## After the worker has stopped -/

/-- A worker that has stopped has left its end, holds no scan and has taken at most one shutdown, the last command. -/
theorem Stage.stopped_of {serve : Nat → ServedPass} {h : List Deed} {b : Bridge} {w : Worker}
    (hs : Stage serve h b w) (hw : w = .stopped) : b.worker = false ∧ b.taken = [] ∧
      ∃ before, .shutdown ∉ before ∧ (takenIn h = before ∨ takenIn h = before ++ [.shutdown]) := by
  cases hs with
  | idle => cases hw
  | serving => cases hw
  | stopped gone free served => exact ⟨gone, free, served⟩

theorem shutdown_of_work {serve : Nat → ServedPass} {b b' : Bridge} {w : Worker} {ds : List Deed}
    (hk : Work serve b w ds .stopped b') (hr : b'.hasRequester = true) : .shutdown ∈ takenIn ds := by
  cases hk with
  | takeShutdown => exact List.mem_cons_self
  | leave empty left =>
    unfold Bridge.hasRequester at hr left
    rw [b.dropWorker_left.handles, left] at hr
    cases hr

/-- A worker that has stopped while a requester is left has taken a shutdown. -/
theorem shutdown_of_stopped (serve : Nat → ServedPass) (moves : List Move) :
    let c := Course.run serve moves
    c.service.worker = .stopped → c.service.bridge.hasRequester = true → .shutdown ∈ takenIn c.history := by
  refine Course.run_induction (P := fun c => c.service.worker = .stopped → c.service.bridge.hasRequester = true →
    .shutdown ∈ takenIn c.history) (fun hw => by cases hw) (fun c m hc hw hr => ?_) moves
  cases m with
  | request action requester =>
    obtain ⟨ht, -⟩ := (c.service.bridge.deeds_of_request requester).after c.history
    exact ht ▸ hc hw ((c.service.bridge.keeps_of_request requester).requesters hr)
  | work =>
    unfold Course.move at hw hr ⊢
    cases hs : c.service.worker.step? serve c.service.bridge with
    | none =>
      simp only [hs] at hw hr ⊢
      exact hc hw hr
    | some next =>
      simp only [hs] at hw hr ⊢
      rw [takenIn_append]
      exact List.mem_append_right _ (shutdown_of_work (hw ▸ work_of_step hs) hr)

theorem Command.mem_scans {commands : List Command} {t : Nat} : t ∈ scans commands ↔ .scan t ∈ commands := by
  unfold scans
  rw [List.mem_filterMap]
  constructor
  · rintro ⟨command, hm, hc⟩
    cases command with
    | scan u => exact Option.some.inj hc ▸ hm
    | shutdown => cases hc
  · exact fun hm => ⟨.scan t, hm, rfl⟩

theorem replyAt_of_poll {b : Bridge} {t : Nat} : (b.poll t).2 = .waiting ↔ b.replyAt t = some .waiting := by
  rw [poll_reply, ← replyAt]
  cases b.replyAt t with
  | none => simp
  | some reply => simp

/-- Once the worker has stopped, the tickets that still wait, of those that were not given up, are those of the scans
in the queue. Nothing is left in the queue without a requester; while one is left, what lies in it is what was queued
behind the first shutdown. -/
theorem stopped_worker_strands_queue (serve : Nat → ServedPass) (moves : List Move) :
    let c := Course.run serve moves
    let b := c.service.bridge
    c.service.worker = .stopped →
    (∀ t, b.wants t = true → ((b.poll t).2 = .waiting ↔ .scan t ∈ b.commands.items)) ∧
    (b.hasRequester = false → b.commands.items = []) ∧
    (b.hasRequester = true → ∃ before, .shutdown ∉ before ∧
      queuedIn c.history = before ++ .shutdown :: b.commands.items) := by
  intro c b hw
  obtain ⟨hb, ht⟩ := course_accounts serve moves
  rw [Ledger.ofHistory_eq] at hb ht
  obtain ⟨hgone, hfree, before, hserved, htaken⟩ := (stream_run serve moves).stage.stopped_of hw
  refine ⟨fun t hwant => replyAt_of_poll.trans ⟨fun hr => ?_, fun hm => ?_⟩, fun hr => hb.left ?_, fun hr => ?_⟩
  · refine Command.mem_scans.1 ((ht.waiting t hr hwant).resolve_left fun hm => ?_)
    rw [hfree] at hm
    cases hm
  · exact ht.pending t (.inr (Command.mem_scans.2 hm))
  · rw [isOpen, hr, hgone]
    rfl
  · have hlast : takenIn c.history = before ++ [.shutdown] :=
      htaken.resolve_left fun he => hserved (he ▸ shutdown_of_stopped serve moves hw hr)
    have hq := hb.commands (isOpen_of_requester hr)
    dsimp only at hq
    rw [hlast, List.append_assoc] at hq
    exact ⟨before, hserved, hq.symm⟩

/-- One handle asks for a scan, another for a shutdown and then for a scan too; the worker serves the first scan and
stops. -/
def stoppingMoves : List Move :=
  [Bridge.Action.clone 0, .requestScan 0, .requestShutdown 1, .requestScan 1].pmap Move.request (by decide) ++
    [.work, .work, .work]

theorem second_scan_stranded :
    let c := Course.run (fun _ => .broken) stoppingMoves
    c.service.worker = .stopped ∧ (c.service.bridge.poll 0).2 ≠ .waiting ∧ (c.service.bridge.poll 1).2 = .waiting ∧
      queuedIn c.history = [.scan 0, .shutdown, .scan 1] := by
  intro c
  have hw : c.service.worker = .stopped := by rfl
  obtain ⟨hwaits, -⟩ := stopped_worker_strands_queue (fun _ => .broken) stoppingMoves hw
  refine ⟨hw, fun h => ?_, (hwaits 1 (by decide)).2 (by decide), by decide⟩
  have hm := (hwaits 0 (by decide)).1 h
  exact absurd hm (by decide)

/-- A worker that stops leaves a scan without an answer if that was queued behind the shutdown. -/
theorem not_every_scan_resolved :
    ¬ ∀ (serve : Nat → ServedPass) (moves : List Move) (t : Nat),
      (Course.run serve moves).service.worker = .stopped → .scan t ∈ queuedIn (Course.run serve moves).history →
      ((Course.run serve moves).service.bridge.poll t).2 ≠ .waiting := by
  intro h
  refine h (fun _ => .broken)
    [.request (.requestShutdown 0) rfl, .request (.requestScan 0) rfl, .work] 0 rfl (by decide) (by decide)

end UsbInventory
