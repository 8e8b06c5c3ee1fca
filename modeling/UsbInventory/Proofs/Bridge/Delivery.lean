/-
Where a scan is, as its ticket tells it. A ticket waits while its scan is queued or held and shows what the scan was
given from then on, once: that is what every deal keeps (`Tracked`), and it rests on the scans that were let go, those
held and those queued being different. With the accounts of the queues this is all of what a bridge promises its two
ends; a channel refuses exactly when nobody is left at the other one.
-/
import UsbInventory.Proofs.Bridge.Ledger

namespace UsbInventory

namespace Attempt

variable {α : Type}

def isPending : Attempt α → Bool
  | pending => true
  | _ => false

def isFailed : Attempt α → Bool
  | failed _ => true
  | _ => false

end Attempt

namespace Bridge

variable {b b' : Bridge} {l l' : Ledger}

/-! ## The accounts of the tickets -/

/-- Every scan that was queued has a ticket of its own, and its ticket tells where it is: it waits while the scan is
queued or held, and shows what the scan was given from then on, once. -/
structure Tracked (b : Bridge) (l : Ledger) : Prop where
  distinct : (Command.scans l.asked).Nodup
  known : ∀ t ∈ Command.scans l.asked, t < b.tickets.length
  held : (l.settled.map Prod.fst ++ b.taken).Perm (Command.scans l.taken)
  inOrder : b.taken.Sublist (Command.scans l.taken)
  pending : ∀ t, t ∈ b.taken ∨ t ∈ Command.scans b.commands.items → b.replyAt t = some .waiting
  waiting : ∀ t, b.replyAt t = some .waiting → b.wants t = true →
    t ∈ b.taken ∨ t ∈ Command.scans b.commands.items
  ready : ∀ t o, b.replyAt t = some (.ready o) → (t, some o) ∈ l.settled ∧ t ∉ l.shown.map Prod.fst
  given : ∀ t o, (t, some o) ∈ l.settled → b.wants t = true → (t, o) ∈ l.shown ∨ b.replyAt t = some (.ready o)
  shown : ∀ t o, (t, o) ∈ l.shown → (t, some o) ∈ l.settled
  once : (l.shown.map Prod.fst).Nodup

/-- The scans that were taken and those queued, in this order, are scans that were asked for. -/
theorem Balanced.scans_places (h : Balanced b l) :
    Command.scans l.taken ++ Command.scans b.commands.items <+: Command.scans l.asked := by
  cases ho : b.isOpen with
  | true =>
    exact ⟨[], by rw [List.append_nil, ← Command.scans_append, h.commands ho]⟩
  | false =>
    rw [h.left ho]
    exact (List.append_nil _).symm ▸ h.taken.filterMap _

theorem Tracked.places_nodup (h : Tracked b l) (hb : Balanced b l) :
    (l.settled.map Prod.fst ++ b.taken ++ Command.scans b.commands.items).Nodup :=
  (h.held.append_right _).nodup_iff.2 (h.distinct.sublist hb.scans_places.sublist)

theorem Tracked.settled_lt (h : Tracked b l) (hb : Balanced b l) {t : Nat} {o : Option ScanOutcome}
    (hs : (t, o) ∈ l.settled) : t < b.tickets.length := by
  refine h.known t (hb.scans_places.subset (List.mem_append_left _ (h.held.subset ?_)))
  exact List.mem_append_left _ (List.mem_map_of_mem hs)

/-- A request for a scan makes a new ticket, which waits if the scan is queued and is closed otherwise. -/
theorem Tracked.enlist (h : Tracked b l) (hb : Balanced b l) (queued : Bool) {commands asked : List Command}
    (hc : Command.scans commands = Command.scans b.commands.items ++ if queued then [b.tickets.length] else [])
    (ha : Command.scans asked = Command.scans l.asked ++ if queued then [b.tickets.length] else []) :
    Tracked
      { b with
        commands := ⟨commands⟩
        tickets := b.tickets ++ [{ reply := if queued then .waiting else .closed }] }
      { l with asked } := by
  have hnew : ∀ t, t ∈ (if queued then [b.tickets.length] else []) ↔ queued = true ∧ t = b.tickets.length := by
    intro t
    cases queued <;> simp
  have hreply : ∀ t, replyAt
      { b with
        commands := ⟨commands⟩
        tickets := b.tickets ++ [{ reply := if queued then .waiting else .closed }] } t =
      if t = b.tickets.length then some (if queued then .waiting else .closed) else b.replyAt t :=
    replyAt_append rfl
  have hplace : ∀ t, t ∈ Command.scans commands ↔
      t ∈ Command.scans b.commands.items ∨ queued = true ∧ t = b.tickets.length := by
    intro t
    rw [hc, List.mem_append, hnew]
  refine ⟨?_, fun t ht => ?_, h.held, h.inOrder, fun t ht => ?_, fun t ht hw => ?_, fun t o ht => ?_,
    fun t o ht hw => ?_, h.shown, h.once⟩
  · refine ha ▸ List.nodup_append.2 ⟨h.distinct, by cases queued <;> simp, fun t ht u hu => ?_⟩
    exact ((hnew u).1 hu).2 ▸ Nat.ne_of_lt (h.known t ht)
  · rw [List.length_append, List.length_singleton]
    rcases List.mem_append.1 (ha ▸ ht) with ht | ht
    · exact Nat.lt_succ_of_lt (h.known t ht)
    · exact ((hnew t).1 ht).2 ▸ Nat.lt_succ_self _
  · rw [hreply]
    rcases or_assoc.2 (ht.imp_right (hplace t).1) with ht | ⟨rfl, rfl⟩
    · have hp := h.pending t ht
      rw [if_neg (Nat.ne_of_lt (lt_of_replyAt hp)), hp]
    · rw [if_pos rfl, if_pos rfl]
  · rw [hreply] at ht
    refine (or_congr_right (hplace t)).2 ?_
    split at ht
    · next he =>
      cases queued with
      | false => cases ht
      | true => exact .inr (.inr ⟨rfl, he⟩)
    · exact or_assoc.1 (.inl (h.waiting t ht ((wants_append rfl (lt_of_replyAt ht)).symm.trans hw)))
  · rw [hreply] at ht
    split at ht
    · cases queued <;> cases ht
    · exact h.ready t o ht
  · have hlt := h.settled_lt hb ht
    rw [hreply, if_neg (Nat.ne_of_lt hlt)]
    exact h.given t o ht ((wants_append rfl hlt).symm.trans hw)

theorem Command.scans_concat_shutdown (commands : List Command) :
    Command.scans (commands ++ [.shutdown]) = Command.scans commands :=
  (Command.scans_append commands _).trans (List.append_nil _)

theorem Tracked.take (h : Tracked b l) {command : Command} {rest : List Command}
    (next : b.commands.items = command :: rest) :
    Tracked ({ b with commands := ⟨rest⟩ }.hold command) { l with taken := l.taken ++ [command] } := by
  cases command with
  | scan ticket =>
    have hplace : ∀ t, (t ∈ b.taken ++ [ticket] ∨ t ∈ Command.scans rest) ↔
        (t ∈ b.taken ∨ t ∈ Command.scans b.commands.items) := by
      intro t
      rw [next, List.mem_append, List.mem_singleton, or_assoc]
      exact or_congr_right List.mem_cons.symm
    have hscans : Command.scans (l.taken ++ [.scan ticket]) = Command.scans l.taken ++ [ticket] :=
      Command.scans_append ..
    refine ⟨h.distinct, h.known, ?_, ?_, fun t ht => h.pending t ((hplace t).1 ht),
      fun t ht hw => (hplace t).2 (h.waiting t ht hw), h.ready, h.given, h.shown, h.once⟩
    · rw [hscans]
      show (l.settled.map Prod.fst ++ (b.taken ++ [ticket])).Perm _
      rw [← List.append_assoc]
      exact h.held.append_right [ticket]
    · rw [hscans]
      exact h.inOrder.append_right [ticket]
  | shutdown =>
    have hplace : Command.scans b.commands.items = Command.scans rest := by
      rw [next]
      rfl
    have hscans := Command.scans_concat_shutdown l.taken
    exact ⟨h.distinct, h.known, hscans.symm ▸ h.held, hscans.symm ▸ h.inOrder, hplace ▸ h.pending,
      hplace ▸ h.waiting, h.ready, h.given, h.shown, h.once⟩

/-- The scans in the queue that goes with the last side are closed. -/
theorem Tracked.close (h : Tracked b l) (hb : Balanced b l) {b' : Bridge} (taken : b'.taken = b.taken)
    (commands : b'.commands = {}) (tickets : b'.tickets = closing (Command.scans b.commands.items) b.tickets) :
    Tracked b' l := by
  have hreply : ∀ t, b'.replyAt t =
      if t ∈ Command.scans b.commands.items then (b.replyAt t).map fun _ => .closed else b.replyAt t := by
    intro t
    unfold replyAt
    rw [tickets, reply_closing]
  have hwants : ∀ t, b'.wants t = b.wants t := by
    intro t
    unfold wants
    rw [tickets, wanted_closing]
  have hn := (List.nodup_append.1 (h.places_nodup hb)).2.2
  -- a reply that is left is not that of a scan in the queue
  have hkept : ∀ {t reply}, b'.replyAt t = some reply → reply ≠ .closed →
      b.replyAt t = some reply ∧ t ∉ Command.scans b.commands.items := by
    intro t reply ht hr
    rw [hreply] at ht
    split at ht
    · obtain ⟨_, -, rfl⟩ := Option.map_eq_some_iff.1 ht
      exact absurd rfl hr
    · next hq => exact ⟨ht, hq⟩
  refine ⟨h.distinct, fun t ht => ?_, taken ▸ h.held, taken ▸ h.inOrder, fun t ht => ?_, fun t ht hw => ?_,
    fun t o ht => ?_, fun t o ht hw => ?_, h.shown, h.once⟩
  · rw [tickets, length_closing]
    exact h.known t ht
  · rw [taken, commands] at ht
    have ht : t ∈ b.taken := ht.resolve_right List.not_mem_nil
    rw [hreply, if_neg fun hq => hn t (List.mem_append_right _ ht) t hq rfl]
    exact h.pending t (.inl ht)
  · obtain ⟨ht, hq⟩ := hkept ht (by rintro ⟨⟩)
    rw [taken]
    exact .inl ((h.waiting t ht (hwants t ▸ hw)).resolve_right hq)
  · exact h.ready t o (hkept ht (by rintro ⟨⟩)).1
  · refine (h.given t o ht (hwants t ▸ hw)).imp_right fun hr => ?_
    rw [hreply, if_neg fun hq => ?_, hr]
    rw [h.pending t (.inr hq)] at hr
    cases hr

/-- A scan that is held is none of those that were let go, and it is neither held twice nor queued. -/
theorem Tracked.apart (h : Tracked b l) (hb : Balanced b l) {ticket : Nat} (held : ticket ∈ b.taken) :
    (∀ o, (ticket, o) ∉ l.settled) ∧ ticket ∉ (b.letGo ticket).taken ∧
      ticket ∉ Command.scans b.commands.items := by
  have hn := h.places_nodup hb
  obtain ⟨hn, -, hqueue⟩ := List.nodup_append.1 hn
  obtain ⟨-, htaken, hsettled⟩ := List.nodup_append.1 hn
  exact ⟨fun o ho => hsettled ticket (List.mem_map_of_mem ho) ticket held rfl, htaken.not_mem_erase,
    fun hq => hqueue ticket (List.mem_append_right _ held) ticket hq rfl⟩

/-- The scans that were let go and those held are those that were taken, also after one of them is let go. -/
theorem Tracked.settle_held (h : Tracked b l) {ticket : Nat} (held : ticket ∈ b.taken)
    (outcome : Option ScanOutcome) :
    ((l.settled ++ [(ticket, outcome)]).map Prod.fst ++ (b.letGo ticket).taken).Perm (Command.scans l.taken) := by
  rw [List.map_append, List.append_assoc]
  exact ((List.perm_cons_erase held).symm.append_left _).trans h.held

/-- Letting one scan go takes only that from those held. -/
theorem mem_letGo {ticket t : Nat} (hn : ticket ∉ (b.letGo ticket).taken) :
    t ∈ (b.letGo ticket).taken ↔ t ∈ b.taken ∧ t ≠ ticket := by
  constructor
  · intro hm
    refine ⟨List.mem_of_mem_erase hm, ?_⟩
    rintro rfl
    exact hn hm
  · rintro ⟨hm, hne⟩
    exact (List.mem_erase_of_ne hne).2 hm

/-- A scan that is let go shows what it was given. -/
theorem Tracked.answer (h : Tracked b l) (hb : Balanced b l) {ticket : Nat} {outcome : Option ScanOutcome}
    (held : ticket ∈ b.taken) :
    Tracked ((b.letGo ticket).setReply ticket (.ofOutcome outcome))
      { l with settled := l.settled ++ [(ticket, outcome)] } := by
  have hreply : ∀ t, replyAt ((b.letGo ticket).setReply ticket (.ofOutcome outcome)) t =
      if ticket = t then (b.replyAt t).map fun _ => .ofOutcome outcome else b.replyAt t :=
    fun t => replyAt_setReply (b.letGo ticket) ticket t _
  have hwants : ∀ t, wants ((b.letGo ticket).setReply ticket (.ofOutcome outcome)) t = b.wants t :=
    fun t => wants_setReply (b.letGo ticket) ticket t _
  obtain ⟨hs, hr, hq⟩ := h.apart hb held
  have hp : b.replyAt ticket = some .waiting := h.pending ticket (.inl held)
  refine ⟨h.distinct, fun t ht => ?_, h.settle_held held outcome, List.erase_sublist.trans h.inOrder, fun t ht => ?_,
    fun t ht hw => ?_, fun t o ht => ?_, fun t o ht hw => ?_,
    fun t o ht => List.mem_append_left _ (h.shown t o ht), h.once⟩
  · exact (List.length_modify ..).symm ▸ h.known t ht
  · rw [hreply, if_neg]
    · exact h.pending t (ht.imp_left List.mem_of_mem_erase)
    · rintro rfl
      exact ht.elim hr hq
  · rw [hreply] at ht
    split at ht
    · next he =>
      subst he
      rw [hp] at ht
      cases outcome <;> cases ht
    · next he => exact (h.waiting t ht (hwants t ▸ hw)).imp_left fun hm => (mem_letGo hr).2 ⟨hm, Ne.symm he⟩
  · rw [hreply] at ht
    split at ht
    · next he =>
      subst he
      rw [hp] at ht
      cases outcome with
      | none => cases ht
      | some outcome =>
        cases ht
        refine ⟨List.mem_append_right _ List.mem_cons_self, fun hm => ?_⟩
        obtain ⟨⟨_, o⟩, hm, rfl⟩ := List.mem_map.1 hm
        exact hs _ (h.shown _ o hm)
    · exact (h.ready t o ht).imp_left (List.mem_append_left _)
  · rw [hreply]
    rcases List.mem_append.1 ht with ht | ht
    · rw [if_neg]
      · exact h.given t o ht (hwants t ▸ hw)
      · rintro rfl
        exact hs _ ht
    · cases List.mem_singleton.1 ht
      rw [if_pos rfl, hp]
      exact .inr rfl

/-- A scan that nobody follows any more is let go without notice. -/
theorem Tracked.waste (h : Tracked b l) (hb : Balanced b l) {ticket : Nat} {outcome : ScanOutcome}
    (held : ticket ∈ b.taken) (unwanted : b.wants ticket = false) :
    Tracked (b.letGo ticket) { l with settled := l.settled ++ [(ticket, some outcome)] } := by
  have hother : ∀ {t}, b.wants t = true → t ≠ ticket := by
    rintro t hw rfl
    rw [unwanted] at hw
    cases hw
  obtain ⟨-, hr, -⟩ := h.apart hb held
  refine ⟨h.distinct, h.known, h.settle_held held (some outcome), List.erase_sublist.trans h.inOrder,
    fun t ht => h.pending t (ht.imp_left List.mem_of_mem_erase), fun t ht hw => ?_,
    fun t o ht => (h.ready t o ht).imp_left (List.mem_append_left _), fun t o ht hw => ?_,
    fun t o ht => List.mem_append_left _ (h.shown t o ht), h.once⟩
  · exact (h.waiting t ht hw).imp_left fun hm => (mem_letGo hr).2 ⟨hm, hother hw⟩
  · refine h.given t o ((List.mem_append.1 ht).resolve_right fun hm => ?_) hw
    cases List.mem_singleton.1 hm
    exact hother hw rfl

/-- An outcome that a ticket has shown is not shown again. -/
theorem Tracked.reveal (h : Tracked b l) {ticket : Nat} {outcome : ScanOutcome} (shows : b.Shows ticket outcome) :
    Tracked (b.setReply ticket .closed) { l with shown := l.shown ++ [(ticket, outcome)] } := by
  have hr : b.replyAt ticket = some (.ready outcome) := shows
  have hreply : ∀ t, (b.setReply ticket .closed).replyAt t =
      if ticket = t then (b.replyAt t).map fun _ => .closed else b.replyAt t :=
    fun t => replyAt_setReply b ticket t _
  obtain ⟨hgiven, hnew⟩ := h.ready ticket outcome hr
  -- a reply that is left is that of another ticket
  have hkept : ∀ {t reply}, (b.setReply ticket .closed).replyAt t = some reply → reply ≠ .closed →
      b.replyAt t = some reply ∧ ticket ≠ t := by
    intro t reply ht hc
    rw [hreply] at ht
    split at ht
    · obtain ⟨_, -, rfl⟩ := Option.map_eq_some_iff.1 ht
      exact absurd rfl hc
    · next he => exact ⟨ht, he⟩
  refine ⟨h.distinct, fun t ht => (List.length_modify ..).symm ▸ h.known t ht, h.held, h.inOrder, fun t ht => ?_,
    fun t ht hw => ?_, fun t o ht => ?_, fun t o ht hw => ?_, fun t o ht => ?_, ?_⟩
  · have hp := h.pending t ht
    rw [hreply, if_neg, hp]
    rintro rfl
    rw [hr] at hp
    cases hp
  · exact h.waiting t (hkept ht (by rintro ⟨⟩)).1 (wants_setReply b ticket t _ ▸ hw)
  · obtain ⟨ht, he⟩ := hkept ht (by rintro ⟨⟩)
    refine (h.ready t o ht).imp_right fun hm => ?_
    rw [List.map_append, List.mem_append, not_or]
    exact ⟨hm, fun hs => he (List.mem_singleton.1 hs).symm⟩
  · rw [hreply]
    rcases h.given t o ht (wants_setReply b ticket t _ ▸ hw) with hs | hs
    · exact .inl (List.mem_append_left _ hs)
    · by_cases he : ticket = t
      · subst he
        cases hr.symm.trans hs
        exact .inl (List.mem_append_right _ List.mem_cons_self)
      · rw [if_neg he]
        exact .inr hs
  · rcases List.mem_append.1 ht with ht | ht
    · exact h.shown t o ht
    · cases List.mem_singleton.1 ht
      exact hgiven
  · rw [List.map_append]
    refine List.nodup_append.2 ⟨h.once, List.pairwise_singleton _ _, fun t ht u hu => ?_⟩
    cases List.mem_singleton.1 hu
    rintro rfl
    exact hnew ht

theorem Tracked.giveUp (h : Tracked b l) (ticket : Nat) : Tracked (b.dropTicket ticket) l := by
  have hr := replyAt_dropTicket b ticket
  refine ⟨h.distinct, fun t ht => (List.length_modify ..).symm ▸ h.known t ht, h.held, h.inOrder,
    fun t ht => (hr t).trans (h.pending t ht), fun t ht hw => ?_, fun t o ht => h.ready t o ((hr t).symm.trans ht),
    fun t o ht hw => ?_, h.shown, h.once⟩
  · exact h.waiting t ((hr t).symm.trans ht) (wants_of_dropTicket hw)
  · rw [hr]
    exact h.given t o ht (wants_of_dropTicket hw)

theorem Tracked.deal (h : Tracked b l) (hb : Balanced b l) (d : Deal b l b' l') : Tracked b' l' := by
  cases d with
  | nothing => exact h
  | sides handles worker =>
    exact ⟨h.distinct, h.known, h.held, h.inOrder, h.pending, h.waiting, h.ready, h.given, h.shown, h.once⟩
  | close handles worker tickets gone closed => exact h.close hb rfl rfl closed
  | refuse => exact h.enlist hb false (List.append_nil _).symm (List.append_nil _).symm
  | askScan => exact h.enlist hb true (Command.scans_append ..) (Command.scans_append ..)
  | askShutdown =>
    have hq := Command.scans_concat_shutdown b.commands.items
    have ha := Command.scans_concat_shutdown l.asked
    exact ⟨ha ▸ h.distinct, ha ▸ h.known, h.held, h.inOrder, hq ▸ h.pending, hq ▸ h.waiting, h.ready, h.given,
      h.shown, h.once⟩
  | take command rest worker next => exact h.take next
  | send => exact ⟨h.distinct, h.known, h.held, h.inOrder, h.pending, h.waiting, h.ready, h.given, h.shown, h.once⟩
  | receive => exact ⟨h.distinct, h.known, h.held, h.inOrder, h.pending, h.waiting, h.ready, h.given, h.shown, h.once⟩
  | answer ticket outcome held => exact h.answer hb held
  | waste ticket outcome held unwanted => exact h.waste hb held unwanted
  | reveal ticket outcome shows => exact h.reveal shows
  | giveUp ticket => exact h.giveUp ticket

/-! ## Answers in turn -/

/-- Whether an action lets the oldest scan go, if it lets one go. -/
def Action.inTurn : Action → Bool
  | respond _ ticket | dropResponse ticket => ticket.isNone
  | _ => true

/-- Whether an action lets a scan go, if it is held. -/
def Action.letsGo : Action → Bool
  | respond _ _ | dropResponse _ => true
  | _ => false

/-- Only an action that lets a scan go enters one as let go. -/
theorem settled_enter (b : Bridge) (l : Ledger) {action : Action} (h : action.letsGo = false) :
    (l.enter b action).settled = l.settled := by
  unfold Ledger.enter
  split <;> try rfl
  · split <;> rfl
  · cases h
  · cases h

theorem taken_respond (b : Bridge) (ticket : Nat) (outcome : ScanOutcome) :
    (b.respond ticket outcome).1.taken = b.taken.erase ticket := by
  unfold respond
  split
  · dsimp only
    split <;> rfl
  · next h => exact (List.erase_of_not_mem h).symm

theorem taken_dropResponse (b : Bridge) (ticket : Nat) :
    (b.dropResponse ticket).taken = b.taken.erase ticket := by
  unfold dropResponse
  split
  · rfl
  · next h => exact (List.erase_of_not_mem h).symm

/-- The scans that were let go and then those held are the ones that were taken, in this order. -/
def InTurn (b : Bridge) (l : Ledger) : Prop := l.settled.map Prod.fst ++ b.taken = Command.scans l.taken

/-- A deal that lets no scan go keeps the order. -/
theorem InTurn.deal (h : InTurn b l) (d : Deal b l b' l') (hs : l'.settled = l.settled) : InTurn b' l' := by
  cases d with
  | take command rest worker next =>
    cases command with
    | scan ticket =>
      show l.settled.map Prod.fst ++ (b.taken ++ [ticket]) = Command.scans (l.taken ++ [.scan ticket])
      rw [← List.append_assoc, show l.settled.map Prod.fst ++ b.taken = _ from h, Command.scans_append]
      rfl
    | shutdown => exact h.trans (Command.scans_concat_shutdown l.taken).symm
  | answer ticket outcome held => cases List.append_right_eq_self.1 hs
  | waste ticket outcome held unwanted => cases List.append_right_eq_self.1 hs
  | _ => exact h

/-- The oldest scan that is held goes over to those that were let go. -/
theorem InTurn.letGo (h : InTurn b l) (outcome : Option ScanOutcome)
    (taken : b'.taken = (b.addressee? none).elim b.taken b.taken.erase) :
    InTurn b' { l with settled := l.settled ++ (b.settled? none).toList.map (·, outcome) } := by
  unfold InTurn at h ⊢
  rw [taken, ← h, List.map_append, List.append_assoc]
  cases ht : b.taken with
  | nil =>
    have ha : b.addressee? none = none := congrArg List.head? ht
    rw [settled?, ha]
    rfl
  | cons ticket rest =>
    have ha : b.addressee? none = some ticket := congrArg List.head? ht
    rw [b.settled?_of_mem ha (ht ▸ List.mem_cons_self), ha]
    show l.settled.map Prod.fst ++ ([ticket] ++ (ticket :: rest).erase ticket) = _
    rw [List.erase_cons_head]
    rfl

theorem InTurn.perform {x : Traffic} (h : InTurn x.bridge x.ledger) {action : Action} (turn : action.inTurn = true) :
    InTurn (x.perform action).bridge (x.perform action).ledger := by
  have d := deal_of_perform x.bridge x.ledger action
  cases action with
  | respond outcome ticket =>
    cases Option.isNone_iff_eq_none.1 turn
    refine h.letGo (some outcome) ?_
    show ((x.bridge.addressee? none).elim (x.bridge, false) (x.bridge.respond · outcome)).1.taken = _
    cases x.bridge.addressee? none with
    | none => rfl
    | some ticket => exact taken_respond x.bridge ticket outcome
  | dropResponse ticket =>
    cases Option.isNone_iff_eq_none.1 turn
    refine h.letGo none ?_
    show ((x.bridge.addressee? none).elim x.bridge x.bridge.dropResponse).taken = _
    cases x.bridge.addressee? none with
    | none => rfl
    | some ticket => exact taken_dropResponse x.bridge ticket
  | _ => exact h.deal d (settled_enter x.bridge x.ledger rfl)

/-! ## Runs -/

/-- What holds of a bridge and its ledger after every run. -/
theorem accounts_run (actions : List Action) :
    Balanced (Traffic.run actions).bridge (Traffic.run actions).ledger ∧
      Tracked (Traffic.run actions).bridge (Traffic.run actions).ledger := by
  refine Traffic.run_induction (P := fun x => Balanced x.bridge x.ledger ∧ Tracked x.bridge x.ledger)
    ⟨⟨fun _ => rfl, fun _ => rfl, List.prefix_refl _, List.prefix_refl _, Nat.zero_le _, Nat.zero_le _, fun _ => rfl⟩,
      ⟨List.nodup_nil, fun t ht => ?_, .nil, .slnil, fun t ht => ?_, fun t ht => ?_, fun t o ht => ?_, fun t o ht => ?_,
        fun t o ht => ?_, List.nodup_nil⟩⟩ fun x action _ ⟨hb, ht⟩ => ?_
  · cases ht
  · rcases ht with ht | ht <;> cases ht
  · cases ht
  · cases ht
  · cases ht
  · cases ht
  · have d := deal_of_perform x.bridge x.ledger action
    exact ⟨hb.deal d, ht.deal hb d⟩

/-- Scans that are answered in turn are let go in the order in which they were taken. -/
theorem inTurn_run {actions : List Action} (turn : ∀ action ∈ actions, action.inTurn = true) :
    InTurn (Traffic.run actions).bridge (Traffic.run actions).ledger :=
  Traffic.run_induction (P := fun x => InTurn x.bridge x.ledger) rfl fun _ action hm h => h.perform (turn action hm)

/-! ## The two ends -/

/-- Whether an answer says that nobody is left at the other end of a channel. -/
def Answer.isRefusal : Answer → Bool
  | .sent attempt => attempt.isFailed
  | .received attempt => attempt.isFailed
  | .taken attempt => attempt.isFailed
  | _ => false

/-- Whether an answer says that the exchange has to wait. -/
def Answer.isPending : Answer → Bool
  | .sent attempt => attempt.isPending
  | .received attempt => attempt.isPending
  | .taken attempt => attempt.isPending
  | _ => false

section

variable {α : Type} (q : Queue α)

theorem put_refused_iff (capacity : Nat) (heard : Bool) (a : α) :
    (q.put capacity heard a).2.isFailed = true ↔ heard = false := by
  rcases q.put_cases capacity heard a with ⟨rfl, -, hq⟩ | ⟨rfl, -, hq⟩ | ⟨rfl, hq⟩ <;> simp [hq, Attempt.isFailed]

theorem put_pending {capacity : Nat} {heard : Bool} {a : α}
    (h : (q.put capacity heard a).2.isPending = true) : (q.put capacity heard a).1 = q := by
  rcases q.put_cases capacity heard a with ⟨-, -, hq⟩ | ⟨-, -, hq⟩ | ⟨-, hq⟩
  · rw [hq] at h
    cases h
  · rw [hq]
  · rw [hq]

theorem take_refused_iff (fed : Bool) : (q.take fed).2.isFailed = true ↔ fed = false ∧ q.items = [] := by
  rcases q.take_cases fed with ⟨a, rest, hi, hq⟩ | ⟨hi, rfl, hq⟩ | ⟨hi, rfl, hq⟩ <;> simp [hi, hq, Attempt.isFailed]

theorem take_pending {fed : Bool} (h : (q.take fed).2.isPending = true) : (q.take fed).1 = q := by
  rcases q.take_cases fed with ⟨a, rest, hi, hq⟩ | ⟨hi, -, hq⟩ | ⟨hi, -, hq⟩
  · rw [hq] at h
    cases h
  · rw [hq]
  · rw [hq]

theorem take?_none_iff : q.take?.2 = none ↔ q.items = [] := by
  rcases q.take?_cases with ⟨a, rest, hi, hq⟩ | ⟨hi, hq⟩ <;> simp [hi, hq]

end

section

variable (b : Bridge)

theorem take_answer : b.take.2 = (b.commands.take b.hasRequester).2 := by
  unfold Bridge.take
  rcases b.commands.take_cases b.hasRequester with ⟨command, rest, -, hq⟩ | ⟨-, -, hq⟩ | ⟨-, -, hq⟩ <;> rw [hq]

theorem take?_answer : b.take?.2 = b.commands.take?.2 := by
  unfold Bridge.take?
  rcases b.commands.take?_cases with ⟨command, rest, -, hq⟩ | ⟨-, hq⟩ <;> rw [hq]

/-- The worker that has to wait for a command changes nothing. -/
theorem take_of_pending (h : b.take.2.isPending = true) : b.take.1 = b := by
  unfold Bridge.take at h ⊢
  rcases b.commands.take_cases b.hasRequester with ⟨command, rest, -, hq⟩ | ⟨-, -, hq⟩ | ⟨-, -, hq⟩
  · rw [hq] at h
    cases h
  · rw [hq]
  · rw [hq]

/-- An exchange that has to wait leaves the queues as they are. -/
theorem queues_of_pending {action : Action} (h : (b.perform action).2.isPending = true) :
    (b.perform action).1.commands = b.commands ∧ (b.perform action).1.calls = b.calls := by
  by_cases hp : action.possible b = true
  · rw [perform, if_pos hp] at h ⊢
    cases action with
    | requestScan => exact ⟨put_pending _ h, rfl⟩
    | requestShutdown => exact ⟨put_pending _ h, rfl⟩
    | receive => exact ⟨rfl, take_pending _ h⟩
    | take =>
      have hb : b.take.1 = b := b.take_of_pending h
      exact ⟨congrArg Bridge.commands hb, congrArg Bridge.calls hb⟩
    | send => exact ⟨rfl, put_pending _ h⟩
    | _ => cases h
  · rw [perform, if_neg hp]
    exact ⟨rfl, rfl⟩

theorem no_requester_iff : b.hasRequester = false ↔ ∀ handle, b.lives handle = false := by
  constructor
  · intro h handle
    cases hl : b.lives handle with
    | false => rfl
    | true =>
      rw [hasRequester_of_lives hl] at h
      cases h
  · intro h
    refine List.any_eq_false.2 fun alive hm ha => ?_
    obtain ⟨handle, hk⟩ := List.getElem?_of_mem hm
    have hl := h handle
    unfold lives at hl
    rw [hk] at hl
    cases ha.symm.trans hl

end

/-- What is queued for the requesters can be received to the end, whether the worker is left or not. -/
theorem receive_all (handle : Nat) : ∀ (calls : List RegistryCall) (b : Bridge), b.lives handle = true →
    b.calls.items = calls →
    (b.performAll (.replicate calls.length (.receive handle))).2 = calls.map fun call => .received (.done call)
  | [], _, _, _ => rfl
  | call :: calls, b, h, hc => by
    have hp : b.perform (.receive handle) = ({ b with calls := ⟨calls⟩ }, .received (.done call)) := by
      refine (if_pos h).trans ?_
      simp [Action.effect, Bridge.receive, Queue.take, hc]
    have ih := receive_all handle calls { b with calls := ⟨calls⟩ } h rfl
    simp only [List.length_cons, List.replicate_succ, performAll, hp, ih, List.map_cons]

theorem take_all : ∀ (commands : List Command) (b : Bridge), b.worker = true → b.commands.items = commands →
    (b.performAll (.replicate commands.length .take)).2 = commands.map fun command => .taken (.done command)
  | [], _, _, _ => rfl
  | command :: commands, b, h, hc => by
    have hp : b.perform .take = ({ b with commands := ⟨commands⟩ }.hold command, .taken (.done command)) := by
      refine (if_pos h).trans ?_
      simp [Action.effect, Bridge.take, Queue.take, hc]
    have ih := take_all commands ({ b with commands := ⟨commands⟩ }.hold command)
      (by cases command <;> exact h) (by cases command <;> rfl)
    simp only [List.length_cons, List.replicate_succ, performAll, hp, ih, List.map_cons]

/-- What a requester is told: nothing can be sent without a worker, and what is queued can be received to the end. -/
theorem requester_end (b : Bridge) {handle : Nat} (h : b.lives handle = true) :
    ((b.perform (.requestScan handle)).2.isRefusal = true ↔ b.worker = false) ∧
    ((b.perform (.requestShutdown handle)).2.isRefusal = true ↔ b.worker = false) ∧
    ((b.perform (.receive handle)).2.isRefusal = true ↔ b.worker = false ∧ b.calls.items = []) ∧
    ((b.perform (.tryReceive handle)).2 = .call none ↔ b.calls.items = []) ∧
    (b.performAll (.replicate b.calls.items.length (.receive handle))).2 =
      b.calls.items.map fun call => .received (.done call) := by
  have he : ∀ {action : Action}, action.possible b = b.lives handle → b.perform action = action.effect b :=
    fun ha => if_pos (ha.trans h)
  refine ⟨?_, ?_, ?_, ?_, receive_all handle _ b h rfl⟩
  · rw [he rfl]
    exact put_refused_iff ..
  · rw [he rfl]
    exact put_refused_iff ..
  · rw [he rfl]
    exact take_refused_iff ..
  · rw [he rfl]
    exact Answer.call.injEq .. ▸ take?_none_iff _

/-- What the worker is told: nothing can be sent without a requester, and what is queued can be taken to the end. -/
theorem worker_end (b : Bridge) (h : b.worker = true) :
    (∀ call, (b.perform (.send call)).2.isRefusal = true ↔ ∀ handle, b.lives handle = false) ∧
    ((b.perform .take).2.isRefusal = true ↔ (∀ handle, b.lives handle = false) ∧ b.commands.items = []) ∧
    ((b.perform .tryTake).2 = .command none ↔ b.commands.items = []) ∧
    (b.performAll (.replicate b.commands.items.length .take)).2 =
      b.commands.items.map fun command => .taken (.done command) := by
  have he : ∀ {action : Action}, action.possible b = b.worker → b.perform action = action.effect b :=
    fun ha => if_pos (ha.trans h)
  refine ⟨fun call => ?_, ?_, ?_, take_all _ b h rfl⟩
  · rw [he rfl, ← no_requester_iff]
    exact put_refused_iff ..
  · rw [he rfl, ← no_requester_iff]
    show b.take.2.isFailed = true ↔ _
    rw [take_answer]
    exact take_refused_iff ..
  · rw [he rfl]
    show Answer.command b.take?.2 = _ ↔ _
    rw [take?_answer, Answer.command.injEq]
    exact take?_none_iff _

/-- A poll is ready when the ticket shows an outcome. -/
theorem poll_ready_iff (b : Bridge) {t : Nat} {o : ScanOutcome} :
    (b.poll t).2 = .ready o ↔ b.replyAt t = some (.ready o) := by
  rw [poll_reply]
  unfold replyAt
  cases (b.tickets[t]?).map Ticket.reply with
  | none => simp
  | some reply => simp

/-! ## The bridge as a whole -/

/-- After every run of actions, as long as anybody can reach the queues, what was taken and what is queued are what
was put in, in this order; a queue never outgrows its capacity, and an exchange that has to wait changes neither.
An exchange is refused exactly when all handles of the other side are gone and, for the receiver, nothing is queued;
what is queued can be received to the end. The scans that were taken are let go in any order and once, the others are
held in the order in which they were taken, and where the oldest is always answered first all of them keep that order.
An outcome is shown at the ticket of the scan that it was given to, unless that was given up, and once. -/
theorem bridge_delivers_once (actions : List Action) :
    let b := (({} : Bridge).performAll actions).1
    let l := (Traffic.run actions).ledger
    (b.isOpen = true → l.taken ++ b.commands.items = l.asked ∧ l.received ++ b.calls.items = l.sent) ∧
    (Command.scans l.asked).Nodup ∧
    b.commands.items.length ≤ commandCapacity ∧ b.calls.items.length ≤ callCapacity ∧
    (∀ action, (b.perform action).2.isPending = true →
      (b.perform action).1.commands = b.commands ∧ (b.perform action).1.calls = b.calls) ∧
    (∀ handle, b.lives handle = true →
      ((b.perform (.requestScan handle)).2.isRefusal = true ↔ b.worker = false) ∧
      ((b.perform (.requestShutdown handle)).2.isRefusal = true ↔ b.worker = false) ∧
      ((b.perform (.receive handle)).2.isRefusal = true ↔ b.worker = false ∧ b.calls.items = []) ∧
      ((b.perform (.tryReceive handle)).2 = .call none ↔ b.calls.items = []) ∧
      (b.performAll (.replicate b.calls.items.length (.receive handle))).2 =
        b.calls.items.map fun call => .received (.done call)) ∧
    (b.worker = true →
      (∀ call, (b.perform (.send call)).2.isRefusal = true ↔ ∀ handle, b.lives handle = false) ∧
      ((b.perform .take).2.isRefusal = true ↔ (∀ handle, b.lives handle = false) ∧ b.commands.items = []) ∧
      ((b.perform .tryTake).2 = .command none ↔ b.commands.items = []) ∧
      (b.performAll (.replicate b.commands.items.length .take)).2 =
        b.commands.items.map fun command => .taken (.done command)) ∧
    (l.settled.map Prod.fst ++ b.taken).Perm (Command.scans l.taken) ∧ b.taken.Sublist (Command.scans l.taken) ∧
    ((∀ action ∈ actions, action.inTurn = true) → l.settled.map Prod.fst ++ b.taken = Command.scans l.taken) ∧
    (∀ t o, (t, some o) ∈ l.settled → b.wants t = true → (t, o) ∈ l.shown ∨ (b.poll t).2 = .ready o) ∧
    (∀ t o, (b.poll t).2 = .ready o → (t, some o) ∈ l.settled ∧ t ∉ l.shown.map Prod.fst) ∧
    (∀ t o, (t, o) ∈ l.shown → (t, some o) ∈ l.settled) ∧
    (l.shown.map Prod.fst).Nodup := by
  intro b l
  obtain ⟨hb, ht⟩ := accounts_run actions
  rw [Traffic.bridge_run] at hb ht
  refine ⟨fun ho => ⟨hb.commands ho, hb.calls ho⟩, ht.distinct, hb.commandRoom, hb.callRoom,
    fun action => b.queues_of_pending, fun handle => b.requester_end, b.worker_end, ht.held, ht.inOrder, fun turn => ?_,
    fun t o hs hw => ?_, fun t o hp => ht.ready t o (b.poll_ready_iff.1 hp), ht.shown, ht.once⟩
  · have hi := inTurn_run turn
    rwa [Traffic.bridge_run] at hi
  · exact (ht.given t o hs hw).imp_right b.poll_ready_iff.2

/-- Of two scans that are held, the later one is answered first. -/
example :
    let b := (({} : Bridge).performAll
      [.requestScan 0, .requestScan 0, .take, .take, .respond (.failed "") (some 1)]).1
    b.taken = [0] ∧ (b.poll 0).2 = .waiting ∧ (b.poll 1).2 = .ready (.failed "") := by
  decide

end Bridge

end UsbInventory
