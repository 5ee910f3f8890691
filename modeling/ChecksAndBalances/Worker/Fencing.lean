import ChecksAndBalances.Worker.Lease

/-!
# Fencing

The stores know a worker by its name.  As long as no event is taken over under the name of a worker
that is still inside an attempt on it, a call of an attempt is committed only while that attempt is
the current one of the event, and the worker of that attempt knows the job as it is stored.
-/

namespace ChecksAndBalances

open Lib Lib.Tx OutboxRepository

/-! ## Attempts and events -/

/-- What the database holds for the attempt while it is the current one of the event. -/
def Attempt.Owns (db : Db) (worker : String) (o : OutboxEvent) : Attempt → Prop
  | waiting => True
  | claimed _ => o.state = .claimed ∧ o.leaseOwner = some worker
  | working _ job _ => o.state = .claimed ∧ o.leaseOwner = some worker ∧
      ∃ row ∈ db.jobs, row.outboxEventId = o.id ∧ VerusJobRepository.toRecord db row = .ok job
  | deadLettered _ => o.state = .deadLetter
  | released => True

/-- The event of an attempt: a lease of the worker on it belongs to the attempt. -/
structure Slot (db : Db) (worker : String) (attempt : Attempt) (c : OutboxClaim) (o : OutboxEvent) :
    Prop where
  mem : o ∈ db.outbox
  id : o.id = c.id
  eventType : o.eventType = verusAnchorEventType
  started : c.attempt ≤ o.attemptCount
  current : o.state = .claimed → o.leaseOwner = some worker → o.attemptCount = c.attempt
  owns : o.attemptCount = c.attempt → attempt.Owns db worker o
  dead : attempt = .deadLettered c → o.attemptCount = c.attempt

section Slot

variable {options : VerusAnchorWorkerOptions} {observedAt : ℤ} {locked : List Uuid} {db db' : Db}
  {worker : String} {attempt : Attempt} {c : OutboxClaim} {o : OutboxEvent}

/-- Ownership only depends on the event, the job and the committees. -/
theorem Attempt.Owns.congr (h : attempt.Owns db worker o)
    (hrow : ∀ row ∈ db.jobs, row.outboxEventId = o.id → row ∈ db'.jobs)
    (hcommittees : db'.committees = db.committees) : attempt.Owns db' worker o := by
  cases attempt with
  | working c job answers =>
    obtain ⟨hclaimed, howner, row, hmem, hkey, hrecord⟩ := h
    refine ⟨hclaimed, howner, row, hrow row hmem hkey, hkey, ?_⟩
    rw [toRecord_congr hcommittees]
    exact hrecord
  | _ => exact h

/-- A call on the event of an attempt is committed only while the attempt is the current one. -/
theorem Slot.attemptCount_eq [Host] {call : StoreCall} {result : call.Result} {eventId : Uuid}
    (h : Slot db options.worker.workerReference attempt c o)
    (hids : Table.Unique OutboxEvent.id db.outbox) (hkeys : UniqueJobs db)
    (hclaim : attempt.claim = some c) (hallows : attempt.Allows options (.store call))
    (hevent : call.eventId = some eventId)
    (hcommits : Commits (call.exec options observedAt locked) db result db') :
    eventId = c.id ∧ o.attemptCount = c.attempt := by
  have heventId : eventId = c.id := by
    obtain ⟨claim, hsome, hid⟩ := hallows.claim_eq hevent
    rw [hclaim] at hsome
    cases hsome
    exact hid
  refine ⟨heventId, ?_⟩
  by_cases hdead : ∃ errorClass, call = .job eventId (.markDeadLetter errorClass)
  · obtain ⟨errorClass, rfl⟩ := hdead
    refine h.dead ?_
    cases attempt with
    | deadLettered claim =>
      cases hclaim
      rfl
    | working claim job answers => exact hallows.2.elim
    | _ => exact hallows.elim
  · obtain ⟨x, hx, hid, hheld⟩ := StoreCall.held hevent (fun e he => hdead ⟨e, he⟩) hkeys hcommits
    have hxo : x = o := hids x hx o h.mem (by rw [hid, heventId, h.id])
    rw [hxo] at hheld
    exact h.current hheld.1 hheld.2.1

/-- A row of the outbox after a call on an event. -/
theorem exists_kept {call : StoreCall} {result : call.Result} {eventId : Uuid}
    (hevent : call.eventId = some eventId) (hids : Table.Unique OutboxEvent.id db.outbox)
    (hkeys : UniqueJobs db)
    (hcommits : Commits (call.exec options observedAt locked) db result db')
    (ho : o ∈ db.outbox) : ∃ o' ∈ db'.outbox, o.Kept eventId o' := by
  obtain ⟨o', ho', hmove⟩ := Table.exists_of_forall₂ (StoreCall.moves hids hkeys hcommits) ho
  exact ⟨o', ho', hmove.kept hevent⟩

/-- A call of another worker leaves the slot of an attempt that is not the current one of the
called event. -/
theorem Slot.of_kept {call : StoreCall} {result : call.Result} {eventId : Uuid}
    (h : Slot db worker attempt c o) (hevent : call.eventId = some eventId)
    (hids : Table.Unique OutboxEvent.id db.outbox) (hkeys : UniqueJobs db)
    (hcommits : Commits (call.exec options observedAt locked) db result db')
    (hother : c.id = eventId → o.attemptCount ≠ c.attempt) :
    ∃ o', Slot db' worker attempt c o' := by
  obtain ⟨o', ho', hkept⟩ := exists_kept hevent hids hkeys hcommits h.mem
  refine ⟨o', ho', hkept.id.trans h.id, hkept.eventType.trans h.eventType, ?_, ?_, ?_, ?_⟩
  · rw [hkept.attemptCount]
    exact h.started
  · intro hclaimed howner
    obtain ⟨hclaimed₀, howner₀⟩ := hkept.lease hclaimed
    rw [hkept.attemptCount]
    exact h.current hclaimed₀ (howner₀.symm.trans howner)
  · intro hcount
    rw [hkept.attemptCount] at hcount
    have hne : c.id ≠ eventId := fun hid => hother hid hcount
    have hid : o.id ≠ eventId := by
      rw [h.id]
      exact hne
    rw [hkept.other hid]
    refine (h.owns hcount).congr ?_ (StoreCall.committees_eq hkeys hcommits)
    intro row hrow hkey
    refine StoreCall.row_kept hevent hkeys hcommits hrow ?_
    rw [hkey]
    exact hid
  · intro hdead
    rw [hkept.attemptCount]
    exact h.dead hdead

/-- A poll of a worker of another name, or of another event, leaves the slot. -/
theorem Slot.of_claimed {w : OutboxWorkerContext} {leaseDurationMs : ℤ} {x : OutboxEvent}
    (h : Slot db worker attempt c o) (hids : Table.Unique OutboxEvent.id db.outbox)
    (hx : x ∈ db.outbox)
    (hready : x.state = .pending ∨ x.state = .retryableFailed ∨ x.state = .claimed)
    (houtbox : db'.outbox = Table.set (fun r => r.id = x.id)
      (claimedBy w observedAt leaseDurationMs) db.outbox)
    (hwork : db'.work = db.work) (hother : c.id = x.id → worker ≠ w.workerReference) :
    ∃ o', Slot db' worker attempt c o' := by
  have hjobs : db'.jobs = db.jobs := congrArg Prod.fst hwork
  have hcommittees : db'.committees = db.committees := congrArg (fun work => work.2.2) hwork
  by_cases hid : o.id = x.id
  · obtain rfl : o = x := hids o h.mem x hx hid
    refine ⟨claimedBy w observedAt leaseDurationMs o, ?_, h.id, h.eventType, ?_, ?_, ?_, ?_⟩
    · rw [houtbox, hids.mem_set_iff hx]
      exact Or.inl rfl
    · exact h.started.trans (Nat.le_succ _)
    · intro _ howner
      exact absurd (Option.some.inj howner).symm (hother h.id.symm)
    · intro hcount
      have hle := h.started
      have : o.attemptCount + 1 = c.attempt := hcount
      omega
    · intro hdead
      have howns := h.owns (h.dead hdead)
      rw [hdead] at howns
      have hstate : o.state = .deadLetter := howns
      rw [hstate] at hready
      simp at hready
  · refine ⟨o, ?_, h.id, h.eventType, h.started, h.current, ?_, h.dead⟩
    · rw [houtbox, hids.mem_set_iff hx]
      exact Or.inr ⟨h.mem, hid⟩
    · intro hcount
      refine (h.owns hcount).congr ?_ hcommittees
      intro row hrow _
      rw [hjobs]
      exact hrow

/-- The slot of a worker after its own call. -/
theorem Slot.afterStore [Host] {call : StoreCall} {result : call.Result} {eventId : Uuid}
    (h : Slot db options.worker.workerReference attempt c o)
    (hids : Table.Unique OutboxEvent.id db.outbox) (hkeys : UniqueJobs db)
    (hclaim : attempt.claim = some c) (hallows : attempt.Allows options (.store call))
    (hevent : call.eventId = some eventId)
    (hcommits : Commits (call.exec options observedAt locked) db result db')
    (hafter : (attempt.afterStore call result).claim = some c) :
    ∃ o', Slot db' options.worker.workerReference (attempt.afterStore call result) c o' := by
  obtain ⟨rfl, hcount⟩ := h.attemptCount_eq hids hkeys hclaim hallows hevent hcommits
  obtain ⟨o', ho', hkept⟩ := exists_kept hevent hids hkeys hcommits h.mem
  have hcount' : o'.attemptCount = c.attempt := hkept.attemptCount.trans hcount
  refine ⟨o', ho', hkept.id.trans h.id, hkept.eventType.trans h.eventType, hcount'.ge,
    fun _ _ => hcount', fun _ => ?_, fun _ => hcount'⟩
  -- The row that the call leaves under the identifier of the event.
  have hset : ∀ f : OutboxEvent → OutboxEvent,
      db'.outbox = Table.set (fun r => r.id = c.id) f db.outbox → o' = f o := by
    intro f houtbox
    rw [houtbox, ← h.id, hids.mem_set_iff h.mem] at ho'
    rcases ho' with ho' | ⟨-, hne⟩
    · exact ho'
    · exact absurd hkept.id hne
  cases call with
  | queueStats => cases hevent
  | claimNext => cases hevent
  | heartbeat =>
    cases hevent
    obtain ⟨-, -, -, -, -, houtbox, -, hwork⟩ := heartbeat_spec hcommits
    rw [hset _ houtbox]
    have hjobs : db'.jobs = db.jobs := congrArg Prod.fst hwork
    have howns : attempt.Owns db options.worker.workerReference
        { o with leaseExpiresAt := some (observedAt + options.leaseDurationMs) } := by
      have howns := h.owns hcount
      cases attempt with
      | _ => exact howns
    refine howns.congr (fun row hrow _ => ?_) (congrArg (fun work => work.2.2) hwork)
    rw [hjobs]
    exact hrow
  | succeed => cases hafter
  | failTerminal => cases hafter
  | failRetryable _ errorClass =>
    cases hevent
    obtain ⟨-, -, -, f, -, -, hf, houtbox, -⟩ := failRetryable_spec hcommits
    simp only [Attempt.afterStore, Attempt.afterFailure] at hafter ⊢
    rw [hclaim] at hafter ⊢
    split at hafter
    · next claim hsome hdead =>
      show o'.state = .deadLetter
      rw [hset f houtbox]
      exact hf.state_eq o
    · cases hafter
  | job _ operation =>
    cases hevent
    obtain ⟨row, new, hkey, hcommitted⟩ := JobOperation.exec_spec hkeys hcommits
    have hworking : attempt.afterStore (.job c.id operation) result = .working c result [] := by
      cases operation with
      | markDeadLetter => cases hafter
      | _ =>
        simp only [Attempt.afterStore, Attempt.withJob]
        rw [hclaim]
    have hdead : ∀ errorClass, operation ≠ .markDeadLetter errorClass := by
      rintro errorClass rfl
      cases hafter
    have hcalled : (StoreCall.job c.id operation).eventId = some c.id := rfl
    obtain ⟨x, hx, hid, hheld⟩ := StoreCall.held hcalled
      (fun e he => hdead e (by injection he)) hkeys hcommits
    have hsame : o' = o := by
      rw [hcommitted.outbox] at ho'
      exact hids o' ho' o h.mem hkept.id
    rw [hworking, hsame]
    rw [hids x hx o h.mem (hid.trans h.id.symm)] at hheld
    refine ⟨hheld.1, hheld.2.1, new, hcommitted.changed.new_mem, ?_, hcommitted.record⟩
    rw [hcommitted.changed.key, hkey, h.id]

end Slot

/-! ## Runs without a take-over under the same name -/

namespace System

section Fencing

variable {W : Type} [DecidableEq W] {options : W → VerusAnchorWorkerOptions}
  {s s' : System W} {act : Act W}

/-- The worker is inside an attempt under the claim. -/
def Holds (s : System W) (w : W) (c : OutboxClaim) : Prop :=
  ∃ thread, s.threads w = some thread ∧ thread.attempt.claim = some c

/-- The worker polls next. -/
def Polls (s : System W) (w : W) : Prop :=
  ∃ thread k, s.threads w = some thread ∧ thread.process = .call (.store .claimNext) k

/-- A poll takes no event over from another worker of the same name that is still inside an attempt
on it. -/
def Fenced (options : W → VerusAnchorWorkerOptions) (s : System W) : Act W → Prop
  | .store w observedAt locked => s.Polls w → ∀ o,
      candidate s.db.outbox observedAt (some [verusAnchorEventType]) true locked = some o →
      ∀ w' c, w' ≠ w → s.Holds w' c →
        (options w').worker.workerReference = (options w).worker.workerReference → c.id ≠ o.id
  | _ => True

/-- The attempts of the workers and the events they are on. -/
structure Fencing (options : W → VerusAnchorWorkerOptions) (s : System W) : Prop where
  slot : ∀ w thread c, s.threads w = some thread → thread.attempt.claim = some c →
    ∃ o, Slot s.db (options w).worker.workerReference thread.attempt c o
  distinct : ∀ w w' c c', s.Holds w c → s.Holds w' c' → c.id = c'.id → c.attempt = c'.attempt →
    w = w'

omit [DecidableEq W] in
/-- Workers of different names never take an event over under one name. -/
theorem fenced_of_injective
    (h : Function.Injective fun w => (options w).worker.workerReference) (s : System W)
    (act : Act W) : Fenced options s act := by
  cases act with
  | store w observedAt locked =>
    intro _ o _ w' c hne _ hname
    exact absurd (h hname) hne
  | _ => trivial

omit [DecidableEq W] in
theorem Initial.fencing (h : s.Initial) : Fencing options s := by
  refine ⟨?_, ?_⟩
  · intro w thread c hthread
    rw [h.threads w] at hthread
    cases hthread
  · rintro w w' c c' ⟨thread, hthread, -⟩
    rw [h.threads w] at hthread
    cases hthread

omit [DecidableEq W] in
/-- A step in which no worker gets a claim. -/
theorem Fencing.of_slots (h : Fencing options s)
    (hslots : ∀ w thread c, s'.threads w = some thread → thread.attempt.claim = some c →
      s.Holds w c ∧ ∃ o, Slot s'.db (options w).worker.workerReference thread.attempt c o) :
    Fencing options s' := by
  refine ⟨fun w thread c hthread hclaim => (hslots w thread c hthread hclaim).2, ?_⟩
  rintro w w' c c' ⟨thread, hthread, hclaim⟩ ⟨thread', hthread', hclaim'⟩ hid hattempt
  exact h.distinct w w' c c' (hslots w thread c hthread hclaim).1
    (hslots w' thread' c' hthread' hclaim').1 hid hattempt

/-- A step that replaces one thread and leaves the database. -/
theorem Fencing.of_thread (h : Fencing options s) {w : W} {new : Option Thread} (log : List Entry)
    (hnew : ∀ thread c, new = some thread → thread.attempt.claim = some c →
      s.Holds w c ∧ ∃ o, Slot s.db (options w).worker.workerReference thread.attempt c o) :
    Fencing options { s with threads := Function.update s.threads w new, log } := by
  refine h.of_slots fun w' thread c hthread hclaim => ?_
  rcases threads_update hthread with ⟨rfl, heq⟩ | ⟨-, hold⟩
  · exact hnew thread c heq hclaim
  · exact ⟨⟨thread, hold, hclaim⟩, h.slot w' thread c hold hclaim⟩

variable [Host]

/-- A call on an event. -/
theorem Fencing.called (h : Fencing options s) (hsound : Sound options s) {w : W} {observedAt : ℤ}
    {locked : List Uuid} {thread : Thread} {call : StoreCall} {eventId : Uuid}
    {k : call.Result → Process VerusWorkerResult} {result : call.Result} {db : Db} {log : List Entry}
    (hevent : call.eventId = some eventId) (running : s.threads w = some thread)
    (next : thread.process = .call (.store call) k)
    (commits : Commits (call.exec (options w) observedAt locked) s.db result db) :
    Fencing options
      { db
        threads := Function.update s.threads w
          (Thread.resume (k result) (thread.attempt.afterStore call result))
        log } := by
  have hallows := hsound.allows running next
  have hpoll : call ≠ .claimNext := by
    rintro rfl
    cases hevent
  refine h.of_slots fun w' thread' c' hthread hclaim' => ?_
  rcases threads_update hthread with ⟨rfl, hnew⟩ | ⟨hw, hold⟩
  · have hattempt := congrArg Thread.attempt (Thread.resume_eq_some hnew)
    rw [hattempt] at hclaim' ⊢
    have hclaim : thread.attempt.claim = some c' := Attempt.claim_afterStore hpoll hclaim'
    obtain ⟨o, hslot⟩ := h.slot w' thread c' running hclaim
    exact ⟨⟨thread, running, hclaim⟩, hslot.afterStore hsound.ids hsound.keys hclaim hallows hevent
      commits hclaim'⟩
  · have hholds : s.Holds w' c' := ⟨thread', hold, hclaim'⟩
    obtain ⟨o', hslot'⟩ := h.slot w' thread' c' hold hclaim'
    refine ⟨hholds, hslot'.of_kept hevent hsound.ids hsound.keys commits fun hid hcount => ?_⟩
    -- The caller's attempt is the current one, so no other worker is inside it.
    obtain ⟨c, hclaim, -⟩ := hallows.claim_eq hevent
    obtain ⟨o, hslot⟩ := h.slot w thread c running hclaim
    obtain ⟨heventId, hcurrent⟩ := hslot.attemptCount_eq hsound.ids hsound.keys hclaim hallows
      hevent commits
    have hoo' : o = o' := hsound.ids o hslot.mem o' hslot'.mem (by
      rw [hslot.id, hslot'.id, hid, heventId])
    refine hw (h.distinct w' w c' c hholds ⟨thread, running, hclaim⟩ ?_ ?_)
    · rw [hid, heventId]
    · rw [← hcount, ← hcurrent, hoo']

/-- A poll that gives the worker a claim. -/
theorem Fencing.polled (h : Fencing options s) (hsound : Sound options s) {w : W} {observedAt : ℤ}
    {locked : List Uuid} {thread : Thread}
    {k : StoreCall.claimNext.Result → Process VerusWorkerResult}
    {result : StoreCall.claimNext.Result} {db : Db} {log : List Entry}
    (running : s.threads w = some thread) (next : thread.process = .call (.store .claimNext) k)
    (commits : Commits (StoreCall.claimNext.exec (options w) observedAt locked) s.db result db)
    (hfenced : Fenced options s (.store w observedAt locked)) :
    Fencing options
      { db
        threads := Function.update s.threads w
          (Thread.resume (k result) (thread.attempt.afterStore .claimNext result))
        log } := by
  rcases claimNext_spec commits with ⟨rfl, rfl⟩ | ⟨o, c, rfl, hid, hattempt, hcandidate, ho, hready,
    -, htypes, -, houtbox, -, hwork⟩
  · refine h.of_thread _ fun thread' c' hnew hclaim' => ?_
    rw [Thread.resume_eq_some hnew] at hclaim'
    cases hclaim'
  · have hothers := hfenced ⟨thread, k, running, next⟩ o hcandidate
    have hold : ∀ w' thread' c', w' ≠ w → s.threads w' = some thread' →
        thread'.attempt.claim = some c' →
        ∃ o', Slot db (options w').worker.workerReference thread'.attempt c' o' := by
      intro w' thread' c' hw hthread' hclaim'
      obtain ⟨o', hslot'⟩ := h.slot w' thread' c' hthread' hclaim'
      exact hslot'.of_claimed hsound.ids ho (isReady_state hready) houtbox hwork fun hsame hname =>
        hothers w' c' hw ⟨thread', hthread', hclaim'⟩ hname hsame
    -- The new attempt is later than every attempt on the event so far.
    have hlater : ∀ w' c', w' ≠ w → s.Holds w' c' → c'.id = c.id → c'.attempt ≠ c.attempt := by
      rintro w' c' - ⟨thread', hthread', hclaim'⟩ hsame heq
      obtain ⟨o', hslot'⟩ := h.slot w' thread' c' hthread' hclaim'
      have hoo' : o' = o := hsound.ids o' hslot'.mem o ho (by rw [hslot'.id, hsame, hid])
      have hle := hslot'.started
      rw [hoo'] at hle
      omega
    refine ⟨?_, ?_⟩
    · intro w' thread' c' hthread hclaim'
      rcases threads_update hthread with ⟨rfl, hnew⟩ | ⟨hw, hthread'⟩
      · have hphase := congrArg Thread.attempt (Thread.resume_eq_some hnew)
        rw [hphase] at hclaim' ⊢
        cases hclaim'
        refine ⟨claimedBy (options w').worker observedAt (options w').leaseDurationMs o, ?_,
          hid.symm, List.mem_singleton.1 (htypes _ rfl), hattempt.le, fun _ _ => hattempt.symm,
          fun _ => ⟨rfl, rfl⟩, fun hdead => by cases hdead⟩
        rw [houtbox, hsound.ids.mem_set_iff ho]
        exact Or.inl rfl
      · exact hold w' thread' c' hw hthread' hclaim'
    · rintro w₁ w₂ c₁ c₂ ⟨thread₁, hthread₁, hclaim₁⟩ ⟨thread₂, hthread₂, hclaim₂⟩ hsame heq
      rcases threads_update hthread₁ with ⟨rfl, hnew₁⟩ | ⟨hw₁, hold₁⟩
      · rcases threads_update hthread₂ with ⟨rfl, -⟩ | ⟨hw₂, hold₂⟩
        · rfl
        · rw [Thread.resume_eq_some hnew₁] at hclaim₁
          cases hclaim₁
          exact absurd heq.symm (hlater w₂ c₂ hw₂ ⟨thread₂, hold₂, hclaim₂⟩ hsame.symm)
      · rcases threads_update hthread₂ with ⟨rfl, hnew₂⟩ | ⟨hw₂, hold₂⟩
        · rw [Thread.resume_eq_some hnew₂] at hclaim₂
          cases hclaim₂
          exact absurd heq (hlater w₁ c₁ hw₁ ⟨thread₁, hold₁, hclaim₁⟩ hsame)
        · exact h.distinct w₁ w₂ c₁ c₂ ⟨thread₁, hold₁, hclaim₁⟩ ⟨thread₂, hold₂, hclaim₂⟩ hsame heq

theorem Fencing.step (h : Fencing options s) (hsound : Sound options s)
    (hfenced : Fenced options s act) (hstep : Step options s act s') : Fencing options s' := by
  cases hstep with
  | enqueued input context job db added =>
    refine h.of_slots fun w thread c hthread hclaim => ?_
    obtain ⟨o, hslot⟩ := h.slot w thread c hthread hclaim
    obtain ⟨new, -, -, -, -, houtbox⟩ := added.event
    obtain ⟨committeeId, jobId, now, hjobs⟩ := added.job
    refine ⟨⟨thread, hthread, hclaim⟩, o, ?_, hslot.id, hslot.eventType, hslot.started,
      hslot.current, ?_, hslot.dead⟩
    · show o ∈ db.outbox
      rw [houtbox]
      exact List.mem_append_left _ hslot.mem
    · intro hcount
      refine (hslot.owns hcount).congr ?_ added.committees
      intro row hrow _
      show row ∈ db.jobs
      rw [hjobs]
      exact List.mem_append_left _ hrow
  | unchanged => exact h
  | timestamp currentTimestamp =>
    refine h.of_slots fun w thread c hthread hclaim => ?_
    obtain ⟨o, hslot⟩ := h.slot w thread c hthread hclaim
    refine ⟨⟨thread, hthread, hclaim⟩, o, hslot.mem, hslot.id, hslot.eventType, hslot.started,
      hslot.current, ?_, hslot.dead⟩
    exact fun hcount => (hslot.owns hcount).congr (fun _ hrow _ => hrow) rfl
  | begun w idle =>
    refine h.of_thread s.log fun thread c hnew hclaim => ?_
    rw [Thread.resume_eq_some hnew] at hclaim
    cases hclaim
  | committed w observedAt locked thread call k result db running next commits =>
    by_cases hpoll : call = .claimNext
    · subst hpoll
      exact h.polled hsound running next commits hfenced
    · cases hevent : call.eventId with
      | some eventId => exact h.called hsound hevent running next commits
      | none =>
        cases call with
        | queueStats =>
          rw [queueStats_spec commits]
          refine h.of_thread _ fun thread' c hnew hclaim => ?_
          rw [Thread.resume_eq_some hnew] at hclaim ⊢
          exact ⟨⟨thread, running, hclaim⟩, h.slot w thread c running hclaim⟩
        | claimNext => exact absurd rfl hpoll
        | _ => cases hevent
  | rejected w => exact h.of_thread s.log fun thread c hnew => by cases hnew
  | sent w thread request k running next ready =>
    refine h.of_thread _ fun thread' c hnew hclaim => ?_
    rw [← Option.some.inj hnew] at hclaim ⊢
    exact ⟨⟨thread, running, hclaim⟩, h.slot w thread c running hclaim⟩
  | received w node thread request k running next waiting =>
    refine h.of_thread _ fun thread' c hnew hclaim => ?_
    rw [Thread.resume_eq_some hnew] at hclaim ⊢
    have hclaim₀ : thread.attempt.claim = some c := by
      cases hphase : thread.attempt with
      | _ =>
        rw [hphase] at hclaim
        exact hclaim
    obtain ⟨o, hslot⟩ := h.slot w thread c running hclaim₀
    refine ⟨⟨thread, running, hclaim₀⟩, o, hslot.mem, hslot.id, hslot.eventType, hslot.started,
      hslot.current, fun hcount => ?_, fun hdead => hslot.dead ?_⟩
    · have howns := hslot.owns hcount
      cases hphase : thread.attempt with
      | _ =>
        rw [hphase] at howns
        exact howns
    · cases hphase : thread.attempt with
      | working =>
        rw [hphase] at hdead
        cases hdead
      | _ =>
        rw [hphase] at hdead
        exact hdead
  | crashed w => exact h.of_thread s.log fun thread c hnew => by cases hnew

theorem fencing_of_reach {s₀ : System W} (hinit : s₀.Initial)
    (h : Reach (System.step options) (Fenced options) s₀ s) :
    Sound options s ∧ Fencing options s := by
  refine h.invariant (I := fun s => Sound options s ∧ Fencing options s)
    ⟨hinit.sound, hinit.fencing⟩ ?_
  rintro s act s' ⟨hsound, hfencing⟩ hfenced hstep
  exact ⟨hsound.step (step_inv hstep), hfencing.step hsound hfenced (step_inv hstep)⟩

/-- A call on an event is accepted only from the worker of the event's current attempt. -/
def CallsCurrent (options : W → VerusAnchorWorkerOptions) (s : System W) : Prop :=
  ∀ w thread call k eventId observedAt locked, s.threads w = some thread →
    thread.process = .call (.store call) k → call.eventId = some eventId →
    Accepted (call.exec (options w) observedAt locked) s.db →
    ∃ c, thread.attempt.claim = some c ∧ c.id = eventId ∧
      ∃ o ∈ s.db.outbox, o.id = eventId ∧ o.attemptCount = c.attempt

/-- Under the condition a call of an attempt is committed only while it is the current one. -/
theorem lease_fencing {s₀ : System W} (hinit : s₀.Initial)
    (h : Reach (System.step options) (Fenced options) s₀ s) : CallsCurrent options s := by
  obtain ⟨hsound, hfencing⟩ := fencing_of_reach hinit h
  rintro w thread call k eventId observedAt locked running next hevent ⟨result, db, hcommits⟩
  have hallows := hsound.allows running next
  obtain ⟨c, hclaim, hid⟩ := hallows.claim_eq hevent
  obtain ⟨o, hslot⟩ := hfencing.slot w thread c running hclaim
  obtain ⟨-, hcount⟩ := hslot.attemptCount_eq hsound.ids hsound.keys hclaim hallows hevent hcommits
  exact ⟨c, hclaim, hid.symm, o, hslot.mem, by rw [hslot.id, hid], hcount⟩

end Fencing

end System

/-! ## A sample -/

namespace WorkerSample

/-- A small manifest and its canonical text. -/
def manifest (name : String) : JsonObject := [("schema", .str name)]

def canonical (name : String) : String := "\x7b\"schema\":\"" ++ name ++ "\"\x7d"

/-- The host functions on the sample texts. -/
scoped instance host : Host where
  nfc s := s
  numberToString _ := ""
  jsonParse text := (["one", "two"].find? fun name => canonical name = text).map fun name =>
    .obj (manifest name)

def input (name : String) : EnqueueVerusAnchorInput :=
  { operationType := "schema_anchor"
    subjectReference := "subject_" ++ name
    targetIdentity := "iC7jT1JAJJZHrS4JnHRbgLn9qUQokMsedM"
    vdxfUri := "cbc-protocol-test.VRSCTEST::v1.anchor.schema"
    vdxfKey := "iQxTRgN4ZaYQcWAspPfsNS5YFHTEahLgEP"
    manifest := manifest name
    manifestCanonical := canonical name
    manifestDigest := sha256 (canonical name)
    manifestPolicyReference := "cbc.anchor.manifest.v1"
    manifestAllowedFields := ["schema"]
    manifestRequiredFields := ["schema"]
    manifestMaximumBytes := 2048
    confirmationRequirement := 1
    externalReference := "anchor_" ++ name
    committeeReference := none }

def context (name : String) : CommandContext :=
  { actor :=
      { type := "system", reference := "system_one", authenticationStrength := "internal" }
    committeeReference := "global_synthetic_scope"
    policyVersionReference := "cbc.anchor.manifest.v1"
    softwareVersion := "0.0.0"
    reasonCategory := "anchor"
    correlationId := "correlation"
    idempotencyKey := "key_" ++ name
    requestDigest := sha256 (canonical name) }

/-- Two workers over an empty database. -/
def start : System Bool := { db := .empty, threads := fun _ => none, log := [] }

theorem start_initial : start.Initial :=
  ⟨Table.unique_nil, fun _ ho => absurd ho List.not_mem_nil, rfl, rfl, fun _ => rfl, rfl⟩

/-- The options of `main.ts` in two processes. -/
def workers (pid : Bool → ℕ) : Bool → VerusAnchorWorkerOptions :=
  fun w => mainWorkerOptions (pid w) true

/-- Consecutive store calls of a worker at one time. -/
def calls (w : Bool) (observedAt : ℤ) (n : ℕ) : List (Act Bool) :=
  List.replicate n (.store w observedAt [])

/-- The first worker loads the job, its lease expires, and the second one takes the event over. -/
def takeOver : List (Act Bool) :=
  .enqueue (input "one") (context "one") :: .begin true :: calls true 0 4 ++
    .begin false :: calls false 60000 2

/-- The next call of the worker is accepted although its attempt is not the event's current one. -/
def staleCall [Host] (options : Bool → VerusAnchorWorkerOptions) (observedAt : ℤ) (w : Bool)
    (s : System Bool) : Bool :=
  match s.threads w with
  | some { process := .call (.store call) _, attempt := .working c _ _, .. } =>
    call.eventId = some c.id && (call.exec (options w) observedAt [] s.db).isOk &&
      s.db.outbox.all fun o => o.id ≠ c.id || o.attemptCount ≠ c.attempt
  | _ => false

theorem not_callsCurrent_of_staleCall [Host] {options : Bool → VerusAnchorWorkerOptions}
    {observedAt : ℤ} {w : Bool} {s : System Bool} (h : staleCall options observedAt w s = true) :
    ¬ s.CallsCurrent options := by
  unfold staleCall at h
  split at h
  · next call k inFlight c job answers hthread =>
    simp only [Bool.and_eq_true, decide_eq_true_eq, List.all_eq_true, Bool.or_eq_true] at h
    obtain ⟨⟨hevent, hok⟩, hstale⟩ := h
    intro hcurrent
    obtain ⟨c', hclaim, -, o, ho, hid, hcount⟩ :=
      hcurrent w _ call k c.id observedAt [] hthread rfl hevent (accepted_of_isOk hok)
    cases hclaim
    rcases hstale o ho with hne | hne
    · exact hne hid
    · exact hne hcount
  · cases h

/-- Processes of different identifiers have different names. -/
theorem workers_injective : Function.Injective fun w =>
    (workers (fun w => if w then 1 else 2) w).worker.workerReference := by
  decide

theorem lease_fencing_take_over : ∃ s,
    run (System.step (workers fun w => if w then 1 else 2)) start takeOver = some s ∧
      (s.db.outbox.map OutboxEvent.attemptCount = [2]) ∧
      s.CallsCurrent (workers fun w => if w then 1 else 2) := by
  obtain ⟨s, hrun, hcount⟩ := exists_run_of_any
    (System.step (workers fun w => if w then 1 else 2)) start takeOver
    (p := fun s => s.db.outbox.map OutboxEvent.attemptCount = [2]) (by decide +kernel)
  have hall : AllSteps (System.step (workers fun w => if w then 1 else 2)) (System.Fenced _) start
      takeOver :=
    allSteps_of_mem (fun act _ s => System.fenced_of_injective workers_injective s act) _
  exact ⟨s, hrun, of_decide_eq_true hcount,
    System.lease_fencing start_initial (reach_of_run hrun hall)⟩

/-- Two processes of one identifier: the transition that the first one issues in its attempt 1 is
accepted in attempt 2. -/
theorem stale_call_accepted : ∃ s,
    run (System.step (workers fun _ => 7)) start takeOver = some s ∧
      ¬ s.CallsCurrent (workers fun _ => 7) := by
  obtain ⟨s, hrun, hstale⟩ := exists_run_of_any (System.step (workers fun _ => 7))
    start takeOver (p := staleCall (workers fun _ => 7) 60001 true)
    (by decide +kernel)
  exact ⟨s, hrun, not_callsCurrent_of_staleCall hstale⟩

end WorkerSample

end ChecksAndBalances
