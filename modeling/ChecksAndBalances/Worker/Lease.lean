import ChecksAndBalances.Outbox.SingleWriter
import ChecksAndBalances.Worker.Steps

/-!
# Leases and attempts

The stores check the name of a worker and the expiry of its lease, never the number of the attempt.
So a worker of an old attempt is fenced off as long as no other worker of the same name takes its
event over while it is still inside the attempt.
-/

namespace ChecksAndBalances

open Lib Lib.Tx OutboxRepository

/-! ## Store calls -/

/-- The event that a call works on. -/
def StoreCall.eventId : StoreCall → Option Uuid
  | queueStats => none
  | claimNext => none
  | heartbeat eventId => some eventId
  | succeed eventId => some eventId
  | failRetryable eventId _ => some eventId
  | failTerminal eventId _ => some eventId
  | job eventId _ => some eventId

/-- What a call on the event `eventId` leaves of a row: its number of attempts and its type, a lease
only where there was one, and every other event. -/
structure OutboxEvent.Kept (eventId : Uuid) (o o' : OutboxEvent) : Prop where
  id : o'.id = o.id
  attemptCount : o'.attemptCount = o.attemptCount
  eventType : o'.eventType = o.eventType
  lease : o'.state = .claimed → o.state = .claimed ∧ o'.leaseOwner = o.leaseOwner
  rest : o.state ≠ .claimed → o' = o
  other : o.id ≠ eventId → o' = o

theorem OutboxEvent.Kept.refl (eventId : Uuid) (o : OutboxEvent) : o.Kept eventId o :=
  ⟨rfl, rfl, rfl, fun h => ⟨h, rfl⟩, fun _ => rfl, fun _ => rfl⟩

variable {options : VerusAnchorWorkerOptions} {observedAt : ℤ} {locked : List Uuid} {db db' : Db}

theorem queueStats_spec {eventTypes : Option (List String)} {stats : OutboxQueueStats}
    (h : Commits (OutboxRepository.queueStats observedAt eventTypes) db stats db') : db' = db := by
  simp only [OutboxRepository.queueStats, OutboxRepository.validateEventTypes, bind_assoc,
    commits_require_bind, pure_bind, commits_get_bind, commits_pure] at h
  exact h.2.2

/-- The state that a call releases the event in. -/
def StoreCall.releasedState (options : VerusAnchorWorkerOptions) (o : OutboxEvent) :
    StoreCall → Option OutboxState
  | succeed _ => some .succeeded
  | failRetryable _ _ => some (retryState options.retry o)
  | failTerminal _ _ => some .terminalFailed
  | _ => none

/-- What a committed call does to a row of the outbox. -/
inductive EventMove (options : VerusAnchorWorkerOptions) (observedAt : ℤ) (locked : List Uuid)
    (db : Db) (call : StoreCall) (o : OutboxEvent) : OutboxEvent → Prop
  | same : EventMove options observedAt locked db call o o
  | claimed (poll : call = .claimNext)
      (selected : candidate db.outbox observedAt (some [verusAnchorEventType]) true locked = some o) :
      EventMove options observedAt locked db call o
        (claimedBy options.worker observedAt options.leaseDurationMs o)
  | extended (event : call = .heartbeat o.id) (claimed : o.state = .claimed) (expiresAt : ℤ) :
      EventMove options observedAt locked db call o { o with leaseExpiresAt := some expiresAt }
  | released (f : OutboxEvent → OutboxEvent) (state : OutboxState)
      (event : call.eventId = some o.id) (release : call.releasedState options o = some state)
      (held : o.Held options.worker.workerReference observedAt) (releases : Releases f state) :
      EventMove options observedAt locked db call o (f o)

theorem GivesUp.moves {call : StoreCall} {eventId : Uuid} {state : OutboxState}
    (hids : Table.Unique OutboxEvent.id db.outbox) (hevent : call.eventId = some eventId)
    (h : GivesUp options.worker.workerReference observedAt eventId state db db')
    (hrelease : ∀ o ∈ db.outbox, o.id = eventId → call.releasedState options o = some state) :
    List.Forall₂ (EventMove options observedAt locked db call) db.outbox db'.outbox := by
  obtain ⟨o, ho, f, rfl, hheld, hf, houtbox, -⟩ := h
  rw [houtbox]
  exact hids.forall₂_set ho (.released f state hevent (hrelease o ho rfl) hheld hf) fun _ => .same

/-- A committed call moves the rows of the outbox. -/
theorem StoreCall.moves {call : StoreCall} {result : call.Result}
    (hids : Table.Unique OutboxEvent.id db.outbox) (hkeys : UniqueJobs db)
    (h : Commits (call.exec options observedAt locked) db result db') :
    List.Forall₂ (EventMove options observedAt locked db call) db.outbox db'.outbox := by
  have hsame : List.Forall₂ (EventMove options observedAt locked db call) db.outbox db.outbox :=
    List.forall₂_same.2 fun _ _ => .same
  cases call with
  | queueStats =>
    rw [queueStats_spec h]
    exact hsame
  | claimNext =>
    rcases claimNext_spec h with ⟨-, rfl⟩ | ⟨o, c, -, -, -, hcandidate, ho, -, -, -, -, houtbox, -⟩
    · exact hsame
    · rw [houtbox]
      exact hids.forall₂_set ho (.claimed rfl hcandidate) fun _ => .same
  | heartbeat eventId =>
    obtain ⟨o, ho, rfl, hheld, -, houtbox, -⟩ := heartbeat_spec h
    rw [houtbox]
    exact hids.forall₂_set ho (.extended rfl hheld.1 _) fun _ => .same
  | succeed eventId => exact GivesUp.moves hids rfl (succeed_spec h) fun _ _ _ => rfl
  | failRetryable eventId errorClass =>
    obtain ⟨⟨o, ho, hid, rfl⟩, hgives⟩ := failRetryable_spec h
    refine GivesUp.moves hids rfl hgives fun x hx hkey => ?_
    rw [hids x hx o ho (hkey.trans hid.symm)]
    rfl
  | failTerminal eventId errorClass => exact GivesUp.moves hids rfl (failTerminal_spec h) fun _ _ _ => rfl
  | job eventId operation =>
    obtain ⟨row, new, -, hcommitted⟩ := JobOperation.exec_spec hkeys h
    rw [hcommitted.outbox]
    exact hsame

/-- A call on an event keeps the rows of the outbox. -/
theorem EventMove.kept {call : StoreCall} {eventId : Uuid} {o o' : OutboxEvent}
    (hevent : call.eventId = some eventId)
    (h : EventMove options observedAt locked db call o o') : o.Kept eventId o' := by
  cases h with
  | same => exact .refl eventId o
  | claimed poll =>
    rw [poll] at hevent
    cases hevent
  | extended event claimed expiresAt =>
    rw [event] at hevent
    cases hevent
    exact ⟨rfl, rfl, rfl, fun _ => ⟨claimed, rfl⟩, fun hne => absurd claimed hne,
      fun hne => absurd rfl hne⟩
  | released f state event release held releases =>
    rw [event] at hevent
    cases hevent
    refine ⟨releases.id_eq o, releases.attemptCount o, (releases.aggregate o).1, ?_,
      fun hne => absurd held.1 hne, fun hne => absurd rfl hne⟩
    intro hclaimed
    rw [releases.state_eq o] at hclaimed
    exact absurd hclaimed releases.notClaimed

/-- Every store call but an operation on a job leaves the jobs. -/
theorem StoreCall.work_eq {call : StoreCall} {result : call.Result}
    (hjob : ∀ eventId operation, call ≠ .job eventId operation)
    (h : Commits (call.exec options observedAt locked) db result db') : db'.work = db.work := by
  cases call with
  | queueStats => rw [queueStats_spec h]
  | claimNext =>
    rcases claimNext_spec h with ⟨-, hsame⟩ | ⟨_, _, -, -, -, -, -, -, -, -, -, -, -, hwork⟩
    · rw [hsame]
    · exact hwork
  | heartbeat eventId =>
    obtain ⟨_, -, -, -, -, -, -, hwork⟩ := heartbeat_spec h
    exact hwork
  | succeed eventId =>
    obtain ⟨_, -, _, -, -, -, -, -, hwork⟩ := succeed_spec h
    exact hwork
  | failRetryable eventId errorClass =>
    obtain ⟨-, _, -, _, -, -, -, -, -, hwork⟩ := failRetryable_spec h
    exact hwork
  | failTerminal eventId errorClass =>
    obtain ⟨_, -, _, -, -, -, -, -, hwork⟩ := failTerminal_spec h
    exact hwork
  | job eventId operation => exact absurd rfl (hjob eventId operation)

/-- A call on an event needs its lease, the dead letter apart. -/
theorem StoreCall.held {call : StoreCall} {result : call.Result} {eventId : Uuid}
    (hevent : call.eventId = some eventId)
    (hdead : ∀ errorClass, call ≠ .job eventId (.markDeadLetter errorClass))
    (hkeys : UniqueJobs db) (h : Commits (call.exec options observedAt locked) db result db') :
    ∃ o ∈ db.outbox, o.id = eventId ∧ o.Held options.worker.workerReference observedAt := by
  cases call with
  | queueStats => cases hevent
  | claimNext => cases hevent
  | heartbeat =>
    cases hevent
    obtain ⟨o, ho, hid, hheld, -⟩ := heartbeat_spec h
    exact ⟨o, ho, hid, hheld⟩
  | succeed =>
    cases hevent
    obtain ⟨o, ho, f, hid, hheld, -⟩ := succeed_spec h
    exact ⟨o, ho, hid, hheld⟩
  | failRetryable =>
    cases hevent
    obtain ⟨-, o, ho, f, hid, hheld, -⟩ := failRetryable_spec h
    exact ⟨o, ho, hid, hheld⟩
  | failTerminal =>
    cases hevent
    obtain ⟨o, ho, f, hid, hheld, -⟩ := failTerminal_spec h
    exact ⟨o, ho, hid, hheld⟩
  | job _ operation =>
    cases hevent
    obtain ⟨row, new, hkey, hcommitted⟩ := JobOperation.exec_spec hkeys h
    obtain ⟨o, ho, hid, -, hheld⟩ := hcommitted.move.leased fun errorClass herror =>
      hdead errorClass (by rw [herror])
    exact ⟨o, ho, hid.trans hkey, hheld⟩

/-- The record that an operation returns is in the state it moved the job to. -/
theorem JobCommitted.admits {worker : String} {operation : JobOperation} {row new : VerusJobRow}
    {job : VerusJobRecord} (h : JobCommitted worker observedAt operation db db' row new job) :
    operation.Admits job := by
  intro state hstate
  rw [(toRecord_eq h.record).2.2.1]
  exact h.move.state_eq hstate

/-- Every answer of the stores is one that the protocol admits. -/
theorem StoreCall.admits {call : StoreCall} {result : call.Result} (hkeys : UniqueJobs db)
    (h : Commits (call.exec options observedAt locked) db result db') :
    (Call.store call).Admits result := by
  cases call with
  | job eventId operation =>
    obtain ⟨row, new, -, hcommitted⟩ := JobOperation.exec_spec hkeys h
    exact hcommitted.admits
  | _ => trivial

theorem StoreCall.effect {call : StoreCall} {result : call.Result} (hkeys : UniqueJobs db)
    (h : Commits (call.exec options observedAt locked) db result db') :
    OutboxEffect options.worker observedAt true db.outbox db'.outbox := by
  cases call with
  | queueStats =>
    rw [queueStats_spec h]
    exact .unchanged _
  | claimNext =>
    rcases claimNext_spec h with ⟨-, hsame⟩ | ⟨o, c, -, -, -, -, hmem, hready, hpositive, -, halone,
      houtbox, -⟩
    · rw [hsame]
      exact .unchanged _
    · rw [houtbox]
      exact .claimed _ _ _ hmem hready hpositive halone
  | heartbeat eventId =>
    obtain ⟨o, ho, rfl, hheld, hpositive, houtbox, -⟩ := heartbeat_spec h
    rw [houtbox]
    exact .extended _ _ _ ho hheld hpositive
  | succeed eventId => exact (succeed_spec h).effect
  | failRetryable eventId errorClass => exact (failRetryable_spec h).2.effect
  | failTerminal eventId errorClass => exact (failTerminal_spec h).effect
  | job eventId operation =>
    obtain ⟨row, new, -, hcommitted⟩ := JobOperation.exec_spec hkeys h
    rw [hcommitted.outbox]
    exact .unchanged _

theorem StoreCall.uniqueJobs {call : StoreCall} {result : call.Result} (hkeys : UniqueJobs db)
    (h : Commits (call.exec options observedAt locked) db result db') : UniqueJobs db' := by
  by_cases hjob : ∃ eventId operation, call = .job eventId operation
  · obtain ⟨eventId, operation, rfl⟩ := hjob
    obtain ⟨row, new, -, hcommitted⟩ := JobOperation.exec_spec hkeys h
    exact hcommitted.changed.unique
  · have hwork := StoreCall.work_eq (fun e o he => hjob ⟨e, o, he⟩) h
    have hjobs : db'.jobs = db.jobs := congrArg Prod.fst hwork
    rw [UniqueJobs, hjobs]
    exact hkeys

/-- A call on an event leaves the jobs of the others. -/
theorem StoreCall.row_kept {call : StoreCall} {result : call.Result} {eventId : Uuid}
    (hevent : call.eventId = some eventId) (hkeys : UniqueJobs db)
    (h : Commits (call.exec options observedAt locked) db result db') {row : VerusJobRow}
    (hrow : row ∈ db.jobs) (hne : row.outboxEventId ≠ eventId) : row ∈ db'.jobs := by
  by_cases hjob : ∃ eventId operation, call = .job eventId operation
  · obtain ⟨_, operation, rfl⟩ := hjob
    cases hevent
    obtain ⟨old, new, hkey, hcommitted⟩ := JobOperation.exec_spec hkeys h
    refine (hcommitted.changed.jobs row).2 (Or.inr ⟨hrow, ?_⟩)
    rw [hkey]
    exact hne
  · have hwork := StoreCall.work_eq (fun e o he => hjob ⟨e, o, he⟩) h
    have hjobs : db'.jobs = db.jobs := congrArg Prod.fst hwork
    rw [hjobs]
    exact hrow

theorem StoreCall.committees_eq {call : StoreCall} {result : call.Result} (hkeys : UniqueJobs db)
    (h : Commits (call.exec options observedAt locked) db result db') :
    db'.committees = db.committees := by
  by_cases hjob : ∃ eventId operation, call = .job eventId operation
  · obtain ⟨eventId, operation, rfl⟩ := hjob
    obtain ⟨row, new, -, hcommitted⟩ := JobOperation.exec_spec hkeys h
    exact hcommitted.committees
  · have hwork := StoreCall.work_eq (fun e o he => hjob ⟨e, o, he⟩) h
    exact congrArg (fun work => work.2.2) hwork

/-! ## Every run -/

/-- The protocol lets an attempt call for the event of its claim only. -/
theorem Attempt.Allows.claim_eq [Host] {attempt : Attempt} {call : StoreCall}
    {eventId : Uuid} (h : attempt.Allows options (.store call)) (hevent : call.eventId = some eventId) :
    ∃ c, attempt.claim = some c ∧ eventId = c.id := by
  cases attempt with
  | waiting =>
    cases call with
    | queueStats => cases hevent
    | claimNext => cases hevent
    | _ => exact h.elim
  | released => exact h.elim
  | claimed claim =>
    refine ⟨claim, rfl, ?_⟩
    cases call with
    | job _ operation =>
      cases hevent
      cases operation with
      | loadForClaim => exact h
      | _ => exact h.elim
    | queueStats => cases hevent
    | _ => exact h.elim
  | deadLettered claim =>
    refine ⟨claim, rfl, ?_⟩
    cases call with
    | job _ operation =>
      cases hevent
      cases operation with
      | markDeadLetter => exact h
      | _ => exact h.elim
    | _ => exact h.elim
  | working claim job answers =>
    refine ⟨claim, rfl, ?_⟩
    cases call with
    | queueStats => cases hevent
    | claimNext => cases hevent
    | _ =>
      cases hevent
      exact h.1

/-- Only a poll gives an attempt its claim. -/
theorem Attempt.claim_afterStore {attempt : Attempt} {call : StoreCall} {result : call.Result}
    {c : OutboxClaim} (hpoll : call ≠ .claimNext)
    (h : (attempt.afterStore call result).claim = some c) : attempt.claim = some c := by
  cases call with
  | claimNext => exact absurd rfl hpoll
  | queueStats => exact h
  | heartbeat => exact h
  | succeed => cases h
  | failTerminal => cases h
  | failRetryable eventId errorClass =>
    simp only [afterStore, afterFailure] at h
    split at h
    · next claim hclaim => exact hclaim.trans h
    · cases h
  | job eventId operation =>
    cases operation with
    | markDeadLetter => cases h
    | _ =>
      simp only [afterStore, withJob] at h
      split at h
      · next claim hclaim => exact hclaim.trans h
      · exact h

namespace System

section Sound

variable {W : Type} [DecidableEq W] [Host] {options : W → VerusAnchorWorkerOptions}
  {s s' : System W} {act : Act W}

/-- What holds in every run: the keys of the tables tell their rows apart, and the workers follow the
protocol. -/
structure Sound (options : W → VerusAnchorWorkerOptions) (s : System W) : Prop where
  ids : Table.Unique OutboxEvent.id s.db.outbox
  keys : UniqueJobs s.db
  follows : ∀ w thread, s.threads w = some thread →
    Follows (protocol (options w)) thread.attempt thread.process fun _ _ => True

omit [DecidableEq W] in
theorem Initial.sound (h : s.Initial) : Sound options s := by
  refine ⟨h.ids, ?_, ?_⟩
  · rw [UniqueJobs, h.jobs]
    exact Table.unique_nil
  · intro w thread hthread
    rw [h.threads w] at hthread
    cases hthread

/-- A thread that goes on follows the protocol, as the others do. -/
theorem Sound.follows_update (h : Sound options s) {w : W} {process : Process VerusWorkerResult}
    {attempt : Attempt} (hfollows : Follows (protocol (options w)) attempt process fun _ _ => True)
    {w' : W} {thread : Thread}
    (hthread : Function.update s.threads w (Thread.resume process attempt) w' = some thread) :
    Follows (protocol (options w')) thread.attempt thread.process fun _ _ => True := by
  rcases threads_update hthread with ⟨rfl, hnew⟩ | ⟨-, hold⟩
  · rw [Thread.resume_eq_some hnew]
    exact hfollows
  · exact h.follows w' thread hold

theorem Sound.step (h : Sound options s) (hstep : Step options s act s') : Sound options s' := by
  cases hstep with
  | enqueued input context job db added =>
    refine ⟨?_, ?_, h.follows⟩
    · obtain ⟨new, hid, -, -, -, houtbox⟩ := added.event
      show Table.Unique OutboxEvent.id db.outbox
      rw [houtbox]
      refine h.ids.append fun o ho => ?_
      rw [hid]
      exact added.fresh o ho
    · obtain ⟨committeeId, jobId, now, hjobs⟩ := added.job
      show UniqueJobs db
      rw [UniqueJobs, hjobs]
      exact Table.Unique.append h.keys added.freshJob
  | unchanged => exact h
  | timestamp => exact ⟨h.ids, h.keys, h.follows⟩
  | begun w idle =>
    exact ⟨h.ids, h.keys, fun w' thread hthread =>
      h.follows_update (follows_processNext (options w)) hthread⟩
  | committed w observedAt locked thread call k result db running next commits =>
    have hfollows := h.follows w thread running
    rw [next] at hfollows
    exact ⟨unique_of_effect h.ids (StoreCall.effect h.keys commits),
      StoreCall.uniqueJobs h.keys commits, fun w' thread' hthread =>
      h.follows_update (hfollows.2 result (StoreCall.admits h.keys commits)) hthread⟩
  | rejected w =>
    refine ⟨h.ids, h.keys, fun w' thread' hthread => ?_⟩
    rcases threads_update hthread with ⟨-, hnone⟩ | ⟨-, hold⟩
    · cases hnone
    · exact h.follows w' thread' hold
  | sent w thread request k running next ready =>
    refine ⟨h.ids, h.keys, fun w' thread' hthread => ?_⟩
    rcases threads_update hthread with ⟨rfl, hnew⟩ | ⟨-, hold⟩
    · rw [← Option.some.inj hnew]
      exact h.follows w' thread running
    · exact h.follows w' thread' hold
  | received w node thread request k running next waiting =>
    have hfollows := h.follows w thread running
    rw [next] at hfollows
    exact ⟨h.ids, h.keys, fun w' thread' hthread =>
      h.follows_update (hfollows.2 (node request) trivial) hthread⟩
  | crashed w =>
    refine ⟨h.ids, h.keys, fun w' thread' hthread => ?_⟩
    rcases threads_update hthread with ⟨-, hnone⟩ | ⟨-, hold⟩
    · cases hnone
    · exact h.follows w' thread' hold

omit [DecidableEq W] in
/-- The next call of a running thread is one that the protocol allows. -/
theorem Sound.allows (h : Sound options s) {w : W} {thread : Thread} {call : Call}
    {k : call.Answer → Process VerusWorkerResult} (running : s.threads w = some thread)
    (next : thread.process = .call call k) : thread.attempt.Allows (options w) call := by
  have hfollows := h.follows w thread running
  rw [next] at hfollows
  exact hfollows.1

end Sound

end System

end ChecksAndBalances
