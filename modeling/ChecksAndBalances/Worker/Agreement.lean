import ChecksAndBalances.Worker.Attempts

/-!
# Events and jobs at rest

An event and its job are updated in separate transactions.  Under a lease they may disagree, since
the next claim finds the job where the last attempt left it.  The dead letter is the one transition
that releases the event before the job has followed.
-/

namespace ChecksAndBalances

open Lib Lib.Tx OutboxRepository

/-- The states of an event at rest and of its job agree. -/
def Agree (event : OutboxState) (job : VerusJobState) : Prop :=
  (event = .succeeded ↔ job = .verified) ∧
    ((event = .terminalFailed ∨ event = .deadLetter) ↔ job = .terminalFailed)

instance (event : OutboxState) (job : VerusJobState) : Decidable (Agree event job) :=
  inferInstanceAs (Decidable ((_ ↔ _) ∧ (_ ↔ _)))

/-- Every anchor event has its job, and agrees with it unless it is claimed. -/
def AgreeAtRest (db : Db) : Prop :=
  ∀ o ∈ db.outbox, o.eventType = verusAnchorEventType →
    ∃ row ∈ db.jobs, row.outboxEventId = o.id ∧ (o.state ≠ .claimed → Agree o.state row.state)

instance (db : Db) : Decidable (AgreeAtRest db) :=
  inferInstanceAs (Decidable (∀ o ∈ db.outbox, o.eventType = verusAnchorEventType →
    ∃ row ∈ db.jobs, row.outboxEventId = o.id ∧ (o.state ≠ .claimed → Agree o.state row.state)))

namespace System

variable {W : Type} [DecidableEq W] [Host] {options : W → VerusAnchorWorkerOptions}
  {s s' : System W} {act : Act W}

/-- No event is released as a dead letter: a worker that reports a retryable failure has attempts
left. -/
def Retries (options : W → VerusAnchorWorkerOptions) (s : System W) : Act W → Prop
  | .store w _ _ => ∀ thread eventId errorClass k, s.threads w = some thread →
      thread.process = .call (.store (.failRetryable eventId errorClass)) k →
      ∀ o ∈ s.db.outbox, o.id = eventId → exhausted (options w).retry o = false
  | _ => True

/-- The agreement, in a run without dead letters. -/
structure Agreed (s : System W) : Prop where
  rest : AgreeAtRest s.db
  alive : ∀ o ∈ s.db.outbox, o.eventType = verusAnchorEventType → o.state ≠ .deadLetter

omit [DecidableEq W] [Host] in
theorem Initial.agreed (h : s.Initial) : s.Agreed :=
  ⟨fun o ho htype => absurd htype (h.events o ho), fun o ho htype => absurd htype (h.events o ho)⟩

omit [DecidableEq W] in
/-- The job of the event that a worker calls for is as the worker knows it. -/
theorem Fencing.row_of_call (h : Fencing options s) (hsound : Sound options s) {w : W}
    {observedAt : ℤ} {locked : List Uuid} {thread : Thread} {call : StoreCall} {eventId : Uuid}
    {k : call.Result → Process VerusWorkerResult} {result : call.Result} {db : Db}
    {c : OutboxClaim} {job : VerusJobRecord} {answers : List Exchange}
    (hevent : call.eventId = some eventId) (running : s.threads w = some thread)
    (next : thread.process = .call (.store call) k)
    (commits : Commits (call.exec (options w) observedAt locked) s.db result db)
    (hworking : thread.attempt = .working c job answers) :
    ∃ row ∈ s.db.jobs, row.outboxEventId = eventId ∧
      VerusJobRepository.toRecord s.db row = .ok job := by
  have hallows := hsound.allows running next
  have hclaim : thread.attempt.claim = some c := by
    rw [hworking]
    rfl
  obtain ⟨o, hslot⟩ := h.slot w thread c running hclaim
  obtain ⟨heventId, hcount⟩ := hslot.attemptCount_eq hsound.ids hsound.keys hclaim hallows hevent
    commits
  have howns := hslot.owns hcount
  rw [hworking] at howns
  obtain ⟨-, -, row, hrow, hkey, hrecord⟩ := howns
  exact ⟨row, hrow, by rw [hkey, hslot.id, heventId], hrecord⟩

omit [DecidableEq W] in
/-- A worker releases an event only when it works on it, with the job in a fitting state. -/
theorem released_working (hsound : Sound options s) {w : W} {thread : Thread} {call : StoreCall}
    {k : call.Result → Process VerusWorkerResult} {o : OutboxEvent} {state : OutboxState}
    (running : s.threads w = some thread) (next : thread.process = .call (.store call) k)
    (hrelease : call.releasedState (options w) o = some state) (hdead : state ≠ .deadLetter) :
    ∃ c job answers, thread.attempt = .working c job answers ∧ Agree state job.state := by
  have hallows := hsound.allows running next
  cases hphase : thread.attempt with
  | working c job answers =>
    refine ⟨c, job, answers, rfl, ?_⟩
    rw [hphase] at hallows
    cases call with
    | succeed eventId =>
      cases hrelease
      have hstate : job.state = .verified := hallows.2.2
      rw [hstate]
      decide
    | failTerminal eventId errorClass =>
      cases hrelease
      have hstate : job.state = .terminalFailed := hallows.2.2
      rw [hstate]
      decide
    | failRetryable eventId errorClass =>
      have hstate : job.state = .retryableFailed ∨ job.state = .reorgPending := hallows.2.2
      simp only [StoreCall.releasedState, retryState, Option.some.injEq] at hrelease
      split_ifs at hrelease
      · exact absurd hrelease.symm hdead
      · rw [← hrelease]
        rcases hstate with hstate | hstate <;> rw [hstate] <;> decide
    | _ => cases hrelease
  | waiting =>
    rw [hphase] at hallows
    cases call with
    | queueStats => cases hrelease
    | claimNext => cases hrelease
    | _ => exact hallows.elim
  | claimed c =>
    rw [hphase] at hallows
    cases call with
    | queueStats => cases hrelease
    | job => cases hrelease
    | _ => exact hallows.elim
  | deadLettered c =>
    rw [hphase] at hallows
    cases call with
    | job => cases hrelease
    | _ => exact hallows.elim
  | released =>
    rw [hphase] at hallows
    exact hallows.elim

omit [DecidableEq W] in
/-- A store call keeps the agreement. -/
theorem Agreed.called (h : s.Agreed) (hsound : Sound options s) (hfencing : Fencing options s)
    {w : W} {observedAt : ℤ} {locked : List Uuid} {thread : Thread} {call : StoreCall}
    {k : call.Result → Process VerusWorkerResult} {result : call.Result} {db : Db}
    {threads : W → Option Thread} {log : List Entry} (running : s.threads w = some thread)
    (next : thread.process = .call (.store call) k)
    (commits : Commits (call.exec (options w) observedAt locked) s.db result db)
    (hretries : Retries options s (.store w observedAt locked)) :
    Agreed { db, threads, log : System W } := by
  have hmoves := StoreCall.moves hsound.ids hsound.keys commits
  by_cases hjob : ∃ eventId operation, call = .job eventId operation
  · -- The job of a claimed event changed, so no event at rest is concerned.
    obtain ⟨eventId, operation, rfl⟩ := hjob
    obtain ⟨row, new, hkey, hcommitted⟩ := JobOperation.exec_spec hsound.keys commits
    have houtbox := hcommitted.outbox
    refine ⟨?_, ?_⟩
    · intro o ho htype
      have ho : o ∈ s.db.outbox := houtbox ▸ ho
      obtain ⟨old, hold, holdKey, hagree⟩ := h.rest o ho htype
      by_cases hid : o.id = row.outboxEventId
      · refine ⟨new, hcommitted.changed.new_mem, hcommitted.changed.key.trans hid.symm, ?_⟩
        intro hrest
        exfalso
        by_cases hdead : ∃ errorClass, operation = .markDeadLetter errorClass
        · obtain ⟨errorClass, rfl⟩ := hdead
          obtain ⟨x, hx, hxid, hxdead⟩ := hcommitted.move.dead_event
          have hxo := hsound.ids x hx o ho (hxid.trans hid.symm)
          rw [hxo] at hxdead
          exact h.alive o ho htype hxdead
        · obtain ⟨x, hx, hxid, -, hheld⟩ := hcommitted.move.leased fun e he => hdead ⟨e, he⟩
          rw [hsound.ids x hx o ho (hxid.trans hid.symm)] at hheld
          exact hrest hheld.1
      · refine ⟨old, ?_, holdKey, hagree⟩
        exact (hcommitted.changed.jobs old).2 (Or.inr ⟨hold, by rw [holdKey]; exact hid⟩)
    · intro o ho
      exact h.alive o (houtbox ▸ ho)
  · have hwork := StoreCall.work_eq (fun e op he => hjob ⟨e, op, he⟩) commits
    have hjobs : db.jobs = s.db.jobs := congrArg Prod.fst hwork
    have hmoved : ∀ o' ∈ db.outbox, o'.eventType = verusAnchorEventType →
        (∃ row ∈ db.jobs, row.outboxEventId = o'.id ∧ (o'.state ≠ .claimed →
          Agree o'.state row.state)) ∧ o'.state ≠ .deadLetter := by
      intro o' ho' htype
      rw [hjobs]
      obtain ⟨o, ho, hmove⟩ := Table.exists_of_forall₂ hmoves.flip ho'
      cases hmove with
      | same => exact ⟨h.rest _ ho htype, h.alive _ ho htype⟩
      | claimed =>
        obtain ⟨row, hrow, hkey, -⟩ := h.rest o ho htype
        exact ⟨⟨row, hrow, hkey, fun hrest => absurd rfl hrest⟩, fun hdead => by cases hdead⟩
      | extended event claimed expiresAt =>
        obtain ⟨row, hrow, hkey, hagree⟩ := h.rest o ho htype
        exact ⟨⟨row, hrow, hkey, hagree⟩, h.alive o ho htype⟩
      | released f state event release held releases =>
        have hdead : state ≠ .deadLetter := by
          rintro rfl
          cases call with
          | failRetryable eventId errorClass =>
            have hleft := hretries thread eventId errorClass k running next o ho
              (Option.some.inj event).symm
            simp only [StoreCall.releasedState, retryState, hleft, Option.some.injEq] at release
            cases release
          | succeed => cases release
          | failTerminal => cases release
          | _ => cases release
        obtain ⟨c, job, answers, hworking, hagree⟩ := released_working hsound running next release
          hdead
        obtain ⟨row, hrow, hkey, hrecord⟩ := hfencing.row_of_call hsound event running next commits
          hworking
        rw [releases.state_eq o]
        refine ⟨⟨row, hrow, hkey.trans (releases.id_eq o).symm, fun _ => ?_⟩, hdead⟩
        rw [← (toRecord_eq hrecord).2.2.1]
        exact hagree
    exact ⟨fun o ho htype => (hmoved o ho htype).1, fun o ho htype => (hmoved o ho htype).2⟩

theorem Agreed.step (h : s.Agreed) (hsound : Sound options s) (hfencing : Fencing options s)
    (hretries : Retries options s act) (hstep : Step options s act s') : s'.Agreed := by
  cases hstep with
  | enqueued input context job db added =>
    obtain ⟨new, hid, hpending, -, -, houtbox⟩ := added.event
    obtain ⟨committeeId, jobId, now, hjobs⟩ := added.job
    refine ⟨?_, ?_⟩
    · intro o ho htype
      have ho : o ∈ s.db.outbox ∨ o = new := by
        rw [← List.mem_singleton, ← List.mem_append, ← houtbox]
        exact ho
      show ∃ row ∈ db.jobs, _
      rw [hjobs]
      rcases ho with ho | rfl
      · obtain ⟨row, hrow, hkey, hagree⟩ := h.rest o ho htype
        exact ⟨row, List.mem_append_left _ hrow, hkey, hagree⟩
      · refine ⟨_, List.mem_append_right _ (List.mem_singleton.2 rfl), hid.symm, fun _ => ?_⟩
        rw [hpending]
        show Agree .pending .pending
        decide
    · intro o ho htype
      have ho : o ∈ s.db.outbox ∨ o = new := by
        rw [← List.mem_singleton, ← List.mem_append, ← houtbox]
        exact ho
      rcases ho with ho | rfl
      · exact h.alive o ho htype
      · rw [hpending]
        decide
  | committed w observedAt locked thread call k result db running next commits =>
    exact h.called hsound hfencing running next commits hretries
  | unchanged => exact h
  | timestamp => exact ⟨h.rest, h.alive⟩
  | begun => exact ⟨h.rest, h.alive⟩
  | rejected => exact ⟨h.rest, h.alive⟩
  | sent => exact ⟨h.rest, h.alive⟩
  | received => exact ⟨h.rest, h.alive⟩
  | crashed => exact ⟨h.rest, h.alive⟩

/-- Under the condition an event and its job agree at rest. -/
theorem agreement_at_rest {s₀ : System W} (hinit : s₀.Initial)
    (h : Reach (System.step options)
      (fun s act => Fenced options s act ∧ Retries options s act) s₀ s) : AgreeAtRest s.db := by
  have hinv : (Sound options s ∧ Fencing options s) ∧ s.Agreed := by
    refine h.invariant (I := fun s => (Sound options s ∧ Fencing options s) ∧ s.Agreed)
      ⟨⟨hinit.sound, hinit.fencing⟩, hinit.agreed⟩ ?_
    rintro s act s' ⟨⟨hsound, hfencing⟩, hagreed⟩ ⟨hfenced, hretries⟩ hstep
    have hstep' := step_inv hstep
    exact ⟨⟨hsound.step hstep', hfencing.step hsound hfenced hstep'⟩,
      hagreed.step hsound hfencing hretries hstep'⟩
  exact hinv.2.rest

end System

namespace WorkerSample

/-- A node that cannot be reached. -/
def unavailable (request : Rpc) : request.Result :=
  .error { code := .rpcUnavailable, message := "Verus RPC is unavailable", retryable := true }

/-- An attempt that fails at its first request, until the event is released. -/
def failedAttempt (w : Bool) (observedAt : ℤ) : List (Act Bool) :=
  .begin w :: calls w observedAt 7 ++ [.send w, .receive w unavailable] ++ calls w observedAt 2

theorem retries_of_hasAttempts {pid : Bool → ℕ} (s : System Bool) (act : Act Bool)
    (h : hasAttempts 8 s act = true) : System.Retries (workers pid) s act := by
  cases act with
  | store w observedAt locked =>
    intro thread eventId errorClass k _ _ o ho _
    have hlt := List.all_eq_true.1 h o ho
    simp only [decide_eq_true_eq] at hlt
    refine decide_eq_false ?_
    show ¬ (8 : ℤ) ≤ o.attemptCount
    omega
  | _ => trivial

theorem agreement_at_rest_after_failure : ∃ s,
    run (System.step (workers fun w => if w then 1 else 2)) start
      (.enqueue (input "one") (context "one") :: failedAttempt true 0) = some s ∧
      s.db.outbox.map OutboxEvent.state = [.retryableFailed] ∧ AgreeAtRest s.db := by
  have htest : ((checkedRun (System.step (workers fun w => if w then 1 else 2)) (hasAttempts 8) start
      (.enqueue (input "one") (context "one") :: failedAttempt true 0)).any fun s =>
        s.db.outbox.map OutboxEvent.state = [.retryableFailed]) = true := by
    decide +kernel
  obtain ⟨s, hrun, hstate⟩ := (Option.any_eq_true _ _).1 htest
  have hreach := reach_of_checkedRun (C := fun s act =>
      System.Fenced (workers fun w => if w then 1 else 2) s act ∧
        System.Retries (workers fun w => if w then 1 else 2) s act)
    (fun s act h => ⟨System.fenced_of_injective workers_injective s act,
      retries_of_hasAttempts s act h⟩) hrun
  exact ⟨s, run_of_checkedRun hrun, of_decide_eq_true hstate,
    System.agreement_at_rest start_initial hreach⟩

/-- The eighth attempt fails retryably, and the worker crashes after it released the event as a dead
letter: the job stays retryable. -/
theorem dead_letter_disagrees : ∃ s,
    run (System.step (workers fun w => if w then 1 else 2)) start
      (crashes 7 ++ failedAttempt true 420000 ++ [.crash true]) = some s ∧ ¬ AgreeAtRest s.db := by
  obtain ⟨s, hrun, hdisagree⟩ := exists_run_of_any
    (System.step (workers fun w => if w then 1 else 2)) start
    (crashes 7 ++ failedAttempt true 420000 ++ [.crash true])
    (p := fun s => ¬ AgreeAtRest s.db) (by decide +kernel)
  exact ⟨s, hrun, of_decide_eq_true hdisagree⟩

end WorkerSample

end ChecksAndBalances
