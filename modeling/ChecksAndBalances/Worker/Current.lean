import ChecksAndBalances.Worker.Attempts
import ChecksAndBalances.Worker.History

/-!
# Current attempts

An attempt is current until its event is taken again.  Only a current attempt gets through to the
job, and it knows the job as it is stored.  So what is said of every job, and of every current
attempt on it, is kept along a run when each thing that can happen to one job keeps it
(`Tracked.step`).
-/

namespace ChecksAndBalances

open Lib Lib.Tx OutboxRepository VerusJobRepository

/-- What the node answered since the attempt has its record. -/
def Attempt.answers : Attempt → List Exchange
  | working _ _ answers => answers
  | _ => []

/-- An attempt with this record and these answers makes the operation; the load and the dead letter
come before any answer. -/
def JobOperation.Due [Host] (job : VerusJobRecord) (answers : List Exchange) : JobOperation → Prop
  | loadForClaim => answers = []
  | markDeadLetter _ => answers = []
  | operation => operation.Allowed job answers

namespace System

variable {W : Type} [DecidableEq W] [Host] {options : W → VerusAnchorWorkerOptions}
  {s s' : System W} {act : Act W}

/-! ## The current attempt of an event -/

/-- The attempt under the claim is the current one of its event. -/
def Current (s : System W) (c : OutboxClaim) : Prop :=
  ∃ o ∈ s.db.outbox, o.id = c.id ∧ o.attemptCount = c.attempt

omit [DecidableEq W] [Host] in
/-- A current attempt that works knows the job as it is stored. -/
theorem Fencing.record_of_current (h : Fencing options s)
    (hids : Table.Unique OutboxEvent.id s.db.outbox) {w : W} {thread : Thread} {c : OutboxClaim}
    {job : VerusJobRecord} {answers : List Exchange} (running : s.threads w = some thread)
    (hphase : thread.attempt = .working c job answers) (hcurrent : s.Current c) :
    ∃ row ∈ s.db.jobs, row.outboxEventId = c.id ∧ toRecord s.db row = .ok job := by
  obtain ⟨o, hslot⟩ := h.slot w thread c running (by rw [hphase]; rfl)
  obtain ⟨x, hx, hid, hcount⟩ := hcurrent
  rw [hids x hx o hslot.mem (hid.trans hslot.id.symm)] at hcount
  have howns := hslot.owns hcount
  rw [hphase] at howns
  obtain ⟨-, -, row, hrow, hkey, hrecord⟩ := howns
  exact ⟨row, hrow, hkey.trans hslot.id, hrecord⟩

omit [DecidableEq W] [Host] in
/-- Only one worker is inside the current attempt of an event. -/
theorem Fencing.current_unique (h : Fencing options s)
    (hids : Table.Unique OutboxEvent.id s.db.outbox) {w w' : W} {c c' : OutboxClaim}
    (hholds : s.Holds w c) (hholds' : s.Holds w' c') (hid : c.id = c'.id) (hcurrent : s.Current c)
    (hcurrent' : s.Current c') : w = w' := by
  obtain ⟨o, ho, hoid, hcount⟩ := hcurrent
  obtain ⟨o', ho', hoid', hcount'⟩ := hcurrent'
  have hoo' : o = o' := hids o ho o' ho' (by rw [hoid, hoid', hid])
  refine h.distinct w w' c c' hholds hholds' hid ?_
  rw [← hcount, ← hcount', hoo']

/-- An attempt that is current after a step was current before it. -/
theorem Current.before (hfencing : Fencing options s) (hsound : Sound options s)
    (hstep : Step options s act s') {w : W} {c : OutboxClaim} (hholds : s.Holds w c)
    (h : s'.Current c) : s.Current c := by
  obtain ⟨thread, running, hclaim⟩ := hholds
  obtain ⟨o, hslot⟩ := hfencing.slot w thread c running hclaim
  obtain ⟨o', ho', hid, -, hle⟩ := (hstep.event hsound).attemptCount_le hslot.mem
  obtain ⟨x, hx, hxid, hcount⟩ := h
  have hxo' : x = o' := (hsound.step hstep).ids x hx o' ho' (by rw [hxid, hid, hslot.id])
  refine ⟨o, hslot.mem, hslot.id, ?_⟩
  have hstarted := hslot.started
  rw [← hxo', hcount] at hle
  omega

omit [DecidableEq W] in
/-- A call on an event is committed only in the current attempt. -/
theorem Fencing.current_of_commits (h : Fencing options s) (hsound : Sound options s) {w : W}
    {observedAt : ℤ} {locked : List Uuid} {thread : Thread} {call : StoreCall} {eventId : Uuid}
    {k : call.Result → Process VerusWorkerResult} {result : call.Result} {db : Db}
    (hevent : call.eventId = some eventId) (running : s.threads w = some thread)
    (next : thread.process = .call (.store call) k)
    (commits : Commits (call.exec (options w) observedAt locked) s.db result db) :
    ∃ c, thread.attempt.claim = some c ∧ c.id = eventId ∧ s.Current c := by
  have hallows := hsound.allows running next
  obtain ⟨c, hclaim, hid⟩ := hallows.claim_eq hevent
  obtain ⟨o, hslot⟩ := h.slot w thread c running hclaim
  obtain ⟨-, hcount⟩ := hslot.attemptCount_eq hsound.ids hsound.keys hclaim hallows hevent commits
  exact ⟨c, hclaim, hid.symm, o, hslot.mem, hslot.id, hcount⟩

omit [DecidableEq W] in
/-- A worker talks to the node in an attempt that works. -/
theorem Sound.working_of_rpc (h : Sound options s) {w : W} {thread : Thread} {request : Rpc}
    {k : request.Result → Process VerusWorkerResult} (running : s.threads w = some thread)
    (next : thread.process = .call (.rpc request) k) :
    ∃ c job answers, thread.attempt = .working c job answers ∧
      request.Allowed (options w) job answers := by
  have hallows := h.allows running next
  cases hphase : thread.attempt with
  | working c job answers =>
    rw [hphase] at hallows
    exact ⟨c, job, answers, rfl, hallows⟩
  | _ =>
    rw [hphase] at hallows
    exact hallows.elim

/-! ## Tracking the jobs -/

section Tracking

variable (options) (P : List Entry → VerusJobRow → Prop)
  (Q : List Entry → VerusJobRow → ℕ → List Exchange → Prop)

/-- Every job has the property `P`, and every current attempt on it `Q`. -/
structure Tracked (s : System W) : Prop where
  rows : ∀ row ∈ s.db.jobs, P s.log row
  attempts : ∀ w thread c, s.threads w = some thread → thread.attempt.claim = some c →
    s.Current c → ∀ row ∈ s.db.jobs, row.outboxEventId = c.id →
    Q s.log row c.attempt thread.attempt.answers

/-- The next call of the worker is the request to the node. -/
def Asks (s : System W) (w : W) (thread : Thread) (request : Rpc) : Prop :=
  s.threads w = some thread ∧ ∃ k, thread.process = .call (.rpc request) k

/-- An entry beside the current attempt on the job: one of another event, a request, or the answer to
an attempt that is not the current one. -/
def Aside (s : System W) (act : Act W) (row : VerusJobRow) : Entry → Prop
  | .enqueued eventId _ => eventId ≠ row.outboxEventId
  | .sent _ _ _ => True
  | .answered eventId _ exchange => eventId = row.outboxEventId →
      ∃ w node thread request c, act = .receive w node ∧ s.Asks w thread request ∧
        exchange = ⟨request, node request⟩ ∧ thread.attempt.claim = some c ∧ ¬ s.Current c
  | .stored eventId _ _ => eventId ≠ row.outboxEventId

/-- What keeps the properties in a step: one rule for each thing that can happen to a job. -/
structure Rules (s : System W) (act : Act W) : Prop where
  enqueue : ∀ input committeeId jobId eventId now db, Enqueued input s.db db eventId →
    P (.enqueued eventId input :: s.log) (newJob input committeeId jobId eventId now)
  poll : ∀ w observedAt locked o row, act = .store w observedAt locked → s.Polls w →
    candidate s.db.outbox observedAt (some [verusAnchorEventType]) true locked = some o →
    row ∈ s.db.jobs → row.outboxEventId = o.id → P s.log row →
    Q s.log row (o.attemptCount + 1) []
  aside : ∀ row ∈ s.db.jobs, ∀ entry, s.Aside act row entry →
    (P s.log row → P (entry :: s.log) row) ∧
      ∀ n answers, Q s.log row n answers → Q (entry :: s.log) row n answers
  answer : ∀ w node thread request c job answers row, act = .receive w node →
    s.Asks w thread request → thread.attempt = .working c job answers →
    row ∈ s.db.jobs → row.outboxEventId = c.id → toRecord s.db row = .ok job →
    request.Allowed (options w) job answers → P s.log row → Q s.log row c.attempt answers →
    P (.answered c.id c.attempt ⟨request, node request⟩ :: s.log) row ∧
      Q (.answered c.id c.attempt ⟨request, node request⟩ :: s.log) row c.attempt
        (⟨request, node request⟩ :: answers)
  store : ∀ row new job answers operation worker observedAt anchors n, row ∈ s.db.jobs →
    toRecord s.db row = .ok job → operation.Due job answers →
    JobMove worker observedAt s.db row operation new anchors →
    P s.log row → Q s.log row n answers →
    P (.stored row.outboxEventId n operation :: s.log) new ∧
      Q (.stored row.outboxEventId n operation :: s.log) new n []
  forget : ∀ row n answers, ¬ Unrecorded answers → Q s.log row n answers → Q s.log row n []

end Tracking

variable {P : List Entry → VerusJobRow → Prop}
  {Q : List Entry → VerusJobRow → ℕ → List Exchange → Prop}

omit [DecidableEq W] [Host] in
theorem Initial.tracked (h : s.Initial) : Tracked P Q s := by
  refine ⟨?_, ?_⟩
  · intro row hrow
    rw [h.jobs] at hrow
    exact absurd hrow List.not_mem_nil
  · intro w thread c hthread
    rw [h.threads w] at hthread
    cases hthread

/-- One thread changes, the database stays, and the entry is beside every job. -/
theorem Tracked.thread (h : Tracked P Q s) (hrules : Rules options P Q s act) {w : W}
    {new : Option Thread} (log : List Entry)
    (haside : ∀ entry ∈ log, ∀ row ∈ s.db.jobs, s.Aside act row entry) (hlog : log.length ≤ 1)
    (hnew : ∀ thread c, new = some thread → thread.attempt.claim = some c → s.Current c →
      ∀ row ∈ s.db.jobs, row.outboxEventId = c.id →
      Q (log ++ s.log) row c.attempt thread.attempt.answers) :
    Tracked P Q { s with threads := Function.update s.threads w new, log := log ++ s.log } := by
  have hkept : ∀ row ∈ s.db.jobs, (P s.log row → P (log ++ s.log) row) ∧
      ∀ n answers, Q s.log row n answers → Q (log ++ s.log) row n answers := by
    intro row hrow
    cases log with
    | nil => exact ⟨fun h => h, fun _ _ h => h⟩
    | cons entry rest =>
      obtain rfl : rest = [] := List.length_eq_zero_iff.1 (by simpa using hlog)
      exact hrules.aside row hrow entry (haside entry List.mem_cons_self row hrow)
  refine ⟨fun row hrow => (hkept row hrow).1 (h.rows row hrow), ?_⟩
  intro w' thread c hthread hclaim hcurrent row hrow hkey
  rcases threads_update hthread with ⟨-, heq⟩ | ⟨-, hold⟩
  · exact hnew thread c heq hclaim hcurrent row hrow hkey
  · exact (hkept row hrow).2 _ _ (h.attempts w' thread c hold hclaim hcurrent row hrow hkey)

omit [DecidableEq W] in
/-- A call that is no operation on a job and no poll: the attempt keeps its answers, or drops them when
there is nothing to record. -/
theorem answers_of_call {attempt : Attempt} {w : W} {call : StoreCall} {result : call.Result}
    {c : OutboxClaim} (hallows : attempt.Allows (options w) (.store call))
    (hjob : ∀ eventId operation, call ≠ .job eventId operation) (hpoll : call ≠ .claimNext)
    (hclaim : (attempt.afterStore call result).claim = some c) :
    (attempt.afterStore call result).answers = attempt.answers ∨
      (¬ Unrecorded attempt.answers ∧ (attempt.afterStore call result).answers = []) := by
  cases call with
  | queueStats => exact Or.inl rfl
  | heartbeat => exact Or.inl rfl
  | claimNext => exact absurd rfl hpoll
  | succeed => cases hclaim
  | failTerminal => cases hclaim
  | failRetryable eventId errorClass =>
    right
    cases attempt with
    | working claim job answers =>
      refine ⟨hallows.2.1, ?_⟩
      cases result <;> rfl
    | _ => exact hallows.elim
  | job eventId operation => exact absurd rfl (hjob eventId operation)

/-- A committed call that is no operation on a job. -/
theorem Tracked.called (h : Tracked P Q s) (hrules : Rules options P Q s act)
    (hsound : Sound options s) (hfencing : Fencing options s) {w : W} {observedAt : ℤ}
    {locked : List Uuid} {thread : Thread} {call : StoreCall}
    {k : call.Result → Process VerusWorkerResult} {result : call.Result}
    (hact : act = .store w observedAt locked)
    (hjob : ∀ eventId operation, call ≠ .job eventId operation)
    (running : s.threads w = some thread) (next : thread.process = .call (.store call) k)
    (commits : Commits (call.exec (options w) observedAt locked) s.db result s'.db)
    (hthreads : s'.threads = Function.update s.threads w
      (Thread.resume (k result) (thread.attempt.afterStore call result)))
    (hlog : s'.log = s.log) (hstep : Step options s act s') : Tracked P Q s' := by
  have hjobs : s'.db.jobs = s.db.jobs := congrArg Prod.fst (StoreCall.work_eq hjob commits)
  refine ⟨?_, ?_⟩
  · rw [hjobs, hlog]
    exact h.rows
  rw [hjobs, hlog, hthreads]
  intro w' thread' c hthread hclaim hcurrent row hrow hkey
  rcases threads_update hthread with ⟨rfl, hnew⟩ | ⟨-, hold⟩
  · have hattempt := congrArg Thread.attempt (Thread.resume_eq_some hnew)
    rw [hattempt] at hclaim ⊢
    by_cases hpoll : call = .claimNext
    · -- The event is taken: its attempt begins with what is known of the job.
      subst hpoll
      rcases claimNext_spec commits with ⟨rfl, -⟩ | ⟨o, c', rfl, hid, hattempt, hcandidate, -⟩
      · cases hclaim
      · cases hclaim
        rw [hattempt]
        exact hrules.poll w' observedAt locked o row hact ⟨thread, k, running, next⟩ hcandidate hrow
          (hkey.trans hid) (h.rows row hrow)
    · have hbefore := Attempt.claim_afterStore hpoll hclaim
      have hcurrent₀ := hcurrent.before hfencing hsound hstep ⟨thread, running, hbefore⟩
      have hQ := h.attempts w' thread c running hbefore hcurrent₀ row hrow hkey
      rcases answers_of_call (hsound.allows running next) hjob hpoll hclaim with
        hsame | ⟨hnone, hnil⟩
      · rw [hsame]
        exact hQ
      · rw [hnil]
        exact hrules.forget row c.attempt _ hnone hQ
  · exact h.attempts w' thread' c hold hclaim
      (hcurrent.before hfencing hsound hstep ⟨thread', hold, hclaim⟩) row hrow hkey

omit [DecidableEq W] in
/-- An operation that is committed is due in the attempt that made it. -/
theorem due_of_commits (hsound : Sound options s) (hfencing : Fencing options s) {w : W}
    {thread : Thread} {eventId : Uuid} {operation : JobOperation}
    {k : (StoreCall.job eventId operation).Result → Process VerusWorkerResult} {c : OutboxClaim}
    {row : VerusJobRow} (running : s.threads w = some thread)
    (next : thread.process = .call (.store (.job eventId operation)) k)
    (hclaim : thread.attempt.claim = some c) (hcurrent : s.Current c) (hrow : row ∈ s.db.jobs)
    (hkey : row.outboxEventId = c.id) (hbefore : ∃ before, toRecord s.db row = .ok before) :
    ∃ job, toRecord s.db row = .ok job ∧ operation.Due job thread.attempt.answers := by
  have hallows := hsound.allows running next
  cases hphase : thread.attempt with
  | working claim job answers =>
    rw [hphase] at hallows hclaim
    cases hclaim
    obtain ⟨row', hrow', hkey', hrecord⟩ :=
      hfencing.record_of_current hsound.ids running hphase hcurrent
    rw [hsound.keys row' hrow' row hrow (hkey'.trans hkey.symm)] at hrecord
    refine ⟨job, hrecord, ?_⟩
    cases operation with
    | loadForClaim => exact hallows.2.elim
    | markDeadLetter => exact hallows.2.elim
    | _ => exact hallows.2
  | claimed claim =>
    rw [hphase] at hallows
    obtain ⟨before, hbefore⟩ := hbefore
    refine ⟨before, hbefore, ?_⟩
    cases operation with
    | loadForClaim => rfl
    | _ => exact hallows.elim
  | deadLettered claim =>
    rw [hphase] at hallows
    obtain ⟨before, hbefore⟩ := hbefore
    refine ⟨before, hbefore, ?_⟩
    cases operation with
    | markDeadLetter => rfl
    | _ => exact hallows.elim
  | waiting =>
    rw [hphase] at hclaim
    cases hclaim
  | released =>
    rw [hphase] at hclaim
    cases hclaim

/-- A committed operation on a job. -/
theorem Tracked.stored (h : Tracked P Q s) (hrules : Rules options P Q s act)
    (hsound : Sound options s) (hfencing : Fencing options s) {w : W} {observedAt : ℤ}
    {locked : List Uuid} {thread : Thread} {eventId : Uuid} {operation : JobOperation}
    {k : (StoreCall.job eventId operation).Result → Process VerusWorkerResult}
    {result : VerusJobRecord} (running : s.threads w = some thread)
    (next : thread.process = .call (.store (.job eventId operation)) k)
    (commits : Commits ((StoreCall.job eventId operation).exec (options w) observedAt locked) s.db
      result s'.db)
    (hthreads : s'.threads = Function.update s.threads w
      (Thread.resume (k result) (thread.attempt.afterStore (.job eventId operation) result)))
    (hlog : s'.log = thread.attempt.storeEntry (.job eventId operation) ++ s.log)
    (hstep : Step options s act s') : Tracked P Q s' := by
  obtain ⟨c, hclaim, rfl, hcurrent⟩ := hfencing.current_of_commits hsound rfl running next commits
  obtain ⟨row, new, hkey, hcommitted⟩ := JobOperation.exec_spec hsound.keys commits
  have hmem := hcommitted.changed.mem
  obtain ⟨job, hrecord, hdue⟩ :=
    due_of_commits hsound hfencing running next hclaim hcurrent hmem hkey hcommitted.before
  have hentry : s'.log = .stored row.outboxEventId c.attempt operation :: s.log := by
    rw [hlog, Attempt.storeEntry, Attempt.entry, hclaim, hkey]
    rfl
  obtain ⟨hP, hQ⟩ := hrules.store row new job _ operation _ observedAt _ c.attempt hmem hrecord hdue
    hcommitted.move (h.rows row hmem) (h.attempts w thread c running hclaim hcurrent row hmem hkey)
  -- The jobs of the other events.
  have hother : ∀ x ∈ s.db.jobs, x.outboxEventId ≠ row.outboxEventId →
      (P s.log x → P (.stored row.outboxEventId c.attempt operation :: s.log) x) ∧
      ∀ n answers, Q s.log x n answers →
        Q (.stored row.outboxEventId c.attempt operation :: s.log) x n answers :=
    fun x hx hne => hrules.aside x hx _ fun heq => hne heq.symm
  refine ⟨?_, ?_⟩
  · intro x hx
    rw [hentry]
    rcases (hcommitted.changed.jobs x).1 hx with rfl | ⟨hx, hne⟩
    · exact hP
    · exact (hother x hx hne).1 (h.rows x hx)
  · intro w' thread' c' hthread hclaim' hcurrent' x hx hkey'
    rw [hentry]
    rw [hthreads] at hthread
    rcases threads_update hthread with ⟨rfl, hnew⟩ | ⟨hw, hold⟩
    · have hattempt := congrArg Thread.attempt (Thread.resume_eq_some hnew)
      rw [hattempt] at hclaim' ⊢
      have hsame := Attempt.claim_afterStore (fun heq => by cases heq) hclaim'
      rw [hclaim] at hsame
      cases hsame
      have hanswers : (thread.attempt.afterStore (.job c.id operation) result).answers = [] := by
        cases operation with
        | markDeadLetter => cases hclaim'
        | _ =>
          simp only [Attempt.afterStore, Attempt.withJob, hclaim]
          rfl
      rw [hanswers]
      rcases (hcommitted.changed.jobs x).1 hx with rfl | ⟨-, hne⟩
      · exact hQ
      · exact absurd (hkey'.trans hkey.symm) hne
    · have hcurrent₀ := hcurrent'.before hfencing hsound hstep ⟨thread', hold, hclaim'⟩
      have hne : c'.id ≠ c.id := fun heq => hw (hfencing.current_unique hsound.ids
        ⟨thread', hold, hclaim'⟩ ⟨thread, running, hclaim⟩ heq hcurrent₀ hcurrent)
      rcases (hcommitted.changed.jobs x).1 hx with rfl | ⟨hx, hrow⟩
      · rw [hcommitted.changed.key, hkey] at hkey'
        exact absurd hkey'.symm hne
      · exact (hother x hx hrow).2 _ _
          (h.attempts w' thread' c' hold hclaim' hcurrent₀ x hx hkey')

/-- An answer of the node. -/
theorem Tracked.received (h : Tracked P Q s) (hrules : Rules options P Q s act)
    (hsound : Sound options s) (hfencing : Fencing options s) {w : W}
    {node : (request : Rpc) → request.Result} {thread : Thread} {request : Rpc}
    {k : request.Result → Process VerusWorkerResult} (hact : act = .receive w node)
    (running : s.threads w = some thread) (next : thread.process = .call (.rpc request) k) :
    Tracked P Q
      { s with
        threads := Function.update s.threads w
          (Thread.resume (k (node request)) (thread.attempt.afterAnswer ⟨request, node request⟩))
        log := thread.attempt.entry
          (fun eventId n => .answered eventId n ⟨request, node request⟩) ++ s.log } := by
  obtain ⟨c, job, answers, hphase, hallowed⟩ := hsound.working_of_rpc running next
  have hclaim : thread.attempt.claim = some c := by rw [hphase]; rfl
  have hentry : thread.attempt.entry (fun eventId n => .answered eventId n ⟨request, node request⟩) =
      [.answered c.id c.attempt ⟨request, node request⟩] := by
    rw [hphase]
    rfl
  have hafter : thread.attempt.afterAnswer ⟨request, node request⟩ =
      .working c job (⟨request, node request⟩ :: answers) := by
    rw [hphase]
    rfl
  rw [hentry, hafter]
  by_cases hcurrent : s.Current c
  · -- The answer belongs to the current attempt on the job of its event.
    obtain ⟨row, hrow, hkey, hrecord⟩ :=
      hfencing.record_of_current hsound.ids running hphase hcurrent
    have hQ := h.attempts w thread c running hclaim hcurrent row hrow hkey
    rw [hphase] at hQ
    have hanswer := hrules.answer w node thread request c job answers row hact ⟨running, k, next⟩
      hphase hrow hkey hrecord hallowed (h.rows row hrow) hQ
    have hother : ∀ x ∈ s.db.jobs, x.outboxEventId ≠ c.id →
        (P s.log x → P (.answered c.id c.attempt ⟨request, node request⟩ :: s.log) x) ∧
        ∀ n answers, Q s.log x n answers →
          Q (.answered c.id c.attempt ⟨request, node request⟩ :: s.log) x n answers :=
      fun x hx hne => hrules.aside x hx _ fun heq => absurd heq.symm hne
    refine ⟨?_, ?_⟩
    · intro x hx
      by_cases hid : x.outboxEventId = c.id
      · rw [hsound.keys x hx row hrow (hid.trans hkey.symm)]
        exact hanswer.1
      · exact (hother x hx hid).1 (h.rows x hx)
    · intro w' thread' c' hthread hclaim' hcurrent' x hx hkey'
      rcases threads_update hthread with ⟨rfl, hnew⟩ | ⟨hw, hold⟩
      · rw [Thread.resume_eq_some hnew] at hclaim' ⊢
        cases hclaim'
        rw [hsound.keys x hx row hrow (hkey'.trans hkey.symm)]
        exact hanswer.2
      · have hne : c'.id ≠ c.id := fun heq => hw (hfencing.current_unique hsound.ids
          ⟨thread', hold, hclaim'⟩ ⟨thread, running, hclaim⟩ heq hcurrent' hcurrent)
        exact (hother x hx fun heq => hne (hkey'.symm.trans heq)).2 _ _
          (h.attempts w' thread' c' hold hclaim' hcurrent' x hx hkey')
  · refine h.thread hrules [_] ?_ le_rfl ?_
    · intro entry hentry row hrow
      rw [List.mem_singleton.1 hentry]
      exact fun _ => ⟨w, node, thread, request, c, hact, ⟨running, k, next⟩, rfl, hclaim, hcurrent⟩
    · intro thread' c' hnew hclaim' hcurrent'
      rw [Thread.resume_eq_some hnew] at hclaim'
      cases hclaim'
      exact absurd hcurrent' hcurrent

/-- The properties are kept by a step that meets the rules. -/
theorem Tracked.step (h : Tracked P Q s) (hsound : Sound options s) (hfencing : Fencing options s)
    (hrules : Rules options P Q s act) (hstep : Step options s act s') : Tracked P Q s' := by
  have hstep₀ := hstep
  cases hstep with
  | enqueued input context job db added =>
    obtain ⟨committeeId, jobId, now, hjobs⟩ := added.job
    have hkept : ∀ row ∈ s.db.jobs, (P s.log row → P (.enqueued job.outboxEventId input :: s.log) row) ∧
        ∀ n answers, Q s.log row n answers →
          Q (.enqueued job.outboxEventId input :: s.log) row n answers :=
      fun row hrow => hrules.aside row hrow _ (added.freshJob row hrow).symm
    have hmem : ∀ row ∈ db.jobs, row ∈ s.db.jobs ∨
        row = newJob input committeeId jobId job.outboxEventId now := by
      intro row hrow
      rw [hjobs] at hrow
      simpa using hrow
    refine ⟨fun row hrow => ?_, ?_⟩
    · rcases hmem row hrow with hold | rfl
      · exact (hkept row hold).1 (h.rows row hold)
      · exact hrules.enqueue input committeeId jobId job.outboxEventId now db added
    · intro w thread c hthread hclaim hcurrent row hrow hkey
      have hcurrent₀ := hcurrent.before hfencing hsound hstep₀ ⟨thread, hthread, hclaim⟩
      rcases hmem row hrow with hold | rfl
      · exact (hkept row hold).2 _ _ (h.attempts w thread c hthread hclaim hcurrent₀ row hold hkey)
      · obtain ⟨o, ho, hid, -⟩ := hcurrent₀
        exact absurd (hid.trans hkey.symm) (added.fresh o ho)
  | unchanged => exact h
  | timestamp => exact ⟨h.rows, h.attempts⟩
  | begun w idle =>
    refine h.thread hrules [] (fun _ hentry => absurd hentry List.not_mem_nil) (Nat.zero_le _) ?_
    intro thread c hnew hclaim
    rw [Thread.resume_eq_some hnew] at hclaim
    cases hclaim
  | committed w observedAt locked thread call k result db running next commits =>
    by_cases hjob : ∃ eventId operation, call = .job eventId operation
    · obtain ⟨eventId, operation, rfl⟩ := hjob
      exact h.stored hrules hsound hfencing running next commits rfl rfl hstep₀
    · have hnot : ∀ eventId operation, call ≠ .job eventId operation :=
        fun eventId operation heq => hjob ⟨eventId, operation, heq⟩
      have hentry : thread.attempt.storeEntry call = [] := by
        cases call with
        | job eventId operation => exact absurd rfl (hnot eventId operation)
        | _ => rfl
      refine h.called hrules hsound hfencing rfl hnot running next commits rfl ?_ hstep₀
      show thread.attempt.storeEntry call ++ s.log = s.log
      rw [hentry, List.nil_append]
  | rejected w =>
    exact h.thread hrules [] (fun _ hentry => absurd hentry List.not_mem_nil) (Nat.zero_le _)
      fun thread c hnew => by cases hnew
  | sent w thread request k running next ready =>
    obtain ⟨c, job, answers, hphase, -⟩ := hsound.working_of_rpc running next
    have hentry : thread.attempt.entry (fun eventId n => .sent eventId n request) =
        [.sent c.id c.attempt request] := by
      rw [hphase]
      rfl
    rw [hentry]
    refine h.thread hrules [_] ?_ le_rfl ?_
    · intro entry hentry row _
      rw [List.mem_singleton.1 hentry]
      trivial
    · intro thread' c' hnew hclaim hcurrent row hrow hkey
      rw [← Option.some.inj hnew] at hclaim ⊢
      exact (hrules.aside row hrow (.sent c.id c.attempt request) trivial).2 _ _
        (h.attempts w thread c' running hclaim hcurrent row hrow hkey)
  | received w node thread request k running next waiting =>
    exact h.received hrules hsound hfencing rfl running next
  | crashed w =>
    exact h.thread hrules [] (fun _ hentry => absurd hentry List.not_mem_nil) (Nat.zero_le _)
      fun thread c hnew => by cases hnew

/-- The properties hold in every run whose steps meet the rules. -/
theorem tracked_of_reach {C : System W → Act W → Prop} {s₀ : System W} (hinit : s₀.Initial)
    (hfenced : ∀ s act, C s act → Fenced options s act)
    (hrules : ∀ s act, Sound options s → C s act → Rules options P Q s act)
    (h : Reach (System.step options) C s₀ s) :
    Sound options s ∧ Fencing options s ∧ Tracked P Q s := by
  refine h.invariant (I := fun s => Sound options s ∧ Fencing options s ∧ Tracked P Q s)
    ⟨hinit.sound, hinit.fencing, hinit.tracked⟩ ?_
  rintro s act s' ⟨hsound, hfencing, htracked⟩ hcond hstep
  have hstep' := step_inv hstep
  exact ⟨hsound.step hstep', hfencing.step hsound (hfenced s act hcond) hstep',
    htracked.step hsound hfencing (hrules s act hsound hcond) hstep'⟩

end System

end ChecksAndBalances
