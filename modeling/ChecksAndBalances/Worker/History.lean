import ChecksAndBalances.Lib.History
import ChecksAndBalances.Verus.Encoding
import ChecksAndBalances.Worker.Lease

/-!
# What the log and the jobs keep

The manifest of a job never changes, so a worker knows it whatever else has happened to the job; and
what a worker was told by the node stands in the log.
-/

namespace ChecksAndBalances

open Lib Lib.Tx OutboxRepository

/-- No operation changes the manifest of a job. -/
theorem JobMove.manifest_eq {worker : String} {observedAt : ℤ} {db : Db} {operation : JobOperation}
    {row new : VerusJobRow} {anchors : List AnchorRecord}
    (h : JobMove worker observedAt db row operation new anchors) :
    new.toVerusManifest = row.toVerusManifest := by
  cases h <;> rfl

/-- The row has the identifier and the manifest of another one. -/
def VerusJobRow.SameWork (row row' : VerusJobRow) : Prop :=
  row'.outboxEventId = row.outboxEventId ∧ row'.toVerusManifest = row.toVerusManifest

/-- A committed call keeps the work of every job, and makes none up. -/
theorem StoreCall.sameWork {options : VerusAnchorWorkerOptions} {observedAt : ℤ}
    {locked : List Uuid} {call : StoreCall} {result : call.Result} {db db' : Db}
    (hkeys : UniqueJobs db) (h : Commits (call.exec options observedAt locked) db result db') :
    (∀ row ∈ db.jobs, ∃ row' ∈ db'.jobs, row.SameWork row') ∧
      ∀ row' ∈ db'.jobs, ∃ row ∈ db.jobs, row.SameWork row' := by
  by_cases hjob : ∃ eventId operation, call = .job eventId operation
  · obtain ⟨eventId, operation, rfl⟩ := hjob
    obtain ⟨old, new, -, hcommitted⟩ := JobOperation.exec_spec hkeys h
    have hnew : old.SameWork new := ⟨hcommitted.changed.key, hcommitted.move.manifest_eq⟩
    have hjobs := hcommitted.changed.jobs
    refine ⟨fun row hrow => ?_, fun row' hrow' => ?_⟩
    · by_cases hkey : row.outboxEventId = old.outboxEventId
      · rw [hkeys row hrow old hcommitted.changed.mem hkey]
        exact ⟨new, hcommitted.changed.new_mem, hnew⟩
      · exact ⟨row, (hjobs row).2 (Or.inr ⟨hrow, hkey⟩), rfl, rfl⟩
    · rcases (hjobs row').1 hrow' with rfl | ⟨hrow, -⟩
      · exact ⟨old, hcommitted.changed.mem, hnew⟩
      · exact ⟨row', hrow, rfl, rfl⟩
  · have hwork := StoreCall.work_eq (fun e o he => hjob ⟨e, o, he⟩) h
    have hjobs : db'.jobs = db.jobs := congrArg Prod.fst hwork
    rw [hjobs]
    exact ⟨fun row hrow => ⟨row, hrow, rfl, rfl⟩, fun row hrow => ⟨row, hrow, rfl, rfl⟩⟩

/-- A call to the job store gives the worker its record. -/
theorem working_of_job {attempt : Attempt} {eventId : Uuid} {operation : JobOperation}
    {result : VerusJobRecord} {c : OutboxClaim} {job : VerusJobRecord} {answers : List Exchange}
    (h : attempt.afterStore (.job eventId operation) result = .working c job answers) :
    attempt.claim = some c ∧ result = job ∧ answers = [] := by
  have hwith : attempt.withJob result = .working c job answers := by
    cases operation with
    | markDeadLetter => cases h
    | _ => exact h
  unfold Attempt.withJob at hwith
  split at hwith
  · next claim hclaim =>
    cases hwith
    exact ⟨hclaim, rfl, rfl⟩
  · next hnone =>
    rw [hwith] at hnone
    cases hnone

/-- Every other call leaves the record of a worker that goes on. -/
theorem working_of_call {attempt : Attempt} {call : StoreCall} {result : call.Result}
    {c : OutboxClaim} {job : VerusJobRecord} {answers : List Exchange}
    (hjob : ∀ eventId operation, call ≠ .job eventId operation)
    (h : attempt.afterStore call result = .working c job answers) :
    attempt = .working c job answers := by
  cases call with
  | queueStats => exact h
  | heartbeat => exact h
  | claimNext => cases result <;> cases h
  | succeed => cases h
  | failTerminal => cases h
  | failRetryable eventId errorClass =>
    simp only [Attempt.afterStore, Attempt.afterFailure] at h
    split at h <;> cases h
  | job eventId operation => exact absurd rfl (hjob eventId operation)

namespace System

variable {W : Type} [DecidableEq W] [Host] {options : W → VerusAnchorWorkerOptions}
  {s s' : System W} {act : Act W}

/-- A step keeps the work of every job. -/
theorem Step.sameWork (hsound : Sound options s) (h : Step options s act s') :
    ∀ row ∈ s.db.jobs, ∃ row' ∈ s'.db.jobs, row.SameWork row' := by
  cases h with
  | enqueued input context job db added =>
    intro row hrow
    obtain ⟨committeeId, jobId, now, hjobs⟩ := added.job
    refine ⟨row, ?_, rfl, rfl⟩
    show row ∈ db.jobs
    rw [hjobs]
    exact List.mem_append_left _ hrow
  | committed w observedAt locked thread call k result db running next commits =>
    exact (StoreCall.sameWork hsound.keys commits).1
  | _ => exact fun row hrow => ⟨row, hrow, rfl, rfl⟩

/-- A step adds to the log. -/
theorem Step.log_suffix (h : Step options s act s') : ∃ new, s'.log = new ++ s.log := by
  cases h with
  | enqueued => exact ⟨[_], rfl⟩
  | committed => exact ⟨_, rfl⟩
  | sent => exact ⟨_, rfl⟩
  | received => exact ⟨_, rfl⟩
  | _ => exact ⟨[], rfl⟩

/-- Every job was there before the step, or was enqueued in it. -/
theorem Step.row_origin (hsound : Sound options s) (h : Step options s act s') :
    ∀ row' ∈ s'.db.jobs, (∃ row ∈ s.db.jobs, row.SameWork row') ∨
      ∃ input, Entry.enqueued row'.outboxEventId input ∈ s'.log ∧
        row'.toVerusManifest = input.toVerusManifest := by
  cases h with
  | enqueued input context job db added =>
    intro row hrow
    obtain ⟨committeeId, jobId, now, hjobs⟩ := added.job
    have hrow : row ∈ s.db.jobs ∨
        row = VerusJobRepository.newJob input committeeId jobId job.outboxEventId now := by
      rw [← List.mem_singleton, ← List.mem_append, ← hjobs]
      exact hrow
    rcases hrow with hrow | rfl
    · exact Or.inl ⟨row, hrow, rfl, rfl⟩
    · exact Or.inr ⟨input, List.mem_cons_self, rfl⟩
  | committed w observedAt locked thread call k result db running next commits =>
    exact fun row hrow => Or.inl ((StoreCall.sameWork hsound.keys commits).2 row hrow)
  | _ => exact fun row hrow => Or.inl ⟨row, hrow, rfl, rfl⟩

/-- Where the record and the answers of a worker come from: they were there before the step, the node
answered, or the job store returned the record. -/
inductive WorkingStep (options : W → VerusAnchorWorkerOptions) (s s' : System W) (act : Act W) (w : W)
    (c : OutboxClaim) (job : VerusJobRecord) : List Exchange → Prop
  | same (thread : Thread) (answers : List Exchange) (running : s.threads w = some thread)
      (phase : thread.attempt = .working c job answers) : WorkingStep options s s' act w c job answers
  | answered (thread : Thread) (request : Rpc) (node : (request : Rpc) → request.Result)
      (answers : List Exchange) (k : request.Result → Process VerusWorkerResult)
      (act_eq : act = .receive w node) (running : s.threads w = some thread)
      (next : thread.process = .call (.rpc request) k)
      (phase : thread.attempt = .working c job answers)
      (logged : Entry.answered c.id c.attempt ⟨request, node request⟩ ∈ s'.log) :
      WorkingStep options s s' act w c job (⟨request, node request⟩ :: answers)
  | stored (observedAt : ℤ) (locked : List Uuid) (thread : Thread) (operation : JobOperation)
      (k : (StoreCall.job c.id operation).Result → Process VerusWorkerResult)
      (running : s.threads w = some thread)
      (next : thread.process = .call (.store (.job c.id operation)) k)
      (claim : thread.attempt.claim = some c)
      (commits : Commits ((StoreCall.job c.id operation).exec (options w) observedAt locked) s.db job
        s'.db) : WorkingStep options s s' act w c job []

theorem Step.working (hsound : Sound options s) (h : Step options s act s') {w : W} {thread : Thread}
    {c : OutboxClaim} {job : VerusJobRecord} {answers : List Exchange}
    (hthread : s'.threads w = some thread) (hphase : thread.attempt = .working c job answers) :
    WorkingStep options s s' act w c job answers := by
  cases h with
  | enqueued => exact .same thread answers hthread hphase
  | unchanged => exact .same thread answers hthread hphase
  | timestamp => exact .same thread answers hthread hphase
  | begun w' idle =>
    rcases threads_update hthread with ⟨rfl, heq⟩ | ⟨-, hold⟩
    · rw [Thread.resume_eq_some heq] at hphase
      cases hphase
    · exact .same thread answers hold hphase
  | committed w' observedAt locked thread' call k result db running next commits =>
    rcases threads_update hthread with ⟨rfl, heq⟩ | ⟨-, hold⟩
    · rw [Thread.resume_eq_some heq] at hphase
      by_cases hjob : ∃ eventId operation, call = .job eventId operation
      · obtain ⟨eventId, operation, rfl⟩ := hjob
        obtain ⟨hclaim, rfl, rfl⟩ := working_of_job hphase
        obtain ⟨claim, hsome, rfl⟩ := (hsound.allows running next).claim_eq rfl
        rw [hclaim] at hsome
        cases hsome
        exact .stored observedAt locked thread' operation k running next hclaim commits
      · exact .same thread' answers running
          (working_of_call (fun e o he => hjob ⟨e, o, he⟩) hphase)
    · exact .same thread answers hold hphase
  | rejected w' =>
    rcases threads_update hthread with ⟨-, heq⟩ | ⟨-, hold⟩
    · cases heq
    · exact .same thread answers hold hphase
  | sent w' thread' request k running next ready =>
    rcases threads_update hthread with ⟨rfl, heq⟩ | ⟨-, hold⟩
    · rw [← Option.some.inj heq] at hphase
      exact .same thread' answers running hphase
    · exact .same thread answers hold hphase
  | received w' node thread' request k running next waiting =>
    rcases threads_update hthread with ⟨rfl, heq⟩ | ⟨-, hold⟩
    · rw [Thread.resume_eq_some heq] at hphase
      cases hbefore : thread'.attempt with
      | working c' job' answers' =>
        rw [hbefore] at hphase
        cases hphase
        exact .answered thread' request node answers' k rfl running next hbefore
          (List.mem_append_left _ (List.mem_singleton.2 rfl))
      | _ =>
        rw [hbefore] at hphase
        cases hphase
    · exact .same thread answers hold hphase
  | crashed w' =>
    rcases threads_update hthread with ⟨-, heq⟩ | ⟨-, hold⟩
    · cases heq
    · exact .same thread answers hold hphase

/-- What holds of every write in the log holds after a step if it holds of the write that is sent. -/
theorem Step.along_writes {P : List Entry → Uuid → ℕ → PreparedIdentityUpdate → Prop}
    (hold : Along (fun earlier entry => ∀ eventId n update,
      entry = .sent eventId n (.updateIdentity update) → P earlier eventId n update) s.log)
    (hsent : ∀ w thread update k c, act = .send w → s.threads w = some thread →
      thread.process = .call (.rpc (.updateIdentity update)) k → thread.attempt.claim = some c →
      P s.log c.id c.attempt update)
    (h : Step options s act s') :
    Along (fun earlier entry => ∀ eventId n update,
      entry = .sent eventId n (.updateIdentity update) → P earlier eventId n update) s'.log := by
  cases h with
  | enqueued => exact ⟨fun _ _ _ heq => by (cases heq), hold⟩
  | committed w observedAt locked thread call k result db running next commits =>
    cases call with
    | job eventId operation =>
      simp only [Attempt.storeEntry, Attempt.entry]
      split
      · exact ⟨fun _ _ _ heq => by (cases heq), hold⟩
      · exact hold
    | _ => exact hold
  | sent w thread request k running next ready =>
    simp only [Attempt.entry]
    split
    · next c hclaim =>
      refine ⟨fun eventId n update heq => ?_, hold⟩
      cases heq
      exact hsent w thread update k c rfl running next hclaim
    · exact hold
  | received w node thread request k running next waiting =>
    simp only [Attempt.entry]
    split
    · exact ⟨fun _ _ _ heq => by (cases heq), hold⟩
    · exact hold
  | unchanged => exact hold
  | timestamp => exact hold
  | begun => exact hold
  | rejected => exact hold
  | crashed => exact hold

/-- What holds of every operation in the log holds after a step if it holds of the one that is
committed. -/
theorem Step.along_operations {P : List Entry → Uuid → ℕ → JobOperation → Prop}
    (hold : Along (fun earlier entry => ∀ eventId n operation,
      entry = .stored eventId n operation → P earlier eventId n operation) s.log)
    (hstored : ∀ w observedAt locked thread eventId operation k result c,
      s.threads w = some thread → thread.process = .call (.store (.job eventId operation)) k →
      thread.attempt.claim = some c →
      Commits ((StoreCall.job eventId operation).exec (options w) observedAt locked) s.db result
        s'.db → P s.log eventId c.attempt operation)
    (hsound : Sound options s) (h : Step options s act s') :
    Along (fun earlier entry => ∀ eventId n operation,
      entry = .stored eventId n operation → P earlier eventId n operation) s'.log := by
  cases h with
  | enqueued => exact ⟨fun _ _ _ heq => by (cases heq), hold⟩
  | committed w observedAt locked thread call k result db running next commits =>
    cases call with
    | job eventId operation =>
      obtain ⟨c, hclaim, hid⟩ := (hsound.allows running next).claim_eq rfl
      simp only [Attempt.storeEntry, Attempt.entry, hclaim]
      refine ⟨fun eventId' n operation' heq => ?_, hold⟩
      cases heq
      rw [← hid]
      exact hstored w observedAt locked thread eventId operation k result c running next hclaim
        commits
    | _ => exact hold
  | sent w thread request k running next ready =>
    simp only [Attempt.entry]
    split
    · exact ⟨fun _ _ _ heq => by (cases heq), hold⟩
    · exact hold
  | received w node thread request k running next waiting =>
    simp only [Attempt.entry]
    split
    · exact ⟨fun _ _ _ heq => by (cases heq), hold⟩
    · exact hold
  | unchanged => exact hold
  | timestamp => exact hold
  | begun => exact hold
  | rejected => exact hold
  | crashed => exact hold

/-- The workers know the manifests of their jobs and are told what the log says, and every manifest
was enqueued. -/
structure Informed (s : System W) : Prop where
  known : ∀ w thread c job answers, s.threads w = some thread →
    thread.attempt = .working c job answers →
    ∃ row ∈ s.db.jobs, row.outboxEventId = c.id ∧ row.toVerusManifest = job.toVerusManifest
  told : ∀ w thread c job answers, s.threads w = some thread →
    thread.attempt = .working c job answers →
    ∀ exchange ∈ answers, Entry.answered c.id c.attempt exchange ∈ s.log
  enqueued : ∀ row ∈ s.db.jobs, ∃ input, Entry.enqueued row.outboxEventId input ∈ s.log ∧
    row.toVerusManifest = input.toVerusManifest

omit [DecidableEq W] [Host] in
theorem Initial.informed (h : s.Initial) : s.Informed := by
  refine ⟨?_, ?_, ?_⟩
  · intro w thread c job answers hthread
    rw [h.threads w] at hthread
    cases hthread
  · intro w thread c job answers hthread
    rw [h.threads w] at hthread
    cases hthread
  · intro row hrow
    rw [h.jobs] at hrow
    exact absurd hrow List.not_mem_nil

theorem Informed.step (h : s.Informed) (hsound : Sound options s) (hstep : Step options s act s') :
    s'.Informed := by
  obtain ⟨new, hlog⟩ := hstep.log_suffix
  have hlater : ∀ entry ∈ s.log, entry ∈ s'.log := by
    intro entry hentry
    rw [hlog]
    exact List.mem_append_right _ hentry
  have hknown : ∀ w thread c job answers, s.threads w = some thread →
      thread.attempt = .working c job answers → ∃ row ∈ s'.db.jobs, row.outboxEventId = c.id ∧
        row.toVerusManifest = job.toVerusManifest := by
    intro w thread c job answers running hphase
    obtain ⟨row, hrow, hkey, hmanifest⟩ := h.known w thread c job answers running hphase
    obtain ⟨row', hrow', hsame⟩ := hstep.sameWork hsound row hrow
    exact ⟨row', hrow', hsame.1.trans hkey, hsame.2.trans hmanifest⟩
  refine ⟨?_, ?_, ?_⟩
  · intro w thread c job answers hthread hphase
    cases hstep.working hsound hthread hphase with
    | same thread _ running phase => exact hknown w thread c job _ running phase
    | answered thread request node answers k act_eq running next phase =>
      exact hknown w thread c job answers running phase
    | stored observedAt locked thread operation k running next claim commits =>
      obtain ⟨row, row', hkey, hcommitted⟩ := JobOperation.exec_spec hsound.keys commits
      refine ⟨row', hcommitted.changed.new_mem, ?_, (toRecord_eq hcommitted.record).1.symm⟩
      rw [hcommitted.changed.key, hkey]
  · intro w thread c job answers hthread hphase exchange hexchange
    cases hstep.working hsound hthread hphase with
    | same thread _ running phase =>
      exact hlater _ (h.told w thread c job _ running phase exchange hexchange)
    | answered thread request node answers k act_eq running next phase logged =>
      rcases List.mem_cons.1 hexchange with rfl | hexchange
      · exact logged
      · exact hlater _ (h.told w thread c job answers running phase exchange hexchange)
    | stored => exact absurd hexchange List.not_mem_nil
  · intro row' hrow'
    rcases hstep.row_origin hsound row' hrow' with ⟨row, hrow, hsame⟩ | hnew
    · obtain ⟨input, hinput, hmanifest⟩ := h.enqueued row hrow
      refine ⟨input, ?_, hsame.2.trans hmanifest⟩
      rw [hsame.1]
      exact hlater _ hinput
    · exact hnew

theorem informed_of_reach {C : System W → Act W → Prop} {s₀ : System W} (hinit : s₀.Initial)
    (h : Reach (System.step options) C s₀ s) : s.Informed := by
  have hinv : Sound options s ∧ s.Informed := by
    refine h.invariant (I := fun s => Sound options s ∧ s.Informed) ⟨hinit.sound, hinit.informed⟩ ?_
    rintro s act s' ⟨hsound, hinformed⟩ - hstep
    exact ⟨hsound.step (step_inv hstep), hinformed.step hsound (step_inv hstep)⟩
  exact hinv.2

end System

end ChecksAndBalances
