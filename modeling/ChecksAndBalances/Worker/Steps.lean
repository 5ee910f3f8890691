import ChecksAndBalances.Worker.Protocol
import ChecksAndBalances.Worker.Store

/-!
# The steps of the system

One case for each thing that can happen, with what is known of it: a step of the system is a `Step`
(`step_inv`), and every invariant is a case analysis of `Step`.
-/

namespace ChecksAndBalances

open Lib Lib.Tx OutboxRepository

/-- A thread that goes on does so with the program and the attempt. -/
theorem Thread.resume_eq_some {process : Process VerusWorkerResult} {attempt : Attempt}
    {thread : Thread} (h : Thread.resume process attempt = some thread) :
    thread = { process, inFlight := false, attempt } := by
  cases process with
  | done => cases h
  | call => exact (Option.some.inj h).symm

namespace System

variable {W : Type} [DecidableEq W] [Host] {options : W → VerusAnchorWorkerOptions}
  {s s' : System W}

/-- The effect of each act. -/
inductive Step (options : W → VerusAnchorWorkerOptions) (s : System W) : Act W → System W → Prop
  | enqueued (input : EnqueueVerusAnchorInput) (context : CommandContext) (job : VerusJobRecord)
      (db : Db) (added : Enqueued input s.db db job.outboxEventId) :
      Step options s (.enqueue input context)
        { s with db, log := .enqueued job.outboxEventId input :: s.log }
  | unchanged (input : EnqueueVerusAnchorInput) (context : CommandContext) :
      Step options s (.enqueue input context) s
  | timestamp (currentTimestamp : ℤ) :
      Step options s (.timestamp currentTimestamp) { s with db := { s.db with currentTimestamp } }
  | begun (w : W) (idle : s.threads w = none) :
      Step options s (.begin w)
        { s with
          threads := Function.update s.threads w
            (Thread.resume (processNext (options w)) .waiting) }
  | committed (w : W) (observedAt : ℤ) (locked : List Uuid) (thread : Thread) (call : StoreCall)
      (k : call.Result → Process VerusWorkerResult) (result : call.Result) (db : Db)
      (running : s.threads w = some thread) (next : thread.process = .call (.store call) k)
      (commits : Commits (call.exec (options w) observedAt locked) s.db result db) :
      Step options s (.store w observedAt locked)
        { db
          threads := Function.update s.threads w
            (Thread.resume (k result) (thread.attempt.afterStore call result))
          log := thread.attempt.storeEntry call ++ s.log }
  | rejected (w : W) (observedAt : ℤ) (locked : List Uuid) (thread : Thread) (call : StoreCall)
      (k : call.Result → Process VerusWorkerResult)
      (running : s.threads w = some thread) (next : thread.process = .call (.store call) k)
      (fails : ¬ Accepted (call.exec (options w) observedAt locked) s.db) :
      Step options s (.store w observedAt locked)
        { s with threads := Function.update s.threads w none }
  | sent (w : W) (thread : Thread) (request : Rpc) (k : request.Result → Process VerusWorkerResult)
      (running : s.threads w = some thread) (next : thread.process = .call (.rpc request) k)
      (ready : thread.inFlight = false) :
      Step options s (.send w)
        { s with
          threads := Function.update s.threads w (some { thread with inFlight := true })
          log := thread.attempt.entry (fun eventId n => .sent eventId n request) ++ s.log }
  | received (w : W) (node : (request : Rpc) → request.Result) (thread : Thread) (request : Rpc)
      (k : request.Result → Process VerusWorkerResult)
      (running : s.threads w = some thread) (next : thread.process = .call (.rpc request) k)
      (waiting : thread.inFlight = true) :
      Step options s (.receive w node)
        { s with
          threads := Function.update s.threads w
            (Thread.resume (k (node request)) (thread.attempt.afterAnswer ⟨request, node request⟩))
          log := thread.attempt.entry
            (fun eventId n => .answered eventId n ⟨request, node request⟩) ++ s.log }
  | crashed (w : W) (thread : Thread) (running : s.threads w = some thread) :
      Step options s (.crash w) { s with threads := Function.update s.threads w none }

theorem step_enqueue (input : EnqueueVerusAnchorInput) (context : CommandContext) :
    Step options s (.enqueue input context) (s.enqueue input context) := by
  unfold enqueue
  split
  · next job db h =>
    rcases enqueueAnchor_spec h with ⟨hexisting, hdb⟩ | ⟨hnone, hadded⟩
    · have hsome : (VerusJobRepository.existingJob s.db context).isNone = false := by
        rw [Option.isNone_eq_false_iff]
        exact hexisting
      rw [if_neg (by rw [hsome]; decide), hdb]
      exact .unchanged input context
    · rw [if_pos (by rw [hnone]; rfl)]
      exact .enqueued input context job db hadded
  · exact .unchanged input context

theorem step_storeStep {w : W} {observedAt : ℤ} {locked : List Uuid} {thread : Thread}
    (running : s.threads w = some thread)
    (h : s.storeStep options w observedAt locked thread = some s') :
    Step options s (.store w observedAt locked) s' := by
  unfold storeStep at h
  split at h
  · next call k hnext =>
    split at h
    · next result db hcommits =>
      rw [← Option.some.inj h]
      exact .committed w observedAt locked thread call k result db running hnext hcommits
    · next error herror =>
      rw [← Option.some.inj h]
      refine .rejected w observedAt locked thread call k running hnext ?_
      rintro ⟨result, db, hcommits⟩
      rw [Commits, herror] at hcommits
      cases hcommits
  · cases h

/-- Every step is one of the cases. -/
theorem step_inv {act : Act W} (h : s.step options act = some s') : Step options s act s' := by
  cases act with
  | enqueue input context =>
    rw [← Option.some.inj h]
    exact step_enqueue input context
  | timestamp t =>
    rw [← Option.some.inj h]
    exact .timestamp t
  | begin w =>
    simp only [step] at h
    split at h
    · next hidle =>
      rw [← Option.some.inj h]
      exact .begun w hidle
    · cases h
  | store w observedAt locked =>
    obtain ⟨thread, hrunning, hstep⟩ := Option.bind_eq_some_iff.1 h
    exact step_storeStep hrunning hstep
  | send w =>
    obtain ⟨thread, hrunning, hstep⟩ := Option.bind_eq_some_iff.1 h
    unfold sendStep at hstep
    split at hstep
    · next request k hnext hready =>
      rw [← Option.some.inj hstep]
      exact .sent w thread request k hrunning hnext hready
    · cases hstep
  | receive w node =>
    obtain ⟨thread, hrunning, hstep⟩ := Option.bind_eq_some_iff.1 h
    unfold receiveStep at hstep
    split at hstep
    · next request k hnext hwaiting =>
      rw [← Option.some.inj hstep]
      exact .received w node thread request k hrunning hnext hwaiting
    · cases hstep
  | crash w =>
    obtain ⟨thread, hrunning, hstep⟩ := Option.map_eq_some_iff.1 h
    rw [← hstep]
    exact .crashed w thread hrunning

/-! ## Threads -/

omit [Host] in
/-- A thread after one thread was replaced: the new one, or an old one of another worker. -/
theorem threads_update {w w' : W} {new : Option Thread} {thread : Thread}
    (h : Function.update s.threads w new w' = some thread) :
    (w' = w ∧ new = some thread) ∨ (w' ≠ w ∧ s.threads w' = some thread) := by
  by_cases hw : w' = w
  · subst hw
    rw [Function.update_self] at h
    exact Or.inl ⟨rfl, h⟩
  · rw [Function.update_of_ne hw] at h
    exact Or.inr ⟨hw, h⟩

end System

end ChecksAndBalances
