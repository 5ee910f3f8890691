import ChecksAndBalances.Lib.Reach
import ChecksAndBalances.Worker.Program

/-!
# The system of workers

Any number of workers run `processNext` over one database, one run at a time each.  A step commits or
rejects a store call, sends a request to the node or delivers an answer to it, so the calls of
different workers interleave freely; the times they observe and the answers of the node are
arbitrary, and a worker may crash between any two of its steps.  The log keeps, latest first, what
was done for each event.
-/

namespace ChecksAndBalances

open Lib Lib.Tx OutboxRepository

/-! ## Attempts -/

/-- A request to the node with the way it ended. -/
abbrev Exchange := Sigma Rpc.Result

/-- What a running `processNext` has learned: its claim, the job record it works on and, latest
first, what the node answered since it has that record. -/
inductive Attempt where
  | waiting
  | claimed (claim : OutboxClaim)
  | working (claim : OutboxClaim) (job : VerusJobRecord) (answers : List Exchange)
  | deadLettered (claim : OutboxClaim)
  | released

namespace Attempt

/-- The claim that the attempt works under. -/
def claim : Attempt → Option OutboxClaim
  | waiting => none
  | claimed claim => some claim
  | working claim _ _ => some claim
  | deadLettered claim => some claim
  | released => none

/-- A job record came back from the store. -/
def withJob (attempt : Attempt) (job : VerusJobRecord) : Attempt :=
  match attempt.claim with
  | some claim => working claim job []
  | none => attempt

/-- The event was released in the given state. -/
def afterFailure (attempt : Attempt) (state : OutboxState) : Attempt :=
  match attempt.claim, state with
  | some claim, .deadLetter => deadLettered claim
  | _, _ => released

/-- The result of a poll. -/
def ofClaim : Option OutboxClaim → Attempt
  | some claim => claimed claim
  | none => waiting

/-- A store call was committed. -/
def afterStore (attempt : Attempt) : (call : StoreCall) → call.Result → Attempt
  | .queueStats, _ => attempt
  | .claimNext, claim => ofClaim claim
  | .heartbeat _, _ => attempt
  | .succeed _, _ => released
  | .failRetryable _ _, state => attempt.afterFailure state
  | .failTerminal _ _, _ => released
  | .job _ (.markDeadLetter _), _ => released
  | .job _ _, job => attempt.withJob job

/-- The node answered. -/
def afterAnswer (attempt : Attempt) (exchange : Exchange) : Attempt :=
  match attempt with
  | working claim job answers => working claim job (exchange :: answers)
  | attempt => attempt

/-- The attempt after the answer to a call. -/
def next (attempt : Attempt) : (call : Call) → call.Answer → Attempt
  | .store call, result => attempt.afterStore call result
  | .rpc request, result => attempt.afterAnswer ⟨request, result⟩

end Attempt

/-! ## States -/

/-- A running `processNext`. -/
structure Thread where
  process : Process VerusWorkerResult
  inFlight : Bool
  attempt : Attempt

/-- What was done for an event, and in which of its attempts. -/
inductive Entry where
  /-- The event and its job were created. -/
  | enqueued (eventId : Uuid) (input : EnqueueVerusAnchorInput)
  /-- A request went to the node. -/
  | sent (eventId : Uuid) (attempt : ℕ) (request : Rpc)
  /-- The worker received the end of a request. -/
  | answered (eventId : Uuid) (attempt : ℕ) (exchange : Exchange)
  /-- An operation of the job store was committed. -/
  | stored (eventId : Uuid) (attempt : ℕ) (operation : JobOperation)

/-- The database, the runs of the workers `W` and the log. -/
structure System (W : Type) where
  db : Db
  threads : W → Option Thread
  log : List Entry

/-- What can happen next. -/
inductive Act (W : Type) where
  | enqueue (input : EnqueueVerusAnchorInput) (context : CommandContext)
  | timestamp (currentTimestamp : ℤ)
  | begin (w : W)
  | store (w : W) (observedAt : ℤ) (locked : List Uuid)
  | send (w : W)
  | receive (w : W) (node : (request : Rpc) → request.Result)
  | crash (w : W)

/-- An entry made inside an attempt on an event. -/
def Attempt.entry (attempt : Attempt) (make : Uuid → ℕ → Entry) : List Entry :=
  match attempt.claim with
  | some claim => [make claim.id claim.attempt]
  | none => []

/-- The entry of a committed store call. -/
def Attempt.storeEntry (attempt : Attempt) : StoreCall → List Entry
  | .job _ operation => attempt.entry fun eventId n => .stored eventId n operation
  | _ => []

/-- A program that goes on; a finished one ends its thread. -/
def Thread.resume (process : Process VerusWorkerResult) (attempt : Attempt) : Option Thread :=
  match process with
  | .done _ => none
  | .call _ _ => some { process, inFlight := false, attempt }

/-! ## Steps -/

namespace System

section Step

variable {W : Type} [DecidableEq W] [Host] (options : W → VerusAnchorWorkerOptions) (s : System W)

/-- `enqueueAnchor`; a replay creates nothing. -/
def enqueue (input : EnqueueVerusAnchorInput) (context : CommandContext) : System W :=
  match VerusJobRepository.enqueueAnchor input context s.db with
  | .ok (job, db) =>
    { s with
      db
      log := if (VerusJobRepository.existingJob s.db context).isNone then
          .enqueued job.outboxEventId input :: s.log
        else s.log }
  | .error _ => s

/-- A store call of a thread: a rejected one ends the run. -/
def storeStep (w : W) (observedAt : ℤ) (locked : List Uuid) (thread : Thread) : Option (System W) :=
  match thread.process with
  | .call (.store call) k =>
    match call.exec (options w) observedAt locked s.db with
    | .ok (result, db) => some
      { db
        threads := Function.update s.threads w
          (Thread.resume (k result) (thread.attempt.afterStore call result))
        log := thread.attempt.storeEntry call ++ s.log }
    | .error _ => some { s with threads := Function.update s.threads w none }
  | _ => none

/-- A request of a thread goes out. -/
def sendStep (w : W) (thread : Thread) : Option (System W) :=
  match thread.process, thread.inFlight with
  | .call (.rpc request) _, false => some
    { s with
      threads := Function.update s.threads w (some { thread with inFlight := true })
      log := thread.attempt.entry (fun eventId n => .sent eventId n request) ++ s.log }
  | _, _ => none

/-- The answer to a request arrives. -/
def receiveStep (w : W) (node : (request : Rpc) → request.Result) (thread : Thread) :
    Option (System W) :=
  match thread.process, thread.inFlight with
  | .call (.rpc request) k, true => some
    { s with
      threads := Function.update s.threads w
        (Thread.resume (k (node request)) (thread.attempt.afterAnswer ⟨request, node request⟩))
      log := thread.attempt.entry
        (fun eventId n => .answered eventId n ⟨request, node request⟩) ++ s.log }
  | _, _ => none

/-- One step of the system. -/
def step : Act W → Option (System W)
  | .enqueue input context => some (s.enqueue input context)
  | .timestamp currentTimestamp => some { s with db := { s.db with currentTimestamp } }
  | .begin w =>
    match s.threads w with
    | none => some
      { s with
        threads := Function.update s.threads w
          (Thread.resume (processNext (options w)) .waiting) }
    | some _ => none
  | .store w observedAt locked => (s.threads w).bind (s.storeStep options w observedAt locked)
  | .send w => (s.threads w).bind (s.sendStep w)
  | .receive w node => (s.threads w).bind (s.receiveStep w node)
  | .crash w => (s.threads w).map fun _ => { s with threads := Function.update s.threads w none }

end Step

/-- No job is enqueued yet and no worker runs. -/
structure Initial {W : Type} (s : System W) : Prop where
  ids : Table.Unique OutboxEvent.id s.db.outbox
  events : ∀ o ∈ s.db.outbox, o.eventType ≠ verusAnchorEventType
  jobs : s.db.jobs = []
  anchors : s.db.anchors = []
  threads : ∀ w, s.threads w = none
  log : s.log = []

end System

end ChecksAndBalances
