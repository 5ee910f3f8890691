import ChecksAndBalances.Db.VerusJobRepository
import ChecksAndBalances.Verus.Preflight
import ChecksAndBalances.Verus.Reconciliation

/-!
# The anchor worker

`VerusAnchorWorker` of `apps/worker/src/verus-worker.ts` as a program that calls its two stores and
the Verus adapter.  A store call that fails throws a repository error, which `processNext` never
catches, so a program only continues with the result of a committed call.  Metrics are left out.
-/

namespace ChecksAndBalances

open Lib

/-! ## Options -/

/-- `ApprovedVerusWriteTarget`. -/
structure ApprovedVerusWriteTarget where
  operationType : String
  targetIdentity : String
  vdxfUri : String
  vdxfKey : String
  manifestPolicyReference : String
  deriving DecidableEq

/-- `VerusAnchorWorkerOptions`, with the defaults of the constructor. -/
structure VerusAnchorWorkerOptions where
  worker : OutboxWorkerContext
  writeCapabilityEnabled : Bool
  approvedWriteTargets : List ApprovedVerusWriteTarget
  leaseDurationMs : ℤ := 60000
  retry : OutboxRepository.RetrySettings :=
    { maxAttempts := 8, baseBackoffMs := 5000, maxBackoffMs := 900000 }

/-- A write target that `main.ts` approves: a key of `CBC_VRSCTEST_NAMESPACE` under the owner
identity and `CBC_ANCHOR_MANIFEST_V1_POLICY`. -/
def approvedTarget (operationType vdxfUri vdxfKey : String) : ApprovedVerusWriteTarget :=
  { operationType, vdxfUri, vdxfKey
    targetIdentity := "iC7jT1JAJJZHrS4JnHRbgLn9qUQokMsedM"
    manifestPolicyReference := "cbc.anchor.manifest.v1" }

/-- The worker that `main.ts` configures in the process `pid`. -/
def mainWorkerOptions (pid : ℕ) (writeCapabilityEnabled : Bool) : VerusAnchorWorkerOptions :=
  { worker :=
      { workerReference := "worker_verus_" ++ toString pid
        softwareVersion := "0.0.0"
        correlationId := "worker_process_" ++ toString pid }
    writeCapabilityEnabled
    approvedWriteTargets := [
      approvedTarget "schema_anchor" "cbc-protocol-test.VRSCTEST::v1.anchor.schema"
        "iQxTRgN4ZaYQcWAspPfsNS5YFHTEahLgEP",
      approvedTarget "policy_anchor" "cbc-protocol-test.VRSCTEST::v1.anchor.policy"
        "iQ5w3DRVthprX1NriFaSbKumMUpe9nyUAX",
      approvedTarget "cycle_report_anchor" "cbc-protocol-test.VRSCTEST::v1.anchor.cycle_report"
        "iJLfbKwekbK8PoNCmDjJr7dXdcFL82ygRC"] }

/-- `VerusWorkerResult`. -/
inductive VerusWorkerResult where
  | paused
  | idle
  | verified
  | retryableFailed
  | terminalFailed
  | deadLetter
  | reorgPending
  deriving DecidableEq, Repr

/-! ## Calls -/

/-- The methods of `VerusJobStore`. -/
inductive JobOperation where
  | loadForClaim
  | claim
  | beginPreflight
  | recordSubmission (transactionId : String)
  | beginConfirmation
  | beginReadback (blockHeight : ℤ) (blockHash : String)
  | verifyReadback (digest : String)
  | retryableFailure (errorClass : String) (submissionAmbiguous : Bool)
  | terminalFailure (errorClass : String)
  | markDeadLetter (errorClass : String)
  | reorg

/-- The state of the record that the method returns; a load returns the stored one. -/
def JobOperation.next : JobOperation → Option VerusJobState
  | loadForClaim => none
  | claim => some .claimed
  | beginPreflight => some .preflight
  | recordSubmission _ => some .submitted
  | beginConfirmation => some .confirming
  | beginReadback _ _ => some .readback
  | verifyReadback _ => some .verified
  | retryableFailure _ _ => some .retryableFailed
  | terminalFailure _ => some .terminalFailed
  | markDeadLetter _ => some .terminalFailed
  | reorg => some .reorgPending

/-- The methods of `VerusOutboxStore` and `VerusJobStore`. -/
inductive StoreCall where
  | queueStats
  | claimNext
  | heartbeat (eventId : Uuid)
  | succeed (eventId : Uuid)
  | failRetryable (eventId : Uuid) (errorClass : String)
  | failTerminal (eventId : Uuid) (errorClass : String)
  | job (eventId : Uuid) (operation : JobOperation)

/-- The type of the result. -/
def StoreCall.Result : StoreCall → Type
  | queueStats => OutboxRepository.OutboxQueueStats
  | claimNext => Option OutboxRepository.OutboxClaim
  | heartbeat _ => ℤ
  | succeed _ => Unit
  | failRetryable _ _ => OutboxState
  | failTerminal _ _ => Unit
  | job _ _ => VerusJobRecord

/-- The calls of a worker. -/
inductive Call where
  | store (call : StoreCall)
  | rpc (request : Rpc)

/-- What a call returns. -/
def Call.Answer : Call → Type
  | store call => call.Result
  | rpc request => request.Result

/-- A program of a worker. -/
abbrev Process := Program Call Call.Answer

/-- A part of `processNext` that may throw a `VerusIntegrationError`. -/
abbrev Stage := ExceptT VerusIntegrationError Process

/-- A call to a store. -/
def store (call : StoreCall) : Process call.Result := Program.request (Call.store call)

/-- A call to the job store. -/
def storeJob (eventId : Uuid) (operation : JobOperation) : Process VerusJobRecord :=
  store (.job eventId operation)

namespace Stage

variable {α : Type}

/-- A store call of a stage. -/
def ofProcess (process : Process α) : Stage α := ExceptT.lift process

/-- A conversation with the node. -/
def ofAdapter (x : Adapter α) : Stage α := ExceptT.mk (Program.embed Call.rpc x.run)

/-- A computation without calls. -/
def ofExcept (x : Except VerusIntegrationError α) : Stage α := Program.ofExcept x

/-- Throw unless the condition holds. -/
def check (condition : Bool) (error : VerusIntegrationError) : Stage Unit :=
  ofExcept (if condition then .ok () else .error error)

end Stage

/-! ## The methods of the worker -/

section Worker

variable [Host] (options : VerusAnchorWorkerOptions)

/-- `heartbeat`. -/
def heartbeat (eventId : Uuid) : Stage Unit := Stage.ofProcess do
  let _ ← store (.heartbeat eventId)

/-- The job matches an approved write target. -/
def approvedTargets (job : VerusJobRecord) : Bool :=
  options.approvedWriteTargets.any fun target =>
    target.operationType = job.operationType && target.targetIdentity = job.targetIdentity &&
      target.vdxfUri = job.vdxfUri && target.vdxfKey = job.vdxfKey &&
      target.manifestPolicyReference = job.manifestPolicyReference

/-- The policy of `preflightAndSubmit`. -/
def preflightPolicy (job : VerusJobRecord) : VerusWritePreflightPolicy :=
  { serverSelectedNetwork := "VRSCTEST"
    expectedChainId := vrsctestChainId
    expectedIdentity := some
      { identityAddress := job.targetIdentity
        systemId := vrsctestChainId
        allowedStatuses := ["active"]
        mustBeSignableByNode := true }
    expectedVdxf := some { uri := job.vdxfUri, vdxfId := job.vdxfKey }
    writeCapabilityEnabled := options.writeCapabilityEnabled }

/-- The transaction of the job that is known before a write: the stored one, or what the search
after an ambiguous submission finds.  An empty identifier counts as none. -/
def knownTransactionId (job : VerusJobRecord) : Stage (Option String) :=
  match VerusJobRepository.present job.transactionId with
  | some transactionId => pure (some transactionId)
  | none =>
    if job.submissionAmbiguous then do
      match ← Stage.ofAdapter (findReadbackEvidenceBeforeResubmission job.targetIdentity job.vdxfKey
        job.manifestDigest) with
      | none =>
        throw
          { code := .ambiguousSubmission
            message :=
              "Ambiguous Verus submission was not found by readback; automatic resubmission is blocked"
            retryable := true, submissionAmbiguous := true }
      | some (transactionId, _) => return VerusJobRepository.present (some transactionId)
    else pure none

/-- The write, unless the transaction is known. -/
def submitUnlessKnown (job : VerusJobRecord) (identity : VerusIdentityResult)
    (payload : CanonicalPayload) : Option String → Stage String
  | some transactionId => pure transactionId
  | none => do
    let update ← Stage.ofExcept
      (prepareIdentityContentUpdate identity.identity job.vdxfKey payload)
    let transactionId ← Stage.ofAdapter (ask (.updateIdentity update))
    return transactionId.val

/-- The stored policy of the manifest. -/
def payloadPolicy (job : VerusJobRecord) : CanonicalPayloadPolicy :=
  { policyReference := job.manifestPolicyReference
    allowedTopLevelFields := job.manifestAllowedFields
    requiredTopLevelFields := job.manifestRequiredFields
    maximumBytes := job.manifestMaximumBytes }

/-- The payload is the stored canonical manifest. -/
def payloadMatches (job : VerusJobRecord) (payload : CanonicalPayload) : Bool :=
  payload.digest = job.manifestDigest && decodeText payload.bytes = some job.manifestCanonical

/-- `preflightAndSubmit`. -/
def preflightAndSubmit (eventId : Uuid) (job : VerusJobRecord) : Stage VerusJobRecord := do
  heartbeat eventId
  Stage.check (approvedTargets options job)
    { code := .payloadForbidden
      message := "Verus job does not match an approved server write target"
      retryable := false }
  let payload ← Stage.ofExcept (prepareCanonicalPayload job.manifest (payloadPolicy job))
  Stage.check (payloadMatches job payload)
    { code := .payloadForbidden
      message := "Persisted manifest does not match its immutable canonical policy snapshot"
      retryable := false }
  let preflight ← Stage.ofAdapter (runVerusWritePreflight (preflightPolicy options job))
  let identity ← Stage.ofExcept (match preflight.identity with
    | some identity => .ok identity
    | none => .error
      { code := .identityStateInvalid, message := "Preflight identity is absent"
        retryable := false })
  let known ← knownTransactionId job
  let transactionId ← submitUnlessKnown job identity payload known
  Stage.ofProcess (storeJob eventId (.recordSubmission transactionId))

/-- `requireTransactionId`. -/
def requireTransactionId (job : VerusJobRecord) : Stage String :=
  Stage.ofExcept (match VerusJobRepository.present job.transactionId with
    | some transactionId => .ok transactionId
    | none => .error
      { code := .rpcInvalidResult, message := "Submitted Verus job has no transaction ID"
        retryable := false })

/-- The confirmation stage of `processNext`; no record is left after a reorganization. -/
def confirm (eventId : Uuid) (job : VerusJobRecord) : Stage (Option VerusJobRecord) := do
  heartbeat eventId
  let transactionId ← requireTransactionId job
  match ← Stage.ofAdapter
    (inspectTransactionConfirmation transactionId job.confirmationRequirement) with
  | .confirming _ =>
    throw
      { code := .confirmationPending
        message := "Verus transaction has not reached the configured confirmation requirement"
        retryable := true }
  | .reorgPending _ _ => do
    let _ ← Stage.ofProcess (storeJob eventId .reorg)
    return none
  | .confirmed _ blockHeight blockHash => do
    let job ← Stage.ofProcess (storeJob eventId (.beginReadback blockHeight blockHash))
    return some job

/-- The readback stage of `processNext`. -/
def readback (eventId : Uuid) (job : VerusJobRecord) : Stage VerusJobRecord := do
  heartbeat eventId
  match ← Stage.ofAdapter
    (verifyIdentityContentReadback job.targetIdentity job.vdxfKey job.manifestDigest) with
  | .mismatch _ =>
    throw
      { code := .readbackMismatch
        message := "Verus identity readback did not contain the exact canonical manifest digest"
        retryable := false }
  | .verified digest => Stage.ofProcess (storeJob eventId (.verifyReadback digest))

/-- `failOutboxRetryable`. -/
def failOutboxRetryable (eventId : Uuid) (errorClass : String)
    (nonExhaustedResult : VerusWorkerResult) : Process VerusWorkerResult := do
  match ← store (.failRetryable eventId errorClass) with
  | .deadLetter => do
    let _ ← storeJob eventId (.markDeadLetter errorClass)
    return .deadLetter
  | _ => return nonExhaustedResult

/-- A transition of the job that is made in some states only. -/
def recordWhen (states : List VerusJobState) (state : VerusJobState) (eventId : Uuid)
    (operation : JobOperation) : Process Unit :=
  if state ∈ states then do
    let _ ← storeJob eventId operation
  else pure ()

/-- `handleFailure`. -/
def handleFailure (eventId : Uuid) (state : VerusJobState) (error : VerusIntegrationError) :
    Process VerusWorkerResult :=
  if error.retryable then do
    recordWhen [.preflight, .submitted, .confirming, .readback] state eventId
      (.retryableFailure error.code.errorClass error.submissionAmbiguous)
    failOutboxRetryable eventId error.code.errorClass .retryableFailed
  else do
    recordWhen [.preflight, .submitted, .confirming, .readback, .retryableFailed] state eventId
      (.terminalFailure error.code.errorClass)
    store (.failTerminal eventId error.code.errorClass)
    return .terminalFailed

/-- How the `try` block of `processNext` is left early. -/
inductive Exit where
  /-- An integration error, with the state of the job record at that point. -/
  | thrown (state : VerusJobState) (error : VerusIntegrationError)
  /-- A reorganization was recorded. -/
  | reorg

/-- The `try` block of `processNext`. -/
abbrev Attempting := ExceptT Exit Process

/-- Run a stage on a record in one of the states, and pass any other record on. -/
def stage (states : List VerusJobState) (run : VerusJobRecord → Stage VerusJobRecord)
    (job : VerusJobRecord) : Attempting VerusJobRecord :=
  if job.state ∈ states then ExceptT.mk do
    let result ← (run job).run
    return result.mapError (.thrown job.state)
  else pure job

/-- The confirmation stage, which a reorganization leaves. -/
def confirmationStage (eventId : Uuid) (job : VerusJobRecord) : Attempting VerusJobRecord :=
  if job.state = .confirming then ExceptT.mk do
    match ← (confirm eventId job).run with
    | .ok (some job) => return .ok job
    | .ok none => return .error .reorg
    | .error error => return .error (.thrown job.state error)
  else pure job

/-- The body of the `try` block, after the job was loaded. -/
def attempt (eventId : Uuid) (job : VerusJobRecord) : Attempting Unit := do
  let job ← stage [.pending, .retryableFailed, .reorgPending]
    (fun _ => Stage.ofProcess (storeJob eventId .claim)) job
  let job ← stage [.claimed] (fun _ => Stage.ofProcess (storeJob eventId .beginPreflight)) job
  let job ← stage [.preflight] (preflightAndSubmit options eventId) job
  let job ← stage [.submitted]
    (fun _ => do
      heartbeat eventId
      Stage.ofProcess (storeJob eventId .beginConfirmation)) job
  let job ← confirmationStage eventId job
  let job ← stage [.readback] (readback eventId) job
  Program.ofExcept (if job.state = .verified then .ok () else .error (.thrown job.state
    { code := .rpcInvalidResult, message := "Verus job stopped in an invalid state"
      retryable := false }))

/-- The part of `processNext` after the claim. -/
def processClaim (eventId : Uuid) : Process VerusWorkerResult := do
  let _ ← store .queueStats
  let job ← storeJob eventId .loadForClaim
  match ← (attempt options eventId job).run with
  | .ok () => do
    store (.succeed eventId)
    return .verified
  | .error .reorg => failOutboxRetryable eventId "reorg_detected" .reorgPending
  | .error (.thrown state error) => handleFailure eventId state error

/-- `processNext`. -/
def processNext : Process VerusWorkerResult := do
  let _ ← store .queueStats
  if options.writeCapabilityEnabled then do
    match ← store .claimNext with
    | none => return .idle
    | some claim => processClaim options claim.id
  else return .paused

end Worker

/-! ## The stores -/

namespace JobOperation

open VerusJobRepository in
/-- The transaction of a method of the job store. -/
def exec (eventId : Uuid) (worker : OutboxWorkerContext) (observedAt : ℤ) :
    JobOperation → DbTx VerusJobRecord
  | loadForClaim => VerusJobRepository.loadForClaim eventId worker observedAt
  | claim => VerusJobRepository.claim eventId worker observedAt
  | beginPreflight => VerusJobRepository.beginPreflight eventId worker observedAt
  | recordSubmission transactionId =>
    VerusJobRepository.recordSubmission eventId worker observedAt transactionId
  | beginConfirmation => VerusJobRepository.beginConfirmation eventId worker observedAt
  | beginReadback blockHeight blockHash =>
    VerusJobRepository.beginReadback eventId worker observedAt blockHeight blockHash
  | verifyReadback digest => VerusJobRepository.verifyReadback eventId worker observedAt digest
  | retryableFailure errorClass submissionAmbiguous =>
    VerusJobRepository.retryableFailure eventId worker observedAt errorClass submissionAmbiguous
  | terminalFailure errorClass =>
    VerusJobRepository.terminalFailure eventId worker observedAt errorClass
  | markDeadLetter errorClass =>
    VerusJobRepository.markDeadLetter eventId worker observedAt errorClass
  | reorg => VerusJobRepository.reorg eventId worker observedAt

end JobOperation

namespace StoreCall

open OutboxRepository in
/-- The transaction of a store call at the time the worker observes; `locked` are the rows that other
transactions hold when it polls. -/
def exec (options : VerusAnchorWorkerOptions) (observedAt : ℤ) (locked : List Uuid) :
    (call : StoreCall) → DbTx call.Result
  | queueStats => OutboxRepository.queueStats observedAt (some [verusAnchorEventType])
  | claimNext => OutboxRepository.claimNext options.worker observedAt options.leaseDurationMs
      { eventTypes := some [verusAnchorEventType], singleWriterByAggregate := true } locked
  | heartbeat eventId =>
    OutboxRepository.heartbeat eventId options.worker observedAt options.leaseDurationMs
  | succeed eventId => OutboxRepository.succeed eventId options.worker observedAt
  | failRetryable eventId errorClass =>
    OutboxRepository.failRetryable eventId options.worker observedAt options.retry errorClass
  | failTerminal eventId errorClass =>
    OutboxRepository.failTerminal eventId options.worker observedAt errorClass
  | job eventId operation => operation.exec eventId options.worker observedAt

end StoreCall

end ChecksAndBalances
