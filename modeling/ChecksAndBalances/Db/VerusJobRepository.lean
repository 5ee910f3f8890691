import ChecksAndBalances.Db.Idempotency
import ChecksAndBalances.Db.OutboxRepository

/-!
# Verus jobs

`VerusJobRepository` of `packages/db/src/verus-job-repository.ts`, over the constraints and triggers
of `verus_job` and `anchor_record`.  The nullable columns of rows older than the worker migration
are not modelled: `enqueueAnchor` fills every one of them.
-/

namespace ChecksAndBalances

open Lib Lib.Tx

/-- `VERUS_ANCHOR_EVENT_TYPE`. -/
def verusAnchorEventType : String := "verus.anchor.requested"

/-- `VRSCTEST_CHAIN_ID`. -/
def vrsctestChainId : String := "iJhCezBExJHvtyH3fGhNnt2NhU4Ztkf2yq"

/-! ## Constraints and triggers -/

/-- `cbc_guard_verus_job_transition`. -/
def verusJobTransitionAllowed (old new : VerusJobState) : Bool :=
  (old ∈ [VerusJobState.pending, .retryableFailed, .reorgPending] && new = .claimed) ||
    (old = .claimed && new = .preflight) ||
    (old = .preflight && new ∈ [VerusJobState.submitted, .retryableFailed, .terminalFailed]) ||
    (old = .submitted && new ∈ [VerusJobState.confirming, .retryableFailed, .terminalFailed]) ||
    (old = .confirming &&
      new ∈ [VerusJobState.readback, .retryableFailed, .terminalFailed, .reorgPending]) ||
    (old = .readback &&
      new ∈ [VerusJobState.verified, .retryableFailed, .terminalFailed, .reorgPending]) ||
    (old ∈ [VerusJobState.retryableFailed, .reorgPending] && new = .terminalFailed)

/-- `verus_job_verified_evidence_complete`. -/
def VerusJobRow.evidenceComplete (row : VerusJobRow) : Bool :=
  row.state ≠ .verified || (row.transactionId.isSome && row.blockHeight.isSome &&
    row.blockHash.isSome && row.readbackDigest = some row.manifestDigest && row.readbackAt.isSome)

/-- `verus_job_ambiguous_state_valid`. -/
def VerusJobRow.ambiguousStateValid (row : VerusJobRow) : Bool :=
  !row.submissionAmbiguous ||
    row.state ∈ [VerusJobState.retryableFailed, .claimed, .preflight]

/-- The triggers and constraints on an update of `verus_job`; the repository never writes the columns
that `cbc_guard_verus_job_identity` protects. -/
def guardVerusJobUpdate (old new : VerusJobRow) : Except RepositoryError Unit :=
  if new.version ≠ old.version + 1 then .error (.raised "Verus job version conflict")
  else if !verusJobTransitionAllowed old.state new.state then
    .error (.raised ("invalid Verus job transition: " ++ old.state.name ++ " -> " ++
      new.state.name))
  else if new.blockHeight.any (fun n => n < 0) then
    .error (.checkViolation "verus_job_block_height_nonnegative")
  else if !new.evidenceComplete then
    .error (.checkViolation "verus_job_verified_evidence_complete")
  else if !new.ambiguousStateValid then .error (.checkViolation "verus_job_ambiguous_state_valid")
  else .ok ()

/-- `cbc_guard_anchor_transition`. -/
def anchorTransitionAllowed (old new : AnchorState) : Bool :=
  (old ∈ [AnchorState.pending, .retryableFailed, .reorgPending] &&
      new ∈ [AnchorState.submitted, .retryableFailed, .terminalFailed]) ||
    (old = .submitted && new ∈ [AnchorState.confirming, .retryableFailed, .terminalFailed]) ||
    (old = .confirming &&
      new ∈ [AnchorState.readback, .retryableFailed, .terminalFailed, .reorgPending]) ||
    (old = .readback &&
      new ∈ [AnchorState.verified, .retryableFailed, .terminalFailed, .reorgPending]) ||
    (old = .retryableFailed && new = .terminalFailed)

/-- The triggers and constraints on an update of `anchor_record`. -/
def guardAnchorUpdate (old new : AnchorRecord) : Except RepositoryError Unit :=
  if new.version ≠ old.version + 1 then .error (.raised "anchor version conflict")
  else if !anchorTransitionAllowed old.state new.state then
    .error (.raised ("invalid anchor transition: " ++ old.state.name ++ " -> " ++ new.state.name))
  else if new.blockHeight.any (fun n => n < 0) then
    .error (.checkViolation "anchor_block_height_nonnegative")
  else .ok ()

/-- The anchor state that a job state is synchronized to. -/
def VerusJobState.anchorState : VerusJobState → Option AnchorState
  | pending => some .pending
  | claimed => none
  | preflight => none
  | submitted => some .submitted
  | confirming => some .confirming
  | readback => some .readback
  | verified => some .verified
  | retryableFailed => some .retryableFailed
  | terminalFailed => some .terminalFailed
  | reorgPending => some .reorgPending

/-- `VerusJobRecord`. -/
structure VerusJobRecord extends VerusJobCore where
  committeeReference : Option String

/-- `EnqueueVerusAnchorInput`. -/
structure EnqueueVerusAnchorInput extends VerusManifest where
  externalReference : String
  committeeReference : Option String

/-- `TransitionEvidence`. -/
structure TransitionEvidence where
  transactionId : Option String := none
  blockHeight : Option ℤ := none
  blockHash : Option String := none
  readbackDigest : Option String := none
  submissionAmbiguous : Option Bool := none
  errorClass : Option String := none
  submittedAt : Option ℤ := none
  confirmedAt : Option ℤ := none
  readbackAt : Option ℤ := none
  reorgDetectedAt : Option ℤ := none

namespace VerusJobRepository

/-! ## Validation -/

/-- The check of an operation type, `^[a-z][a-z0-9_.-]{2,63}$`. -/
def isOperationType (value : String) : Bool :=
  matchesCode isLower (fun c => isLower c || isDigit c || c == '_' || c == '.' || c == '-') 2 63 value

/-- The check of a field name, `^[a-z][a-zA-Z0-9_]{0,63}$`. -/
def isFieldName (value : String) : Bool :=
  matchesCode isLower (fun c => isLower c || isUpper c || isDigit c || c == '_') 0 63 value

/-- The check of a VDXF URI, `^\S{3,256}$`. -/
def isVdxfUri (value : String) : Bool :=
  3 ≤ (utf16 value).length && (utf16 value).length ≤ 256 && value.toList.all fun c => !isJsSpace c

/-- `validateEvidence`. -/
def validateEvidence (evidence : TransitionEvidence) : DbTx Unit := do
  require (evidence.transactionId.all isHex64 = true ∧ evidence.blockHash.all isHex64 = true ∧
    evidence.readbackDigest.all isHex64 = true)
    (.conflict "Verus evidence must be lowercase 32-byte hex")
  require (evidence.blockHeight.all (fun n => isSafeInteger n && 0 ≤ n) = true)
    (.conflict "Verus block height is invalid")
  require (evidence.errorClass.all isErrorClass = true)
    (.conflict "Verus error class must be a stable code")

/-- `rejectSensitiveManifestFields`. -/
def rejectSensitiveManifestFields (manifest : JsonObject) : Except RepositoryError Unit :=
  match (Json.obj manifest).rejectFields 0 with
  | .ok () => .ok ()
  | .error .nesting => .error (.conflict "manifest nesting exceeds the server limit")
  | .error .prohibited => .error (.conflict "manifest contains a prohibited private field")

section Validate

variable [Host]

/-- The checks of `validateInput` on the manifest. -/
def validateManifest (input : EnqueueVerusAnchorInput) : DbTx Unit := do
  require (isHex64 input.manifestDigest = true)
    (.conflict "manifest digest must be lowercase SHA-256")
  require (sha256 input.manifestCanonical = input.manifestDigest)
    (.conflict "canonical manifest does not match its digest")
  let canonicalValue ← found (Host.jsonParse input.manifestCanonical)
    (.conflict "canonical manifest must be valid JSON")
  require (canonicalValue.deepEqual (.obj input.manifest) = true)
    (.conflict "canonical manifest does not match the persisted manifest")
  require (1 ≤ input.manifestMaximumBytes ∧ input.manifestMaximumBytes ≤ 1048576 ∧
    (encodeUtf8 input.manifestCanonical).length ≤ input.manifestMaximumBytes)
    (.conflict "manifest exceeds its server-selected byte limit")
  require (1 ≤ input.confirmationRequirement ∧ input.confirmationRequirement ≤ 1000)
    (.conflict "confirmation requirement is invalid")
  require ((input.manifestAllowedFields ++ input.manifestRequiredFields).all isFieldName = true)
    (.conflict "manifest field policy contains an invalid name")
  require ((∀ field ∈ input.manifest.keys, field ∈ input.manifestAllowedFields) ∧
    ∀ field ∈ input.manifestRequiredFields, field ∈ input.manifest.keys)
    (.conflict "manifest violates its server-selected field policy")
  lift id (rejectSensitiveManifestFields input.manifest)

/-- `validateInput`. -/
def validateInput (input : EnqueueVerusAnchorInput) (context : CommandContext) : DbTx Unit := do
  requireOpaqueReference input.externalReference "anchor reference"
  requireOpaqueReference input.subjectReference "subject reference"
  require (isOperationType input.operationType = true)
    (.conflict "operation type must be a stable code")
  require (isIAddress input.targetIdentity = true) (.conflict "target identity must be an i-address")
  require (isIAddress input.vdxfKey = true) (.conflict "VDXF key must be an i-address")
  require (isVdxfUri input.vdxfUri = true) (.conflict "VDXF URI must be a bounded server value")
  validateManifest input
  require (context.requestDigest = input.manifestDigest)
    (.conflict "command digest does not match the manifest")
  require (context.policyVersionReference = input.manifestPolicyReference)
    (.conflict "command policy does not match the manifest policy")
  require (context.committeeReference =
    input.committeeReference.getD "global_synthetic_scope")
    (.conflict "command tenant does not match the Verus job tenant")

end Validate

/-! ## Records -/

/-- An empty text column counts as missing. -/
def present (value : Option String) : Option String := value.filter fun s => s != ""

/-- The reference of the committee joined to a job. -/
def committeeReference (db : Db) (row : VerusJobRow) : Option String :=
  row.committeeId.bind fun id =>
    (db.committees.find? fun c => c.id = id).map Committee.externalReference

/-- `toRecord`. -/
def toRecord (db : Db) (row : VerusJobRow) : Except RepositoryError VerusJobRecord :=
  if row.targetIdentity = "" ∨ row.vdxfUri = "" ∨ row.manifestCanonical = "" ∨
      row.manifestPolicyReference = "" then
    .error (.conflict "Verus job is missing its immutable policy snapshot")
  else if row.blockHeight.any (fun n => !isSafeInteger n) then
    .error (.conflict "Verus block height is outside the safe integer range")
  else .ok
    { row.toVerusJobCore with
      transactionId := present row.transactionId
      blockHash := present row.blockHash
      readbackDigest := present row.readbackDigest
      lastErrorClass := present row.lastErrorClass
      committeeReference := present (committeeReference db row) }

/-- `load`. -/
def load (outboxEventId : Uuid) : DbTx VerusJobRecord := do
  let db ← get
  let row ← found (db.jobs.find? fun j => j.outboxEventId = outboxEventId)
    (.conflict "Verus job does not exist")
  lift id (toRecord db row)

/-- `requireLease`. -/
def requireLease (outboxEventId : Uuid) (worker : OutboxWorkerContext) (observedAt : ℤ) :
    DbTx Unit := do
  let db ← get
  require (db.outbox.any (fun o => o.id = outboxEventId && o.eventType = verusAnchorEventType &&
      o.state = .claimed && o.leaseOwner = some worker.workerReference &&
      o.leaseExpiresAt.any fun t => observedAt < t) = true)
    (.conflict "Verus worker lease is not active")

/-- `workerContext`. -/
def workerContext (worker : OutboxWorkerContext) (job : VerusJobRecord) (next : VerusJobState) :
    CommandContext :=
  { actor :=
      { type := "worker", reference := worker.workerReference
        authenticationStrength := "internal_worker" }
    committeeReference := job.committeeReference.getD "global_synthetic_scope"
    policyVersionReference := job.manifestPolicyReference
    softwareVersion := worker.softwareVersion
    reasonCategory := job.lastErrorClass.getD ("verus_" ++ next.name)
    correlationId := worker.correlationId
    idempotencyKey := toString job.id ++ ":" ++ toString job.version ++ ":" ++ next.name
    requestDigest := job.manifestDigest }

/-- `committeeId`. -/
def jobCommitteeId (db : Db) (outboxEventId : Uuid) : Option Uuid :=
  (db.jobs.find? fun j => j.outboxEventId = outboxEventId).bind VerusJobRow.committeeId

/-- `loadForClaim`. -/
def loadForClaim (outboxEventId : Uuid) (worker : OutboxWorkerContext) (observedAt : ℤ) :
    DbTx VerusJobRecord := do
  requireLease outboxEventId worker observedAt
  load outboxEventId

/-! ## Transitions -/

/-- The row after a transition. -/
def moved (next : VerusJobState) (evidence : TransitionEvidence) (observedAt : ℤ)
    (row : VerusJobRow) : VerusJobRow :=
  { row with
    state := next
    transactionId := evidence.transactionId <|> row.transactionId
    blockHeight := evidence.blockHeight <|> row.blockHeight
    blockHash := evidence.blockHash <|> row.blockHash
    readbackDigest := evidence.readbackDigest <|> row.readbackDigest
    submissionAmbiguous := evidence.submissionAmbiguous.getD row.submissionAmbiguous
    lastErrorClass := evidence.errorClass
    submittedAt := evidence.submittedAt <|> row.submittedAt
    confirmedAt := evidence.confirmedAt <|> row.confirmedAt
    readbackAt := evidence.readbackAt <|> row.readbackAt
    reorgDetectedAt := evidence.reorgDetectedAt <|> row.reorgDetectedAt
    version := row.version + 1
    updatedAt := observedAt }

/-- `UPDATE "verus_job" … WHERE "outbox_event_id" = $13 AND "version" = $14`; the value is the number
of rows changed. -/
def updateJob (outboxEventId : Uuid) (version : ℕ) (f : VerusJobRow → VerusJobRow) : DbTx ℕ := do
  let db ← get
  let jobs ← lift id (Table.update (fun j => j.outboxEventId = outboxEventId && j.version = version)
    f guardVerusJobUpdate db.jobs)
  modify fun db => { db with jobs }
  return db.jobs.countP fun j => j.outboxEventId = outboxEventId && j.version = version

/-- The anchor record after a transition. -/
def movedAnchor (state : AnchorState) (evidence : TransitionEvidence) (observedAt : ℤ)
    (anchor : AnchorRecord) : AnchorRecord :=
  { anchor with
    state
    transactionId := evidence.transactionId <|> anchor.transactionId
    blockHeight := evidence.blockHeight <|> anchor.blockHeight
    blockHash := evidence.blockHash <|> anchor.blockHash
    readbackDigest := evidence.readbackDigest <|> anchor.readbackDigest
    version := anchor.version + 1
    updatedAt := observedAt }

/-- `transitionAnchor`. -/
def transitionAnchor (outboxEventId : Uuid) (next : VerusJobState) (evidence : TransitionEvidence)
    (observedAt : ℤ) : DbTx Unit :=
  match next.anchorState with
  | none => pure ()
  | some state => do
    let db ← get
    let anchors ← lift id (Table.update (fun a => a.outboxEventId = outboxEventId)
      (movedAnchor state evidence observedAt) guardAnchorUpdate db.anchors)
    modify fun db => { db with anchors }
    require (db.anchors.countP (fun a => a.outboxEventId = outboxEventId) = 1)
      (.conflict "Verus anchor record is missing or conflicted")

/-- `if (syncAnchor) await this.transitionAnchor(…)`. -/
def synchronizeAnchor (syncAnchor : Bool) (outboxEventId : Uuid) (next : VerusJobState)
    (evidence : TransitionEvidence) (observedAt : ℤ) : DbTx Unit :=
  if syncAnchor then transitionAnchor outboxEventId next evidence observedAt else pure ()

/-- The audit event of a transition. -/
def auditTransition (worker : OutboxWorkerContext) (outboxEventId : Uuid) (before : VerusJobRecord)
    (command : String) (next : VerusJobState) (result : AuditResult) : DbTx Unit := do
  let db ← get
  let _ ← appendAudit (workerContext worker before next) (jobCommitteeId db outboxEventId) command
    { type := "verus_job", reference := toString before.id
      priorState := some before.state.name, newState := some next.name } result

/-- `next.endsWith("failed") ? "failed" : "succeeded"`. -/
def transitionResult : VerusJobState → AuditResult
  | .retryableFailed => .failed
  | .terminalFailed => .failed
  | _ => .succeeded

/-- `transition`. -/
def transition (outboxEventId : Uuid) (worker : OutboxWorkerContext) (observedAt : ℤ)
    (expected : List VerusJobState) (next : VerusJobState) (evidence : TransitionEvidence)
    (syncAnchor : Bool) : DbTx VerusJobRecord := do
  validateEvidence evidence
  requireLease outboxEventId worker observedAt
  let before ← load outboxEventId
  require (before.state ∈ expected)
    (.conflict ("Verus job cannot move from " ++ before.state.name ++ " to " ++ next.name))
  let changed ← updateJob outboxEventId before.version (moved next evidence observedAt)
  require (changed = 1) (.conflict "Verus job version conflict")
  synchronizeAnchor syncAnchor outboxEventId next evidence observedAt
  auditTransition worker outboxEventId before ("transitionVerusJob:" ++ next.name) next
    (transitionResult next)
  load outboxEventId

section Methods

variable (id : Uuid) (worker : OutboxWorkerContext) (observedAt : ℤ)

/-- `claim`. -/
def claim : DbTx VerusJobRecord :=
  transition id worker observedAt [.pending, .retryableFailed, .reorgPending] .claimed {} false

/-- `beginPreflight`. -/
def beginPreflight : DbTx VerusJobRecord :=
  transition id worker observedAt [.claimed] .preflight {} false

/-- `recordSubmission`. -/
def recordSubmission (transactionId : String) : DbTx VerusJobRecord :=
  transition id worker observedAt [.preflight] .submitted
    { transactionId := some transactionId, submittedAt := some observedAt
      submissionAmbiguous := some false } true

/-- `beginConfirmation`. -/
def beginConfirmation : DbTx VerusJobRecord :=
  transition id worker observedAt [.submitted] .confirming {} true

/-- `beginReadback`. -/
def beginReadback (blockHeight : ℤ) (blockHash : String) : DbTx VerusJobRecord :=
  transition id worker observedAt [.confirming] .readback
    { blockHeight := some blockHeight, blockHash := some blockHash
      confirmedAt := some observedAt } true

/-- `verifyReadback`. -/
def verifyReadback (digest : String) : DbTx VerusJobRecord :=
  transition id worker observedAt [.readback] .verified
    { readbackDigest := some digest, readbackAt := some observedAt } true

/-- `retryableFailure`. -/
def retryableFailure (errorClass : String) (submissionAmbiguous : Bool) : DbTx VerusJobRecord :=
  transition id worker observedAt [.preflight, .submitted, .confirming, .readback] .retryableFailed
    { errorClass := some errorClass, submissionAmbiguous := some submissionAmbiguous } true

/-- `terminalFailure`. -/
def terminalFailure (errorClass : String) : DbTx VerusJobRecord :=
  transition id worker observedAt
    [.preflight, .submitted, .confirming, .readback, .retryableFailed] .terminalFailed
    { errorClass := some errorClass, submissionAmbiguous := some false } true

/-- `reorg`. -/
def reorg : DbTx VerusJobRecord :=
  transition id worker observedAt [.confirming, .readback] .reorgPending
    { errorClass := some "reorg_detected", reorgDetectedAt := some observedAt } true

/-- The row of a dead letter. -/
def deadLettered (errorClass : String) (row : VerusJobRow) : VerusJobRow :=
  { row with
    state := .terminalFailed
    lastErrorClass := some errorClass
    submissionAmbiguous := false
    version := row.version + 1
    updatedAt := observedAt }

/-- `markDeadLetter`. -/
def markDeadLetter (errorClass : String) : DbTx VerusJobRecord := do
  validateEvidence { errorClass := some errorClass }
  let db ← get
  require (db.outbox.any (fun o => o.id = id && o.eventType = verusAnchorEventType &&
      o.state = .deadLetter && db.attempts.any fun a => a.outboxEventId = o.id &&
        a.attempt = o.attemptCount && a.worker = worker.workerReference) = true)
    (.conflict "Verus dead letter is not owned by this attempt")
  let before ← load id
  require (before.state = .retryableFailed ∨ before.state = .reorgPending)
    (.conflict "only a retryable or reorg Verus job can be dead-lettered")
  let _ ← updateJob id before.version (deadLettered observedAt errorClass)
  transitionAnchor id .terminalFailed {} observedAt
  auditTransition worker id before "deadLetterVerusJob" .terminalFailed .failed
  load id

end Methods

/-! ## Enqueueing -/

/-- `INSERT INTO "verus_job"`. -/
def insertJob (new : VerusJobRow) : DbTx Unit := do
  let db ← get
  requireUnique db.jobs (fun j => j.id = new.id) "verus_job_pkey"
  requireUnique db.jobs (fun j => j.outboxEventId = new.outboxEventId)
    "verus_job_outbox_event_id_key"
  requireUnique db.jobs
    (fun j => j.operationType = new.operationType && j.subjectReference = new.subjectReference &&
      j.vdxfKey = new.vdxfKey && j.manifestDigest = new.manifestDigest)
    "verus_job_deterministic_identity_key"
  require (1 ≤ new.confirmationRequirement ∧ new.confirmationRequirement ≤ 1000)
    (.checkViolation "verus_job_confirmation_requirement_valid")
  require (1 ≤ new.manifestMaximumBytes ∧ new.manifestMaximumBytes ≤ 1048576)
    (.checkViolation "verus_job_manifest_limit_valid")
  require ((encodeUtf8 new.manifestCanonical).length ≤ new.manifestMaximumBytes)
    (.checkViolation "verus_job_manifest_size_valid")
  modify fun db => { db with jobs := db.jobs ++ [new] }

/-- `INSERT INTO "anchor_record"`. -/
def insertAnchor (new : AnchorRecord) : DbTx Unit := do
  let db ← get
  requireUnique db.anchors (fun a => a.id = new.id) "anchor_record_pkey"
  requireUnique db.anchors (fun a => a.externalReference = new.externalReference)
    "anchor_record_external_reference_key"
  requireUnique db.anchors (fun a => a.outboxEventId = new.outboxEventId)
    "anchor_record_outbox_event_id_key"
  requireUnique db.anchors
    (fun a => a.anchorType = new.anchorType && a.subjectReference = new.subjectReference &&
      a.vdxfKey = new.vdxfKey && a.manifestDigest = new.manifestDigest)
    "anchor_record_network_anchor_type_subject_reference_vdxf_ke_key"
  modify fun db => { db with anchors := db.anchors ++ [new] }

/-- `resolveCommittee`, for an input that names a committee. -/
def resolveCommittee (reference : Option String) : DbTx (Option Uuid) :=
  match present reference with
  | none => pure none
  | some reference => do
    requireOpaqueReference reference "committee reference"
    let db ← get
    let row ← found (db.committees.find? fun c => c.externalReference = reference)
      (.conflict "committee does not exist")
    return some row.id

/-- The job a new anchor starts with. -/
def newJob (input : EnqueueVerusAnchorInput) (committeeId : Option Uuid)
    (jobId outboxEventId : Uuid) (now : ℤ) : VerusJobRow :=
  { toVerusManifest := input.toVerusManifest
    id := jobId
    outboxEventId
    state := .pending
    transactionId := none
    blockHeight := none
    blockHash := none
    readbackDigest := none
    submissionAmbiguous := false
    lastErrorClass := none
    version := 1
    createdAt := now
    updatedAt := now
    committeeId
    submittedAt := none
    confirmedAt := none
    readbackAt := none
    reorgDetectedAt := none }

/-- The anchor record a new anchor starts with. -/
def newAnchor (input : EnqueueVerusAnchorInput) (committeeId : Option Uuid)
    (anchorId outboxEventId : Uuid) (now : ℤ) : AnchorRecord :=
  { id := anchorId
    externalReference := input.externalReference
    committeeId
    outboxEventId
    anchorType := input.operationType
    subjectReference := input.subjectReference
    vdxfKey := input.vdxfKey
    manifestDigest := input.manifestDigest
    state := .pending
    transactionId := none
    blockHeight := none
    blockHash := none
    readbackDigest := none
    version := 1
    updatedAt := now }

/-- The part of `enqueueAnchor` that inserts the event, the job and the anchor. -/
def insertWork (input : EnqueueVerusAnchorInput) (context : CommandContext)
    (committeeId : Option Uuid) : DbTx VerusJobRecord := do
  let outboxEventId ← newId
  let jobId ← newId
  insertOutboxEvent outboxEventId committeeId verusAnchorEventType "verus_identity"
    input.targetIdentity input.manifestPolicyReference ("verus_job:" ++ input.externalReference)
    input.manifestDigest (sha256 context.idempotencyKey)
  let db ← get
  insertJob (newJob input committeeId jobId outboxEventId db.currentTimestamp)
  let anchorId ← newId
  insertAnchor (newAnchor input committeeId anchorId outboxEventId db.currentTimestamp)
  let _ ← appendAudit context committeeId "enqueueVerusAnchor"
    { type := "verus_job", reference := toString jobId
      priorState := none, newState := some "pending" } .succeeded
  load outboxEventId

/-- The job already enqueued under the key of the context. -/
def existingJob (db : Db) (context : CommandContext) : Option VerusJobRow := do
  let o ← db.outbox.find? fun o => o.idempotencyKeyHash = sha256 context.idempotencyKey
  db.jobs.find? fun j => j.outboxEventId = o.id

/-- `enqueueAnchor`. -/
def enqueueAnchor [Host] (input : EnqueueVerusAnchorInput) (context : CommandContext) :
    DbTx VerusJobRecord := do
  validateInput input context
  let committeeId ← resolveCommittee input.committeeReference
  let db ← get
  match existingJob db context with
  | some row => do
    let replay ← lift id (toRecord db row)
    require (replay.manifestDigest = input.manifestDigest ∧
      replay.targetIdentity = input.targetIdentity ∧ replay.vdxfKey = input.vdxfKey)
      (.conflict "Verus idempotency key conflicts with existing work")
    return replay
  | none => insertWork input context committeeId

end VerusJobRepository

end ChecksAndBalances
