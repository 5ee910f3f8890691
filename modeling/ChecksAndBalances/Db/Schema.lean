import ChecksAndBalances.Auth.Rows
import ChecksAndBalances.Db.Repository
import ChecksAndBalances.Domain.Attestation
import ChecksAndBalances.Lib.Transaction
import ChecksAndBalances.Lifecycle.Rows
import ChecksAndBalances.Verus.Json

/-!
# The tables

Rows and tables of the migrations under `packages/db/prisma/migrations`, as far as the modelled
repositories read or write them.  A repository command is a serializable transaction over the whole
database, so its model is a `DbTx`: it commits a new database or leaves the old one.  Bookkeeping
timestamps (`created_at` and `updated_at` that no query reads) are left out.
-/

namespace ChecksAndBalances

/-! ## Committees, participants and policies -/

/-- `committee`. -/
structure Committee where
  id : Uuid
  externalReference : String
  state : CommitteeState := .proposed
  version : ℕ := 1
  deriving DecidableEq, Repr

/-- `participant_account`. -/
structure ParticipantAccount where
  id : Uuid
  externalReference : String
  deriving DecidableEq, Repr

/-- `policy_version`. -/
structure PolicyVersion where
  id : Uuid
  deriving DecidableEq, Repr

/-- `membership_state`. -/
inductive MembershipState where
  | proposed
  | active
  | suspended
  | retired
  deriving DecidableEq, Repr

/-- `committee_member`. -/
structure CommitteeMember where
  id : Uuid
  externalReference : String
  committeeId : Uuid
  actorReference : String
  state : MembershipState
  deriving DecidableEq, Repr

/-- `conflict_declaration`. -/
structure ConflictDeclaration where
  committeeId : Uuid
  memberId : Uuid
  targetType : String
  targetReference : String
  resolvedAt : Option ℤ
  deriving DecidableEq, Repr

/-! ## Verification and attestation -/

/-- `verification_request`. -/
structure VerificationRequest where
  id : Uuid
  externalReference : String
  committeeId : Uuid
  participantId : Uuid
  policyVersionId : Uuid
  state : VerificationState
  version : ℕ
  deriving DecidableEq, Repr

/-- `review_decision_state`. -/
inductive ReviewDecisionState where
  | approved
  | rejected
  | needsMoreInformation
  deriving DecidableEq, Repr

/-- The stored name of the decision. -/
def ReviewDecisionState.name : ReviewDecisionState → String
  | approved => "approved"
  | rejected => "rejected"
  | needsMoreInformation => "needs_more_information"

/-- `review_decision`. -/
structure ReviewDecision where
  id : Uuid
  externalReference : String
  committeeId : Uuid
  requestId : Uuid
  reviewerMemberId : Uuid
  policyVersionId : Uuid
  state : ReviewDecisionState
  reasonCategory : String
  authorizationDecisionDigest : String
  deriving DecidableEq, Repr

/-- `attestation`. -/
structure Attestation where
  id : Uuid
  externalReference : String
  committeeId : Uuid
  participantId : Uuid
  requestId : Uuid
  policyVersionId : Uuid
  version : ℕ
  state : AttestationState
  validFrom : ℤ
  expiresAt : ℤ
  issuanceComplete : Bool
  supersedesId : Option Uuid
  deriving DecidableEq, Repr

/-- `attestation_status`. -/
structure AttestationStatus where
  attestationId : Uuid
  committeeId : Uuid
  state : AttestationState
  effectiveAt : ℤ
  version : ℕ
  deriving DecidableEq, Repr

/-- `attestation_revocation`. -/
structure AttestationRevocation where
  id : Uuid
  attestationId : Uuid
  committeeId : Uuid
  policyVersionId : Uuid
  reasonCategory : String
  effectiveAt : ℤ
  deriving DecidableEq, Repr

/-- The tables of the verification and attestation domain, with what they refer to. -/
structure DomainTables where
  committees : List Committee
  participants : List ParticipantAccount
  policyVersions : List PolicyVersion
  members : List CommitteeMember
  conflicts : List ConflictDeclaration
  requests : List VerificationRequest
  decisions : List ReviewDecision
  attestations : List Attestation
  statuses : List AttestationStatus
  revocations : List AttestationRevocation

/-! ## Idempotency, audit and outbox -/

/-- `idempotency_state`, as far as the repositories write it. -/
inductive IdempotencyState where
  | started
  | completed
  deriving DecidableEq, Repr

/-- `idempotency_record`. -/
structure IdempotencyRecord where
  id : Uuid
  scope : String
  keyHash : String
  requestDigest : String
  command : String
  actorType : String
  actorReference : String
  committeeId : Option Uuid
  state : IdempotencyState
  resultDigest : Option String
  resultReference : Option String
  resultState : Option String
  resultVersion : Option ℕ
  deriving DecidableEq, Repr

/-- `audit_result`. -/
inductive AuditResult where
  | succeeded
  | rejected
  | failed
  deriving DecidableEq, Repr

/-- The stored name of the result. -/
def AuditResult.name : AuditResult → String
  | succeeded => "succeeded"
  | rejected => "rejected"
  | failed => "failed"

/-- `audit_event`, in the order of its sequence. -/
structure AuditEvent where
  id : Uuid
  chainKey : String
  previousHash : Option String
  eventHash : String
  actorType : String
  actorReference : String
  committeeId : Option Uuid
  command : String
  targetType : String
  targetReference : String
  priorState : Option String
  newState : Option String
  policyVersion : String
  softwareVersion : String
  reasonCategory : String
  authenticationStrength : String
  correlationId : String
  idempotencyKeyHash : String
  result : AuditResult
  occurredAt : ℤ
  deriving DecidableEq, Repr

/-- `audit_chain_head`. -/
structure AuditChainHead where
  chainKey : String
  eventId : Option Uuid
  eventHash : Option String
  deriving DecidableEq, Repr

/-- `outbox_state`. -/
inductive OutboxState where
  | pending
  | claimed
  | succeeded
  | retryableFailed
  | terminalFailed
  | deadLetter
  deriving DecidableEq, Repr

/-- The stored name of the state. -/
def OutboxState.name : OutboxState → String
  | pending => "pending"
  | claimed => "claimed"
  | succeeded => "succeeded"
  | retryableFailed => "retryable_failed"
  | terminalFailed => "terminal_failed"
  | deadLetter => "dead_letter"

/-- `outbox_event`. -/
structure OutboxEvent where
  id : Uuid
  committeeId : Option Uuid
  eventType : String
  aggregateType : String
  aggregateReference : String
  schemaVersion : String
  payloadReference : String
  payloadDigest : String
  idempotencyKeyHash : String
  state : OutboxState
  availableAt : ℤ
  leaseOwner : Option String
  leaseAcquiredAt : Option ℤ
  leaseExpiresAt : Option ℤ
  attemptCount : ℕ
  lastErrorClass : Option String
  createdAt : ℤ
  completedAt : Option ℤ
  deriving DecidableEq, Repr

/-- `outbox_attempt`. -/
structure OutboxAttempt where
  id : Uuid
  outboxEventId : Uuid
  attempt : ℕ
  worker : String
  result : AuditResult
  errorClass : Option String
  startedAt : ℤ
  finishedAt : ℤ
  deriving DecidableEq, Repr

/-! ## Verus jobs -/

/-- `verus_job_state`, `PersistedVerusJobState`. -/
inductive VerusJobState where
  | pending
  | claimed
  | preflight
  | submitted
  | confirming
  | readback
  | verified
  | retryableFailed
  | terminalFailed
  | reorgPending
  deriving DecidableEq, Repr

/-- The stored name of the state. -/
def VerusJobState.name : VerusJobState → String
  | pending => "pending"
  | claimed => "claimed"
  | preflight => "preflight"
  | submitted => "submitted"
  | confirming => "confirming"
  | readback => "readback"
  | verified => "verified"
  | retryableFailed => "retryable_failed"
  | terminalFailed => "terminal_failed"
  | reorgPending => "reorg_pending"

/-- `anchor_state`. -/
inductive AnchorState where
  | pending
  | submitted
  | confirming
  | readback
  | verified
  | retryableFailed
  | terminalFailed
  | reorgPending
  deriving DecidableEq, Repr

/-- The stored name of the state. -/
def AnchorState.name : AnchorState → String
  | pending => "pending"
  | submitted => "submitted"
  | confirming => "confirming"
  | readback => "readback"
  | verified => "verified"
  | retryableFailed => "retryable_failed"
  | terminalFailed => "terminal_failed"
  | reorgPending => "reorg_pending"

/-- The columns of a job that `cbc_guard_verus_job_identity` keeps immutable. -/
structure VerusManifest where
  operationType : String
  subjectReference : String
  targetIdentity : String
  vdxfUri : String
  vdxfKey : String
  manifest : JsonObject
  manifestCanonical : String
  manifestDigest : String
  manifestPolicyReference : String
  manifestAllowedFields : List String
  manifestRequiredFields : List String
  manifestMaximumBytes : ℤ
  confirmationRequirement : ℤ

/-- The columns that a job row and a job record share. -/
structure VerusJobCore extends VerusManifest where
  id : Uuid
  outboxEventId : Uuid
  state : VerusJobState
  transactionId : Option String
  blockHeight : Option ℤ
  blockHash : Option String
  readbackDigest : Option String
  submissionAmbiguous : Bool
  lastErrorClass : Option String
  version : ℕ
  createdAt : ℤ
  updatedAt : ℤ

/-- `verus_job`. -/
structure VerusJobRow extends VerusJobCore where
  committeeId : Option Uuid
  submittedAt : Option ℤ
  confirmedAt : Option ℤ
  readbackAt : Option ℤ
  reorgDetectedAt : Option ℤ

/-- `anchor_record`. -/
structure AnchorRecord where
  id : Uuid
  externalReference : String
  committeeId : Option Uuid
  outboxEventId : Uuid
  anchorType : String
  subjectReference : String
  vdxfKey : String
  manifestDigest : String
  state : AnchorState
  transactionId : Option String
  blockHeight : Option ℤ
  blockHash : Option String
  readbackDigest : Option String
  version : ℕ
  updatedAt : ℤ
  deriving DecidableEq, Repr

/-- The tables the anchor workers share. -/
structure WorkTables where
  outbox : List OutboxEvent
  attempts : List OutboxAttempt
  jobs : List VerusJobRow
  anchors : List AnchorRecord

/-! ## The database -/

/-- The database, with the clock of its session and the next identifier to be drawn. -/
structure Db extends DomainTables, WorkTables, LifecycleTables, AuthTables where
  idempotency : List IdempotencyRecord
  audit : List AuditEvent
  auditChainHeads : List AuditChainHead
  nextId : Uuid
  currentTimestamp : ℤ

/-- A database without rows. -/
def Db.empty : Db :=
  { committees := [], participants := [], policyVersions := [], members := [], conflicts := []
    requests := [], decisions := [], attestations := [], statuses := [], revocations := []
    outbox := [], attempts := [], jobs := [], anchors := []
    renewalCycles := [], eligibleSnapshots := [], cycleSelections := [], cycleReports := []
    walletChallenges := [], consentReceipts := [], appeals := [], privacyRightsRequests := []
    notifications := [], relyingPartyClients := []
    authAccounts := [], authSessions := [], contactPreferences := [], authChallenges := []
    authRateLimitBuckets := []
    idempotency := [], audit := [], auditChainHeads := []
    nextId := 100
    currentTimestamp := 0 }

/-- A serializable transaction of a repository. -/
abbrev DbTx := Lib.Tx Db RepositoryError

/-- `newId`. -/
def newId : DbTx Uuid := do
  let db ← get
  modify fun db => { db with nextId := db.nextId + 1 }
  return db.nextId

/-- `input.id ?? newId()`; a given identifier is not drawn again. -/
def useId : Option Uuid → DbTx Uuid
  | some id => do
    modify fun db => { db with nextId := max db.nextId (id + 1) }
    return id
  | none => newId

/-- `requireOpaqueReference`; an opaque reference never contains `@`. -/
def requireOpaqueReference (value field : String) : DbTx Unit :=
  Lib.Tx.require (isOpaqueReference value = true ∧ '@' ∉ value.toList)
    (.conflict (field ++ " must be an opaque reference"))

/-- A unique index: no row has the key. -/
def requireUnique {ρ : Type} (rows : List ρ) (clash : ρ → Bool) (index : String) : DbTx Unit :=
  Lib.Tx.require (rows.all (fun r => !clash r) = true) (.uniqueViolation index)

/-- A foreign key: some row is referred to. -/
def requireReference {ρ : Type} (rows : List ρ) (target : ρ → Bool) (key : String) : DbTx Unit :=
  Lib.Tx.require (rows.any target = true) (.foreignKeyViolation key)

end ChecksAndBalances
