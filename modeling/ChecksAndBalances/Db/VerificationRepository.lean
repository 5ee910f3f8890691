import ChecksAndBalances.Db.Idempotency

/-!
# Verification requests

`VerificationRepository` of `packages/db/src/verification-repository.ts`, over the trigger
`cbc_guard_verification_transition`.  The named transitions of the class are one private method
applied to a command of the domain.
-/

namespace ChecksAndBalances

open Lib Lib.Tx

/-- The state a stored name stands for. -/
def VerificationState.ofName? (value : String) : Option VerificationState :=
  [requested, scheduled, checkedIn, underReview, approved, rejected, needsMoreInformation,
    withdrawn, issuancePending, issued, active, expired, revoked, superseded, appealed,
    appealUpheld, appealDenied, appealRemanded].find? fun s => s.name = value

/-- The state changes that `cbc_guard_verification_transition` lets through. -/
def verificationTransitionAllowed : VerificationState → VerificationState → Bool
  | .requested, new => new = .scheduled
  | .scheduled, new => new = .checkedIn
  | .checkedIn, new => new = .underReview
  | .underReview, new => new ∈ [.approved, .rejected, .needsMoreInformation, .withdrawn]
  | .needsMoreInformation, new => new ∈ [.scheduled, .rejected, .withdrawn]
  | .approved, new => new = .issuancePending
  | .issuancePending, new => new = .issued
  | .issued, new => new = .active
  | .active, new => new ∈ [.expired, .revoked, .superseded]
  | .rejected, new => new = .appealed
  | .appealed, new => new ∈ [.appealUpheld, .appealDenied, .appealRemanded]
  | _, _ => false

/-- `cbc_guard_verification_transition`. -/
def guardVerificationTransition (old new : VerificationRequest) : Except RepositoryError Unit :=
  if new.version ≠ old.version + 1 then .error (.raised "verification request version conflict")
  else if !verificationTransitionAllowed old.state new.state then
    .error (.raised ("invalid verification request transition: " ++ old.state.name ++ " -> " ++
      new.state.name))
  else .ok ()

/-- The row with its next state. -/
def VerificationRequest.advance (state : VerificationState) (r : VerificationRequest) :
    VerificationRequest :=
  { r with state, version := r.version + 1 }

/-- `UPDATE "verification_request" SET state, version = version + 1 WHERE p`, with the updated
rows. -/
def updateRequests (p : VerificationRequest → Bool) (state : VerificationState) :
    DbTx (List VerificationRequest) := do
  let db ← get
  let rows ← lift id
    (Table.update p (VerificationRequest.advance state) guardVerificationTransition db.requests)
  modify fun db => { db with requests := rows }
  return (db.requests.filter p).map (VerificationRequest.advance state)

namespace VerificationRepository

/-! ## Records and inputs -/

/-- `VerificationRecord`. -/
structure VerificationRecord where
  externalReference : String
  committeeReference : String
  participantReference : String
  state : VerificationState
  version : ℕ
  replayed : Bool
  deriving DecidableEq, Repr

/-- `TransitionInput`. -/
structure TransitionInput where
  requestReference : String
  expectedVersion : ℕ
  context : CommandContext
  deriving DecidableEq, Repr

/-- `CreateVerificationRequestInput`. -/
structure CreateVerificationRequestInput where
  id : Option Uuid
  externalReference : String
  participantReference : String
  policyVersionId : Uuid
  context : CommandContext
  deriving DecidableEq, Repr

/-- `RecordReviewDecisionInput`. -/
structure RecordReviewDecisionInput where
  id : Option Uuid
  externalReference : String
  requestReference : String
  reviewerMemberReference : String
  policyVersionId : Uuid
  decision : ReviewDecisionState
  authorization : ReviewerAuthorizationDecision
  context : CommandContext
  deriving DecidableEq, Repr

/-! ## Private methods -/

/-- `loadRecord`. -/
def loadRecord (committeeId : Uuid) (requestReference : String) (replayed : Bool) :
    DbTx VerificationRecord := do
  let db ← get
  let r ← found (db.requests.find? fun r =>
    r.externalReference = requestReference && r.committeeId = committeeId) .tenantBoundary
  let p ← found (db.participants.find? fun p => p.id = r.participantId) .tenantBoundary
  let c ← found (db.committees.find? fun c => c.id = r.committeeId) .tenantBoundary
  return { externalReference := r.externalReference
           committeeReference := c.externalReference
           participantReference := p.externalReference
           state := r.state
           version := r.version
           replayed }

/-- `replayRecord`. -/
def replayRecord (record : VerificationRecord) (idempotency : IdempotencyResult) :
    DbTx VerificationRecord := do
  require (idempotency.resultReference = some record.externalReference ∧
    truthy idempotency.resultState = true ∧ 0 < idempotency.resultVersion.getD 0)
    .idempotencyConflict
  return { record with
    state := (idempotency.resultState.bind VerificationState.ofName?).getD record.state
    version := idempotency.resultVersion.getD 0
    replayed := true }

/-- `enqueueDomainEvent`. -/
def enqueueDomainEvent (committeeId : Uuid) (reference eventType : String) (version : ℕ)
    (state : String) (context : CommandContext) : DbTx Unit := do
  let id ← newId
  insertOutboxEvent id (some committeeId) eventType "verification_request" reference "issue-16-v1"
    ("domain:" ++ reference ++ ":v" ++ toString version)
    (sha256 (eventType ++ "|" ++ reference ++ "|" ++ toString version ++ "|" ++ state))
    (outboxKeyHash context eventType)

/-- The audit event, the outbox event and the idempotency result of a command on a request. -/
def finish (committeeId idempotencyId : Uuid) (context : CommandContext) (command : String)
    (target : AuditTarget) (eventType : String) (version : ℕ) (state : String) : DbTx Unit := do
  let _ ← appendAudit context (some committeeId) command target
  enqueueDomainEvent committeeId target.reference eventType version state context
  completeIdempotency idempotencyId target.reference version state

/-! ## Requests -/

/-- The inserting part of `createRequest`. -/
def insertRequest (input : CreateVerificationRequestInput) (committeeId : Uuid) :
    DbTx Unit := do
  let db ← get
  let participant ← found
    (db.participants.find? fun p => p.externalReference = input.participantReference)
    (.conflict "participant does not exist")
  let id ← useId input.id
  requireUnique db.requests (fun r => r.id = id) "verification_request_pkey"
  requireUnique db.requests (fun r => r.externalReference = input.externalReference)
    "verification_request_external_reference_key"
  requireReference db.policyVersions (fun v => v.id = input.policyVersionId)
    "verification_request_policy_version_fkey"
  modify fun db => { db with
    requests := db.requests ++ [
      { id
        externalReference := input.externalReference
        committeeId
        participantId := participant.id
        policyVersionId := input.policyVersionId
        state := .requested
        version := 1 }] }

/-- `createRequest`. -/
def createRequest (input : CreateVerificationRequestInput) : DbTx VerificationRecord := do
  requireOpaqueReference input.externalReference "verification external reference"
  requireOpaqueReference input.participantReference "participant reference"
  let committeeId ← committeeId input.context.committeeReference
  let idempotency ← beginIdempotency committeeId "createVerificationRequest" input.context
  if idempotency.replayed then
    let record ← loadRecord committeeId input.externalReference true
    replayRecord record idempotency
  else
    insertRequest input committeeId
    finish committeeId idempotency.id input.context "createVerificationRequest"
      { type := "verification_request", reference := input.externalReference
        priorState := none, newState := some "requested" }
      "VerificationRequested" 1 "requested"
    loadRecord committeeId input.externalReference false

/-! ## Transitions -/

/-- `transition`. -/
def transition (commandName : String) (command : VerificationCommand) (input : TransitionInput) :
    DbTx VerificationRecord := do
  requireOpaqueReference input.requestReference "verification request reference"
  let committeeId ← committeeId input.context.committeeReference
  let idempotency ← beginIdempotency committeeId commandName input.context
  if idempotency.replayed then
    let record ← loadRecord committeeId input.requestReference true
    replayRecord record idempotency
  else
    let current ← loadRecord committeeId input.requestReference false
    require (current.version = input.expectedVersion)
      (.conflict "verification request version is stale")
    let nextState ← lift .invalidTransition (command current.state)
    let rows ← updateRequests (fun r => r.externalReference = input.requestReference &&
      r.committeeId = committeeId && r.version = input.expectedVersion) nextState
    let updated ← found rows.head? (.conflict "verification request version is stale")
    let db ← get
    finish committeeId idempotency.id input.context commandName
      { type := "verification_request", reference := input.requestReference
        priorState := some current.state.name, newState := some nextState.name }
      commandName updated.version nextState.name
    return { externalReference := input.requestReference
             committeeReference := input.context.committeeReference
             -- the participant of a stored request exists, so the subselect is not null
             participantReference := ((db.participants.find? fun p =>
               p.id = updated.participantId).map ParticipantAccount.externalReference).getD ""
             state := nextState
             version := updated.version
             replayed := false }

def schedule := transition "scheduleRequest" Verification.scheduleRequest

def checkIn := transition "checkInParticipant" Verification.checkInParticipant

def beginReview := transition "beginReview" Verification.beginReview

def approve := transition "approveVerification" Verification.approveVerification

def reject := transition "rejectVerification" Verification.rejectVerification

def requestMoreInformation :=
  transition "requestMoreInformation" Verification.requestMoreInformation

def withdraw := transition "withdrawVerification" Verification.withdrawVerification

def rescheduleAfterMoreInformation :=
  transition "rescheduleAfterMoreInformation" Verification.rescheduleAfterMoreInformation

def rejectAfterMoreInformation :=
  transition "rejectAfterMoreInformation" Verification.rejectAfterMoreInformation

def withdrawAfterMoreInformation :=
  transition "withdrawAfterMoreInformation" Verification.withdrawAfterMoreInformation

def requestIssuance := transition "requestIssuance" Verification.requestIssuance

def recordIssuance := transition "recordIssuance" Verification.recordIssuance

def openAppeal := transition "openAppeal" Verification.openAppeal

def upholdAppeal := transition "upholdAppeal" Verification.upholdAppeal

def denyAppeal := transition "denyAppeal" Verification.denyAppeal

def remandAppeal := transition "remandAppeal" Verification.remandAppeal

/-! ## Review decisions -/

/-- `JSON.stringify` of an authorization decision. -/
def authorizationText (d : ReviewerAuthorizationDecision) : String :=
  let member (key value : String) := Json.quote key ++ ":" ++ value
  "\x7b" ++ ",".intercalate [
    member "actorReference" (Json.quote d.actorReference),
    member "actorCommitteeReference" (Json.quote d.actorCommitteeReference),
    member "targetCommitteeReference" (Json.quote d.targetCommitteeReference),
    member "authorized" (toString d.authorized),
    member "conflicted" (toString d.conflicted),
    member "policyVersionReference" (Json.quote d.policyVersionReference)] ++ "\x7d"

/-- The inserting part of `recordReviewDecision`. -/
def insertDecision (input : RecordReviewDecisionInput) (committeeId : Uuid) : DbTx Unit := do
  let request ← loadRecord committeeId input.requestReference false
  require (request.state = .underReview)
    (.conflict "review decision requires an under-review request")
  let db ← get
  let member ← found (db.members.find? fun m =>
    m.externalReference = input.reviewerMemberReference && m.committeeId = committeeId &&
      m.state = .active) .tenantBoundary
  require (db.conflicts.all (fun d => !(d.memberId = member.id && d.committeeId = committeeId &&
      d.targetType = "verification_request" && d.targetReference = input.requestReference &&
      d.resolvedAt = none)) = true) (.conflict "reviewer has an unresolved conflict")
  let row ← found (db.requests.find? fun r =>
    r.externalReference = input.requestReference && r.committeeId = committeeId) .tenantBoundary
  let id ← useId input.id
  requireUnique db.decisions (fun d => d.id = id) "review_decision_pkey"
  requireUnique db.decisions (fun d => d.externalReference = input.externalReference)
    "review_decision_external_reference_key"
  requireUnique db.decisions
    (fun d => d.requestId = row.id && d.reviewerMemberId = member.id)
    "review_decision_request_id_reviewer_member_id_key"
  requireReference db.policyVersions (fun v => v.id = input.policyVersionId)
    "review_decision_policy_version_fkey"
  modify fun db => { db with
    decisions := db.decisions ++ [
      { id
        externalReference := input.externalReference
        committeeId
        requestId := row.id
        reviewerMemberId := member.id
        policyVersionId := input.policyVersionId
        state := input.decision
        reasonCategory := input.context.reasonCategory
        authorizationDecisionDigest := sha256 (authorizationText input.authorization) }] }

/-- `recordReviewDecision`; the value is the `replayed` flag. -/
def recordReviewDecision (input : RecordReviewDecisionInput) : DbTx Bool := do
  requireOpaqueReference input.externalReference "decision external reference"
  let eligible ← lift .reviewerIneligible (requireEligibleReviewer input.authorization)
  require (eligible.actorReference = input.context.actor.reference)
    (.conflict "authorization decision does not match the command actor")
  let committeeId ← committeeId input.context.committeeReference
  let idempotency ← beginIdempotency committeeId "recordReviewDecision" input.context
  if idempotency.replayed then return true
  else
    insertDecision input committeeId
    finish committeeId idempotency.id input.context "recordReviewDecision"
      { type := "review_decision", reference := input.externalReference
        priorState := none, newState := some input.decision.name }
      "ReviewDecisionRecorded" 1 input.decision.name
    return false

end VerificationRepository

end ChecksAndBalances
