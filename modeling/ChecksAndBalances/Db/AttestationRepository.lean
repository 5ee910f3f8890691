import ChecksAndBalances.Db.VerificationRepository

/-!
# Attestations

`AttestationRepository` of `packages/db/src/attestation-repository.ts`, over the constraints and
triggers of the `attestation` table and the SQL function `cbc_attestation_status_at`.
-/

namespace ChecksAndBalances

open Lib Lib.Tx

/-- The stored name of the state. -/
def AttestationState.name (s : AttestationState) : String := s.toVerification.name

/-- The state a stored name stands for. -/
def AttestationState.ofName? (value : String) : Option AttestationState :=
  [issued, active, expired, revoked, superseded].find? fun s => s.name = value

/-! ## Triggers and the effective status -/

/-- `cbc_guard_attestation_identity`. -/
def guardAttestationIdentity (old new : Attestation) : Except RepositoryError Unit :=
  if { new with state := old.state, issuanceComplete := old.issuanceComplete } ≠ old then
    .error (.raised "attestation identity and original validity are immutable")
  else if !(old.state = new.state || (old.state = .issued && new.state = .active) ||
      (old.state = .active && new.state ∈ [.expired, .revoked, .superseded])) then
    .error (.raised ("invalid attestation transition: " ++ old.state.name ++ " -> " ++
      new.state.name))
  else .ok ()

/-- `cbc_validate_attestation_renewal`. -/
def validateAttestationRenewal (attestations : List Attestation) (new : Attestation) : Bool :=
  match new.supersedesId with
  | none => true
  | some id =>
    match attestations.find? fun a => a.id = id with
    | none => false
    | some predecessor => predecessor.committeeId = new.committeeId &&
        predecessor.participantId = new.participantId && new.version = predecessor.version + 1

/-- `attestation_validity_window`. -/
def validityWindow (new : Attestation) : Bool :=
  new.validFrom < new.expiresAt && new.expiresAt ≤ new.validFrom + maxAttestationValidityMs

/-- `attestation_renewal_reference`. -/
def renewalReference (new : Attestation) : Bool :=
  (new.version = 1 && new.supersedesId = none) || (1 < new.version && new.supersedesId ≠ none)

/-- `cbc_attestation_status_at`. -/
def DomainTables.statusAt (d : DomainTables) (id : Uuid) (observedAt : ℤ) :
    Option CanonicalAttestationStatus :=
  (d.attestations.find? fun a => a.id = id).map fun a =>
    let revocation := d.revocations.find? fun r => r.attestationId = a.id
    let successor := d.attestations.find? fun s =>
      s.supersedesId = some a.id && s.issuanceComplete && s.state = .active
    if !a.issuanceComplete || observedAt < a.validFrom then .unavailable
    else if revocation.any (fun r => r.effectiveAt ≤ observedAt) then .revoked
    else if successor.any (fun s => s.validFrom ≤ observedAt) then .superseded
    else if a.expiresAt ≤ observedAt then .expired
    else .active

namespace AttestationRepository

/-! ## Records and inputs -/

/-- `AttestationRecord`. -/
structure AttestationRecord where
  externalReference : String
  committeeReference : String
  participantReference : String
  requestReference : String
  version : ℕ
  state : AttestationState
  validFrom : ℤ
  expiresAt : ℤ
  supersedesReference : Option String
  statusVersion : ℕ
  replayed : Bool
  deriving DecidableEq, Repr

/-- `AttestationRow`: an attestation with the columns joined to it. -/
structure AttestationRow extends Attestation where
  committeeReference : String
  participantReference : String
  requestReference : String
  requestState : VerificationState
  requestVersion : ℕ
  supersedesReference : Option String
  statusVersion : ℕ
  deriving DecidableEq, Repr

/-- `IssueAttestationInput`. -/
structure IssueAttestationInput where
  id : Option Uuid
  externalReference : String
  requestReference : String
  policyVersionId : Uuid
  validFrom : ℤ
  expiresAt : ℤ
  supersedesReference : Option String
  context : CommandContext
  deriving DecidableEq, Repr

/-- `MutateAttestationInput`. -/
structure MutateAttestationInput where
  attestationReference : String
  expectedStatusVersion : ℕ
  observedAt : ℤ
  context : CommandContext
  deriving DecidableEq, Repr

/-- `RevokeAttestationInput`. -/
structure RevokeAttestationInput extends MutateAttestationInput where
  revocationId : Option Uuid
  policyVersionId : Uuid
  deriving DecidableEq, Repr

/-! ## Private methods -/

/-- The row that `loadRow` selects. -/
def selectRow (db : Db) (committeeId : Uuid) (reference : String) : Option AttestationRow := do
  let a ← db.attestations.find? fun a =>
    a.committeeId = committeeId && a.externalReference = reference
  let c ← db.committees.find? fun c => c.id = a.committeeId
  let p ← db.participants.find? fun p => p.id = a.participantId
  let r ← db.requests.find? fun r => r.id = a.requestId
  let s ← db.statuses.find? fun s => s.attestationId = a.id
  let prior := a.supersedesId.bind fun id => db.attestations.find? fun b => b.id = id
  return { toAttestation := a
           committeeReference := c.externalReference
           participantReference := p.externalReference
           requestReference := r.externalReference
           requestState := r.state
           requestVersion := r.version
           supersedesReference := prior.map Attestation.externalReference
           statusVersion := s.version }

/-- `loadRow`. -/
def loadRow (committeeId : Uuid) (reference : String) : DbTx AttestationRow := do
  let db ← get
  found (selectRow db committeeId reference) .tenantBoundary

/-- `loadRowById`. -/
def loadRowById (id committeeId : Uuid) : DbTx AttestationRow := do
  let db ← get
  let a ← found (db.attestations.find? fun a => a.id = id && a.committeeId = committeeId)
    .tenantBoundary
  loadRow committeeId a.externalReference

/-- `load`. -/
def load (committeeId : Uuid) (reference : String) (replayed : Bool) :
    DbTx AttestationRecord := do
  let row ← loadRow committeeId reference
  return { externalReference := row.externalReference
           committeeReference := row.committeeReference
           participantReference := row.participantReference
           requestReference := row.requestReference
           version := row.version
           state := row.state
           validFrom := row.validFrom
           expiresAt := row.expiresAt
           supersedesReference := row.supersedesReference
           statusVersion := row.statusVersion
           replayed }

/-- `replayRecord`. -/
def replayRecord (record : AttestationRecord) (idempotency : IdempotencyResult) :
    DbTx AttestationRecord := do
  require (idempotency.resultReference = some record.externalReference ∧
    truthy idempotency.resultState = true ∧ 0 < idempotency.resultVersion.getD 0)
    .idempotencyConflict
  return { record with
    state := (idempotency.resultState.bind AttestationState.ofName?).getD record.state
    statusVersion := idempotency.resultVersion.getD 0
    replayed := true }

/-- `enqueue`. -/
def enqueue (committeeId : Uuid) (reference eventType : String) (version : ℕ) (state : String)
    (context : CommandContext) : DbTx Unit := do
  let id ← newId
  insertOutboxEvent id (some committeeId) eventType "attestation" reference "issue-16-v1"
    ("domain:" ++ reference ++ ":v" ++ toString version ++ ":" ++ state)
    (sha256 (eventType ++ "|" ++ reference ++ "|" ++ toString version ++ "|" ++ state))
    (outboxKeyHash context eventType)

/-- The audit event and the outbox event of a state change of one attestation. -/
def announce (committeeId : Uuid) (context : CommandContext) (command reference : String)
    (priorState : Option AttestationState) (eventType : String) (version : ℕ)
    (state : AttestationState) : DbTx Unit := do
  let _ ← appendAudit context (some committeeId) command
    { type := "attestation", reference
      priorState := priorState.map AttestationState.name, newState := some state.name }
  enqueue committeeId reference eventType version state.name context

/-- `updateAttestationAndRequest`. -/
def updateAttestationAndRequest (row : AttestationRow) (state : AttestationState)
    (effectiveAt : ℤ) (issuanceComplete : Bool) : DbTx Unit := do
  let db ← get
  let attestations ← lift id (Table.update (fun a => a.id = row.id)
    (fun a => { a with state, issuanceComplete := issuanceComplete || a.issuanceComplete })
    guardAttestationIdentity db.attestations)
  modify fun db => { db with
    attestations
    statuses := Table.set (fun s => s.attestationId = row.id)
      (fun s => { s with state, effectiveAt, version := s.version + 1 }) db.statuses }
  let _ ← updateRequests (fun r => r.id = row.requestId && r.version = row.requestVersion)
    state.toVerification

/-! ## Issuance -/

/-- The version and the predecessor of a new attestation. -/
def renewalOf (committeeId : Uuid) (supersedesReference : Option String)
    (participantId : Uuid) : DbTx (ℕ × Option Uuid) := do
  if truthy supersedesReference then
    let db ← get
    let prior ← found (db.attestations.find? fun a =>
        some a.externalReference = supersedesReference && a.committeeId = committeeId)
      (.conflict "renewal predecessor must be the active participant attestation")
    require (prior.participantId = participantId ∧ prior.state = .active)
      (.conflict "renewal predecessor must be the active participant attestation")
    return (prior.version + 1, some prior.id)
  else return (1, none)

/-- `INSERT INTO "attestation"` and `INSERT INTO "attestation_status"`. -/
def insertAttestation (new : Attestation) : DbTx Unit := do
  let db ← get
  require (validateAttestationRenewal db.attestations new = true)
    (.raised "invalid attestation renewal predecessor")
  require (0 < new.version) (.checkViolation "attestation_version_positive")
  require (validityWindow new = true) (.checkViolation "attestation_validity_window")
  require (renewalReference new = true) (.checkViolation "attestation_renewal_reference")
  requireUnique db.attestations (fun a => a.id = new.id) "attestation_pkey"
  requireUnique db.attestations (fun a => a.externalReference = new.externalReference)
    "attestation_external_reference_key"
  requireUnique db.attestations
    (fun a => new.supersedesId.isSome && a.supersedesId = new.supersedesId)
    "attestation_supersedes_id_key"
  requireUnique db.attestations
    (fun a => a.committeeId = new.committeeId && a.participantId = new.participantId &&
      a.version = new.version)
    "attestation_committee_id_participant_id_version_key"
  requireReference db.policyVersions (fun v => v.id = new.policyVersionId)
    "attestation_policy_version_fkey"
  modify fun db => { db with
    attestations := db.attestations ++ [new]
    statuses := db.statuses ++ [
      { attestationId := new.id
        committeeId := new.committeeId
        state := .issued
        effectiveAt := new.validFrom
        version := 1 }] }

/-- The part of `issue` that writes the attestation; the value is its version. -/
def issueRow (input : IssueAttestationInput) (committeeId : Uuid) : DbTx ℕ := do
  let db ← get
  let request ← found (db.requests.find? fun r =>
    r.externalReference = input.requestReference && r.committeeId = committeeId) .tenantBoundary
  require (request.state = .issued) (.conflict "attestation issuance requires an issued request")
  let (version, supersedesId) ←
    renewalOf committeeId input.supersedesReference request.participantId
  let _ ← lift .invalidAttestationValidity (createAttestationValidity
    { version, validFrom := input.validFrom, expiresAt := input.expiresAt
      supersedesReference := input.supersedesReference })
  let id ← useId input.id
  insertAttestation
    { id
      externalReference := input.externalReference
      committeeId
      participantId := request.participantId
      requestId := request.id
      policyVersionId := input.policyVersionId
      version
      state := .issued
      validFrom := input.validFrom
      expiresAt := input.expiresAt
      issuanceComplete := false
      supersedesId }
  return version

/-- `issue`. -/
def issue (input : IssueAttestationInput) : DbTx AttestationRecord := do
  requireOpaqueReference input.externalReference "attestation external reference"
  requireOpaqueReference input.requestReference "verification request reference"
  let committeeId ← committeeId input.context.committeeReference
  let idempotency ← beginIdempotency committeeId "issueAttestation" input.context
  if idempotency.replayed then
    let record ← load committeeId input.externalReference true
    replayRecord record idempotency
  else
    let version ← issueRow input committeeId
    announce committeeId input.context "issueAttestation" input.externalReference none
      "AttestationIssued" version .issued
    completeIdempotency idempotency.id input.externalReference 1 "issued"
    load committeeId input.externalReference false

/-! ## Activation, expiry and revocation -/

/-- The two targets of `changeActiveState`. -/
inductive ActiveStateCommand where
  | activateAttestation
  | expireAttestation
  deriving DecidableEq, Repr

namespace ActiveStateCommand

def name : ActiveStateCommand → String
  | activateAttestation => "activateAttestation"
  | expireAttestation => "expireAttestation"

def targetState : ActiveStateCommand → AttestationState
  | activateAttestation => .active
  | expireAttestation => .expired

def eventType : ActiveStateCommand → String
  | activateAttestation => "AttestationActivated"
  | expireAttestation => "AttestationExpired"

end ActiveStateCommand

/-- The time and state checks of `changeActiveState`. -/
def checkActiveState (command : ActiveStateCommand) (row : AttestationRow) (observedAt : ℤ) :
    DbTx Unit :=
  match command with
  | .activateAttestation => do
    require (row.validFrom ≤ observedAt ∧ observedAt < row.expiresAt)
      (.conflict "attestation cannot activate outside its validity window")
    let _ ← lift .invalidTransition (Verification.activateAttestation row.requestState)
  | .expireAttestation => do
    require (row.expiresAt ≤ observedAt)
      (.conflict "attestation cannot expire before its exact boundary")
    let _ ← lift .invalidTransition (Verification.expireAttestation row.requestState)

/-- The part of `changeActiveState` that supersedes the predecessor of an activated attestation. -/
def supersedePrior (command : ActiveStateCommand) (row : AttestationRow) (committeeId : Uuid)
    (observedAt : ℤ) (context : CommandContext) : DbTx Unit :=
  match command, row.supersedesId with
  | .activateAttestation, some supersedesId => do
    let predecessor ← loadRowById supersedesId committeeId
    let _ ← lift .invalidTransition (Verification.supersedeAttestation predecessor.requestState)
    updateAttestationAndRequest predecessor .superseded observedAt false
    announce committeeId context "supersedePriorAttestation" predecessor.externalReference
      (some predecessor.state) "AttestationSuperseded" predecessor.version .superseded
  | _, _ => pure ()

/-- `changeActiveState`. -/
def changeActiveState (command : ActiveStateCommand) (input : MutateAttestationInput) :
    DbTx AttestationRecord := do
  let committeeId ← committeeId input.context.committeeReference
  let idempotency ← beginIdempotency committeeId command.name input.context
  if idempotency.replayed then
    let record ← load committeeId input.attestationReference true
    replayRecord record idempotency
  else
    let row ← loadRow committeeId input.attestationReference
    require (row.statusVersion = input.expectedStatusVersion)
      (.conflict "attestation status version is stale")
    checkActiveState command row input.observedAt
    updateAttestationAndRequest row command.targetState input.observedAt
      (command == .activateAttestation)
    supersedePrior command row committeeId input.observedAt input.context
    announce committeeId input.context command.name input.attestationReference (some row.state)
      command.eventType row.version command.targetState
    completeIdempotency idempotency.id input.attestationReference (row.statusVersion + 1)
      command.targetState.name
    load committeeId input.attestationReference false

def activate := changeActiveState .activateAttestation

def expire := changeActiveState .expireAttestation

/-- The part of `revoke` that writes the revocation and the new state. -/
def revokeRow (input : RevokeAttestationInput) (committeeId : Uuid) (row : AttestationRow) :
    DbTx Unit := do
  let _ ← lift .invalidTransition (Verification.revokeAttestation row.state.toVerification)
  let db ← get
  let id ← useId input.revocationId
  requireUnique db.revocations (fun r => r.id = id) "attestation_revocation_pkey"
  requireUnique db.revocations (fun r => r.attestationId = row.id)
    "attestation_revocation_attestation_id_key"
  requireReference db.policyVersions (fun v => v.id = input.policyVersionId)
    "attestation_revocation_policy_version_fkey"
  modify fun db => { db with
    revocations := db.revocations ++ [
      { id
        attestationId := row.id
        committeeId
        policyVersionId := input.policyVersionId
        reasonCategory := input.context.reasonCategory
        effectiveAt := input.observedAt }] }
  updateAttestationAndRequest row .revoked input.observedAt false

/-- `revoke`. -/
def revoke (input : RevokeAttestationInput) : DbTx AttestationRecord := do
  let committeeId ← committeeId input.context.committeeReference
  let idempotency ← beginIdempotency committeeId "revokeAttestation" input.context
  if idempotency.replayed then
    let record ← load committeeId input.attestationReference true
    replayRecord record idempotency
  else
    let row ← loadRow committeeId input.attestationReference
    require (row.statusVersion = input.expectedStatusVersion)
      (.conflict "attestation status version is stale")
    revokeRow input committeeId row
    announce committeeId input.context "revokeAttestation" input.attestationReference
      (some row.state) "AttestationRevoked" row.version .revoked
    completeIdempotency idempotency.id input.attestationReference (row.statusVersion + 1)
      "revoked"
    load committeeId input.attestationReference false

/-- `statusAt`. -/
def statusAt (db : Db) (committeeReference attestationReference : String) (observedAt : ℤ) :
    Except RepositoryError CanonicalAttestationStatus :=
  let row := db.attestations.find? fun a => a.externalReference = attestationReference &&
    db.committees.any fun c => c.id = a.committeeId && c.externalReference = committeeReference
  match row.bind fun a => db.toDomainTables.statusAt a.id observedAt with
  | some status => .ok status
  | none => .error .tenantBoundary

end AttestationRepository

end ChecksAndBalances
