import ChecksAndBalances.Db.AttestationRepository
import ChecksAndBalances.Lib.Reach

/-!
# Runs of verification and attestation commands

The public methods of `VerificationRepository` and `AttestationRepository` as the labels of one
system over the database.  A rejected command rolls back, so every command leads to a database.
-/

namespace ChecksAndBalances

open Lib Lib.Tx

/-- The named transitions of `VerificationRepository`. -/
inductive RequestTransition where
  | schedule
  | checkIn
  | beginReview
  | approve
  | reject
  | requestMoreInformation
  | withdraw
  | rescheduleAfterMoreInformation
  | rejectAfterMoreInformation
  | withdrawAfterMoreInformation
  | requestIssuance
  | recordIssuance
  | openAppeal
  | upholdAppeal
  | denyAppeal
  | remandAppeal
  deriving DecidableEq, Repr

open VerificationRepository in
/-- The method of a named transition. -/
def RequestTransition.run : RequestTransition → TransitionInput → DbTx VerificationRecord
  | schedule => VerificationRepository.schedule
  | checkIn => VerificationRepository.checkIn
  | beginReview => VerificationRepository.beginReview
  | approve => VerificationRepository.approve
  | reject => VerificationRepository.reject
  | requestMoreInformation => VerificationRepository.requestMoreInformation
  | withdraw => VerificationRepository.withdraw
  | rescheduleAfterMoreInformation => VerificationRepository.rescheduleAfterMoreInformation
  | rejectAfterMoreInformation => VerificationRepository.rejectAfterMoreInformation
  | withdrawAfterMoreInformation => VerificationRepository.withdrawAfterMoreInformation
  | requestIssuance => VerificationRepository.requestIssuance
  | recordIssuance => VerificationRepository.recordIssuance
  | openAppeal => VerificationRepository.openAppeal
  | upholdAppeal => VerificationRepository.upholdAppeal
  | denyAppeal => VerificationRepository.denyAppeal
  | remandAppeal => VerificationRepository.remandAppeal

open VerificationRepository AttestationRepository in
/-- A command of either repository, or the passing of time on the database server. -/
inductive Command where
  | createRequest (input : CreateVerificationRequestInput)
  | transition (command : RequestTransition) (input : TransitionInput)
  | recordReviewDecision (input : RecordReviewDecisionInput)
  | issue (input : IssueAttestationInput)
  | activate (input : MutateAttestationInput)
  | expire (input : MutateAttestationInput)
  | revoke (input : RevokeAttestationInput)
  | clock (now : ℤ)

/-- The database after a command; a rejected command leaves it as it was. -/
def Db.exec (db : Db) : Command → Db
  | .createRequest input => commit (VerificationRepository.createRequest input) db
  | .transition command input => commit (command.run input) db
  | .recordReviewDecision input => commit (VerificationRepository.recordReviewDecision input) db
  | .issue input => commit (AttestationRepository.issue input) db
  | .activate input => commit (AttestationRepository.activate input) db
  | .expire input => commit (AttestationRepository.expire input) db
  | .revoke input => commit (AttestationRepository.revoke input) db
  | .clock now => { db with currentTimestamp := now }

/-- One command of the system. -/
def Db.step (db : Db) (command : Command) : Option Db := some (db.exec command)

/-- A database before any verification: whatever its reference data and its other tables, no
request, attestation or revocation is stored. -/
structure Db.Initial (db : Db) : Prop where
  noRequests : db.requests = []
  noAttestations : db.attestations = []
  noStatuses : db.statuses = []
  noRevocations : db.revocations = []

/-- Some run of commands, each meeting `C`, leads from an initial database to `db`. -/
def Db.Reachable (C : Db → Command → Prop) (db : Db) : Prop :=
  ∃ db₀ : Db, db₀.Initial ∧ Reach Db.step C db₀ db

theorem Db.Reachable.exec {C : Db → Command → Prop} {db : Db} (h : db.Reachable C)
    {command : Command} (hc : C db command) : (db.exec command).Reachable C := by
  obtain ⟨db₀, hinit, hreach⟩ := h
  exact ⟨db₀, hinit, hreach.tail hc rfl⟩

/-- Commands that meet the condition in every database. -/
theorem Db.Reachable.foldl {C : Db → Command → Prop} {db : Db} (h : db.Reachable C)
    {commands : List Command} (hc : ∀ command ∈ commands, ∀ db, C db command) :
    (commands.foldl Db.exec db).Reachable C := by
  induction commands generalizing db with
  | nil => exact h
  | cons command commands ih =>
    rw [List.forall_mem_cons] at hc
    exact ih (h.exec (hc.1 db)) hc.2

theorem Db.Initial.reachable {C : Db → Command → Prop} {db : Db} (h : db.Initial) :
    db.Reachable C :=
  ⟨db, h, .refl db⟩

/-! ## A small deployment -/

namespace Sample

/-- One committee, one participant and one policy. -/
def db : Db :=
  { Db.empty with
    committees := [{ id := 1, externalReference := "committee_one" }]
    participants := [{ id := 2, externalReference := "participant_one" }]
    policyVersions := [{ id := 3 }] }

theorem db_initial : db.Initial := ⟨rfl, rfl, rfl, rfl⟩

/-- A context in the committee, under an idempotency key. -/
def context (key : String) : CommandContext :=
  { actor :=
      { type := "steward", reference := "steward_one", authenticationStrength := "passkey" }
    committeeReference := "committee_one"
    policyVersionReference := "policy_one"
    softwareVersion := "0.0.0"
    reasonCategory := "routine"
    correlationId := "correlation_one"
    idempotencyKey := key
    requestDigest := "digest" }

/-- The commands that bring a new request of the participant to issuance. -/
def issuedRequest (request : String) : List Command := [
  .createRequest
    { id := none, externalReference := request, participantReference := "participant_one"
      policyVersionId := 3, context := context (request ++ "_0") },
  .transition .schedule ⟨request, 1, context (request ++ "_1")⟩,
  .transition .checkIn ⟨request, 2, context (request ++ "_2")⟩,
  .transition .beginReview ⟨request, 3, context (request ++ "_3")⟩,
  .transition .approve ⟨request, 4, context (request ++ "_4")⟩,
  .transition .requestIssuance ⟨request, 5, context (request ++ "_5")⟩,
  .transition .recordIssuance ⟨request, 6, context (request ++ "_6")⟩]

def issue (attestation request : String) (supersedes : Option String) (validFrom expiresAt : ℤ) :
    Command :=
  .issue
    { id := none, externalReference := attestation, requestReference := request
      policyVersionId := 3, validFrom, expiresAt, supersedesReference := supersedes
      context := context (attestation ++ "_issue") }

def activation (attestation : String) (observedAt : ℤ) :
    AttestationRepository.MutateAttestationInput :=
  { attestationReference := attestation, expectedStatusVersion := 1, observedAt
    context := context (attestation ++ "_activate") }

def expiry (attestation : String) (observedAt : ℤ) :
    AttestationRepository.MutateAttestationInput :=
  { attestationReference := attestation, expectedStatusVersion := 2, observedAt
    context := context (attestation ++ "_expire") }

/-- The database with the first request issued. -/
def approved : Db := (issuedRequest "request_one").foldl Db.exec db

/-- The database with the first attestation issued. -/
def offered : Db := approved.exec (issue "attestation_one" "request_one" none 0 100)

/-- The database with the first attestation active and a second request issued. -/
def requested : Db :=
  (Command.activate (activation "attestation_one" 0) :: issuedRequest "request_two").foldl Db.exec
    offered

/-- The database in which the first attestation has expired before the second is issued. -/
def unrenewed : Db := requested.exec (.expire (expiry "attestation_one" 100))

/-- The database with an issued renewal, valid from 10 to 110. -/
def renewable : Db :=
  requested.exec (issue "attestation_two" "request_two" (some "attestation_one") 10 110)

/-- The database in which the renewal has been activated. -/
def renewed : Db := renewable.exec (.activate (activation "attestation_two" 10))

/-- The database in which the renewal has also expired. -/
def lapsed : Db := renewed.exec (.expire (expiry "attestation_two" 110))

/-- The first attestation, once it is active. -/
def attestationOne : Attestation :=
  { id := 123, externalReference := "attestation_one", committeeId := 1, participantId := 2
    requestId := 101, policyVersionId := 3, version := 1, state := .active, validFrom := 0
    expiresAt := 100, issuanceComplete := true, supersedesId := none }

/-- Its renewal, once it is issued. -/
def attestationTwo : Attestation :=
  { id := 152, externalReference := "attestation_two", committeeId := 1, participantId := 2
    requestId := 130, policyVersionId := 3, version := 2, state := .issued, validFrom := 10
    expiresAt := 110, issuanceComplete := false, supersedesId := some 123 }

/-- The first request, once it is issued. -/
def requestOne : VerificationRequest :=
  { id := 101, externalReference := "request_one", committeeId := 1, participantId := 2
    policyVersionId := 3, state := .issued, version := 7 }

/-- The second request, once it is issued. -/
def requestTwo : VerificationRequest :=
  { id := 130, externalReference := "request_two", committeeId := 1, participantId := 2
    policyVersionId := 3, state := .issued, version := 7 }

theorem approved_reachable {C : Db → Command → Prop}
    (hc : ∀ command ∈ issuedRequest "request_one", ∀ db, C db command) : approved.Reachable C :=
  db_initial.reachable.foldl hc

theorem offered_reachable {C : Db → Command → Prop} (h : approved.Reachable C)
    (hc : C approved (issue "attestation_one" "request_one" none 0 100)) : offered.Reachable C :=
  h.exec hc

theorem requested_reachable : requested.Reachable fun _ _ => True :=
  (offered_reachable (approved_reachable fun _ _ _ => trivial) trivial).foldl fun _ _ _ => trivial

theorem unrenewed_reachable : unrenewed.Reachable fun _ _ => True :=
  requested_reachable.exec trivial

theorem renewable_reachable : renewable.Reachable fun _ _ => True :=
  requested_reachable.exec trivial

theorem lapsed_reachable : lapsed.Reachable fun _ _ => True :=
  (renewable_reachable.exec trivial).exec trivial

/-- What these commands leave, evaluated together. -/
theorem evaluation :
    (requestOne ∈ approved.requests ∧ approved.attestations = [] ∧
      approved.committees = [{ id := 1, externalReference := "committee_one" }] ∧
      approved.idempotencyRecord (context "attestation_one_issue") = none ∧
      (∀ o ∈ approved.outbox, o.idempotencyKeyHash ≠
        outboxKeyHash (context "attestation_one_issue") "AttestationIssued") ∧
      ∀ o ∈ approved.outbox, o.id < approved.nextId) ∧
    offered.attestations.map Attestation.supersedesId = [none] ∧
    renewable.attestations = [attestationOne, attestationTwo] ∧
    renewed.attestations = [{ attestationOne with state := .superseded },
      { attestationTwo with state := .active, issuanceComplete := true }] ∧
    (lapsed.attestations = [{ attestationOne with state := .superseded },
        { attestationTwo with state := .expired, issuanceComplete := true }] ∧
      lapsed.toDomainTables.statusAt attestationOne.id 50 = some .active ∧
      lapsed.toDomainTables.statusAt attestationTwo.id 50 = some .active) ∧
    ((renewable.exec (.expire (expiry "attestation_one" 100))).attestations =
        [{ attestationOne with state := .expired }, attestationTwo] ∧
      (renewable.exec (.activate (activation "attestation_two" 100))).attestations =
        [{ attestationOne with state := .superseded },
          { attestationTwo with state := .active, issuanceComplete := true }] ∧
      ((renewable.exec (.expire (expiry "attestation_one" 100))).exec
        (.activate (activation "attestation_two" 100))).attestations =
          [{ attestationOne with state := .expired }, attestationTwo]) ∧
    unrenewed.attestations = [{ attestationOne with state := .expired }] ∧
    requestTwo ∈ unrenewed.requests := by
  decide +kernel

end Sample

/-! ## The invariant -/

/-- The attestations of a participant in a committee, in the order they were issued. -/
def DomainTables.attestationsOf (d : DomainTables) (committeeId participantId : Uuid) :
    List Attestation :=
  d.attestations.filter fun a => a.committeeId = committeeId && a.participantId = participantId

/-- The rows of the domain tables fit together. -/
structure DomainTables.Consistent (d : DomainTables) : Prop where
  requestIds : Table.Unique VerificationRequest.id d.requests
  requestReferences : Table.Unique VerificationRequest.externalReference d.requests
  requestTenant : ∀ r ∈ d.requests, (∃ c ∈ d.committees, c.id = r.committeeId) ∧
    (∃ p ∈ d.participants, p.id = r.participantId) ∧
    (∃ v ∈ d.policyVersions, v.id = r.policyVersionId)
  requestOpaque : ∀ r ∈ d.requests,
    isOpaqueReference r.externalReference = true ∧ '@' ∉ r.externalReference.toList
  attestationIds : Table.Unique Attestation.id d.attestations
  attestationReferences : Table.Unique Attestation.externalReference d.attestations
  attestationRequests : Table.Unique Attestation.requestId d.attestations
  request : ∀ a ∈ d.attestations, ∃ r ∈ d.requests, r.id = a.requestId ∧
    r.committeeId = a.committeeId ∧ r.participantId = a.participantId ∧
    r.state = a.state.toVerification
  statusIds : Table.Unique AttestationStatus.attestationId d.statuses
  status : ∀ a ∈ d.attestations, ∃ s ∈ d.statuses, s.attestationId = a.id ∧ s.state = a.state
  statusTenant : ∀ s ∈ d.statuses, ∃ a ∈ d.attestations, a.id = s.attestationId
  complete : ∀ a ∈ d.attestations, a.issuanceComplete = true ↔ a.state ≠ .issued
  window : ∀ a ∈ d.attestations, a.validFrom < a.expiresAt
  versions : ∀ c p, (d.attestationsOf c p).map Attestation.version =
    List.range' 1 (d.attestationsOf c p).length
  predecessor : ∀ a ∈ d.attestations, ∀ id, a.supersedesId = some id →
    ∃ b ∈ d.attestations, b.id = id ∧ b.committeeId = a.committeeId ∧
      b.participantId = a.participantId ∧ a.version = b.version + 1
  first : ∀ a ∈ d.attestations, a.supersedesId = none ↔ a.version = 1
  revocationIds : Table.Unique AttestationRevocation.attestationId d.revocations
  revocationTenant : ∀ r ∈ d.revocations, ∃ a ∈ d.attestations, a.id = r.attestationId

/-- What every reachable database satisfies: its rows fit together, a renewed attestation was
active when it was renewed and is superseded once its successor has been activated, and exactly the
revoked attestations have a revocation. -/
structure DomainTables.Sound (d : DomainTables) : Prop extends d.Consistent where
  superseded : ∀ a ∈ d.attestations, ∀ b ∈ d.attestations, a.supersedesId = some b.id →
    b.state ≠ .issued ∧ (a.state ≠ .issued → b.state = .superseded)
  revocation : ∀ a ∈ d.attestations,
    a.state = .revoked ↔ ∃ r ∈ d.revocations, r.attestationId = a.id

end ChecksAndBalances
