import ChecksAndBalances.Db.AttestationRepository
import ChecksAndBalances.Db.LifecycleRepository
import ChecksAndBalances.Lib.Within

/-!
# Bounds of the commands

The repositories write the audit tables through `appendAudit` and the idempotency records through
`beginIdempotency` and `completeIdempotency` only.  So a preorder on databases that bounds these
three, and that sees no other table, bounds every command.  `Audits` is about the first of them: the
parts of a command besides its key use no other.  Here are the commands on requests,
attestations and lifecycles; the stores of the worker, the links and the services follow in
`Audit.Stores`.
-/

namespace ChecksAndBalances

open Lib Lib.Tx

/-- The tables that record the commands themselves. -/
def Db.ledgers (db : Db) : List AuditEvent × List AuditChainHead × List IdempotencyRecord :=
  (db.audit, db.auditChainHeads, db.idempotency)

/-- The preorder bounds what is written to the audit tables, and sees the ledgers only. -/
structure Audits (R : Db → Db → Prop) : Prop where
  rest : ∀ db db' : Db, db'.ledgers = db.ledgers → R db db'
  audit : ∀ context committeeId command target result,
    Within R (appendAudit context committeeId command target result)

/-- The preorder bounds what is written to the ledgers, and sees them only. -/
structure Bounds (R : Db → Db → Prop) : Prop extends Audits R where
  begins : ∀ scope committeeId command context,
    Within R (beginIdempotencyIn scope committeeId command context)
  completes : ∀ id reference version state,
    Within R (completeIdempotency id reference version state)

section Parts

variable {R : Db → Db → Prop} [IsPreorder Db R] (hR : Audits R)

include hR

namespace Audits

omit [IsPreorder Db R] in
theorem keeps {α : Type} {t : DbTx α} (h : Keeps Db.ledgers t) : Within R t :=
  h.within hR.rest

omit [IsPreorder Db R] in
theorem update {f : Db → Db} (h : ∀ db, (f db).ledgers = db.ledgers) :
    Within R (modify f : DbTx Unit) :=
  hR.keeps (keeps_modify h)

omit [IsPreorder Db R] in
theorem newId : Within R newId := hR.keeps (keeps_newId fun _ _ => rfl)

omit [IsPreorder Db R] in
theorem useId (id : Option Uuid) : Within R (useId id) :=
  hR.keeps (keeps_useId (fun _ _ => rfl) id)

theorem insertOutboxEvent (id : Uuid) (committeeId : Option Uuid) (eventType aggregateType
    aggregateReference schemaVersion payloadReference payloadDigest keyHash : String) :
    Within R (insertOutboxEvent id committeeId eventType aggregateType aggregateReference
      schemaVersion payloadReference payloadDigest keyHash) := by
  refine within_get.bind fun _ => within_require.bind fun _ => within_require.bind fun _ => ?_
  apply hR.update
  intro db
  rfl

omit [IsPreorder Db R] in
theorem committeeId (reference : String) : Within R (committeeId reference) :=
  hR.keeps (keeps_committeeId _ _)

theorem updateRequests (p : VerificationRequest → Bool) (state : VerificationState) :
    Within R (updateRequests p state) := by
  refine within_get.bind fun _ => within_lift.bind fun _ => Within.bind (hR.update ?_) fun _ => ?_
  · intro db
    rfl
  · exact within_pure

/-! ## Parts of the commands on requests -/

open VerificationRepository

omit hR in
theorem loadRecord (committeeId : Uuid) (reference : String) (replayed : Bool) :
    Within R (loadRecord committeeId reference replayed) :=
  within_get.bind fun _ => within_found.bind fun _ => within_found.bind fun _ =>
    within_found.bind fun _ => within_pure

omit hR in
theorem replayRequest (committeeId : Uuid) (reference : String) (idempotency : IdempotencyResult) :
    Within R (VerificationRepository.loadRecord committeeId reference true >>= fun record =>
      VerificationRepository.replayRecord record idempotency) :=
  (loadRecord _ _ _).bind fun _ => within_require.bind fun _ => within_pure

theorem insertRequest (input : CreateVerificationRequestInput) (committeeId : Uuid) :
    Within R (insertRequest input committeeId) := by
  refine within_get.bind fun _ => within_found.bind fun _ => (hR.useId _).bind fun _ => ?_
  refine within_require.bind fun _ => within_require.bind fun _ => within_require.bind fun _ => ?_
  apply hR.update
  intro db
  rfl

theorem insertDecision (input : RecordReviewDecisionInput) (committeeId : Uuid) :
    Within R (insertDecision input committeeId) := by
  refine (loadRecord _ _ _).bind fun _ => within_require.bind fun _ => within_get.bind fun _ => ?_
  refine within_found.bind fun _ => within_require.bind fun _ => within_found.bind fun _ => ?_
  refine (hR.useId _).bind fun _ => within_require.bind fun _ => within_require.bind fun _ => ?_
  refine within_require.bind fun _ => within_require.bind fun _ => ?_
  apply hR.update
  intro db
  rfl

/-! ## Parts of the commands on attestations -/

open AttestationRepository

omit hR in
theorem loadRow (committeeId : Uuid) (reference : String) :
    Within R (loadRow committeeId reference) :=
  within_get.bind fun _ => within_found

omit hR in
theorem loadAttestation (committeeId : Uuid) (reference : String) (replayed : Bool) :
    Within R (AttestationRepository.load committeeId reference replayed) :=
  (loadRow _ _).bind fun _ => within_pure

omit hR in
theorem replayAttestation (committeeId : Uuid) (reference : String)
    (idempotency : IdempotencyResult) :
    Within R (AttestationRepository.load committeeId reference true >>= fun record =>
      AttestationRepository.replayRecord record idempotency) :=
  (loadAttestation _ _ _).bind fun _ => within_require.bind fun _ => within_pure

theorem announce (committeeId : Uuid) (context : CommandContext) (command reference : String)
    (priorState : Option AttestationState) (eventType : String) (version : ℕ)
    (state : AttestationState) :
    Within R (announce committeeId context command reference priorState eventType version state) :=
  (hR.audit _ _ _ _ _).bind fun _ => hR.newId.bind fun _ => hR.insertOutboxEvent _ _ _ _ _ _ _ _ _

theorem updateAttestationAndRequest (row : AttestationRow) (state : AttestationState)
    (effectiveAt : ℤ) (issuanceComplete : Bool) :
    Within R (updateAttestationAndRequest row state effectiveAt issuanceComplete) := by
  refine within_get.bind fun _ => within_lift.bind fun _ => Within.bind (hR.update ?_) fun _ => ?_
  · intro db
    rfl
  · exact (hR.updateRequests _ _).bind fun _ => within_pure

omit hR in
theorem renewalOf (committeeId : Uuid) (supersedesReference : Option String)
    (participantId : Uuid) : Within R (renewalOf committeeId supersedesReference participantId) := by
  unfold AttestationRepository.renewalOf
  split_ifs
  · refine within_get.bind fun _ => within_found.bind fun _ => within_require.bind fun _ => ?_
    exact within_pure
  · exact within_pure

theorem insertAttestation (new : Attestation) : Within R (insertAttestation new) := by
  refine within_get.bind fun _ => within_require.bind fun _ => within_require.bind fun _ => ?_
  refine within_require.bind fun _ => within_require.bind fun _ => within_require.bind fun _ => ?_
  refine within_require.bind fun _ => within_require.bind fun _ => within_require.bind fun _ => ?_
  refine within_require.bind fun _ => hR.update ?_
  intro db
  rfl

theorem issueRow (input : IssueAttestationInput) (committeeId : Uuid) :
    Within R (issueRow input committeeId) := by
  refine within_get.bind fun _ => within_found.bind fun _ => within_require.bind fun _ => ?_
  refine (renewalOf _ _ _).bind fun _ => within_lift.bind fun _ => (hR.useId _).bind fun _ => ?_
  exact (hR.insertAttestation _).bind fun _ => within_pure

omit hR in
theorem checkActiveState (command : ActiveStateCommand) (row : AttestationRow) (observedAt : ℤ) :
    Within R (checkActiveState command row observedAt) := by
  cases command with
  | activateAttestation =>
    exact within_require.bind fun _ => within_lift.bind fun _ => within_pure
  | expireAttestation =>
    exact within_require.bind fun _ => within_lift.bind fun _ => within_pure

theorem supersedePrior (command : ActiveStateCommand) (row : AttestationRow) (committeeId : Uuid)
    (observedAt : ℤ) (context : CommandContext) :
    Within R (supersedePrior command row committeeId observedAt context) := by
  unfold AttestationRepository.supersedePrior
  split
  · have hload : ∀ id, Within R (loadRowById id committeeId) := fun _ =>
      within_get.bind fun _ => within_found.bind fun _ => loadRow _ _
    refine (hload _).bind fun _ => within_lift.bind fun _ => ?_
    exact (hR.updateAttestationAndRequest _ _ _ _).bind fun _ => hR.announce _ _ _ _ _ _ _ _
  · exact within_pure

theorem revokeRow (input : RevokeAttestationInput) (committeeId : Uuid) (row : AttestationRow) :
    Within R (revokeRow input committeeId row) := by
  refine within_lift.bind fun _ => within_get.bind fun _ => (hR.useId _).bind fun _ => ?_
  refine within_require.bind fun _ => within_require.bind fun _ => within_require.bind fun _ => ?_
  refine Within.bind (hR.update ?_) fun _ => hR.updateAttestationAndRequest _ _ _ _
  intro db
  rfl

/-! ## Parts of a lifecycle transition -/

section Lifecycles

variable {Row State LifecycleCommand : Type} (t : TableConfig Row State LifecycleCommand)

omit [IsPreorder Db R] in
/-- A table of the lifecycles is not one of the ledgers. -/
theorem withRows (rows : List Row) : Within R (modify fun db => t.withRows db rows : DbTx Unit) := by
  apply hR.update
  intro db
  have hbesides := t.besides_withRows db rows
  simp only [Db.besides, Prod.mk.injEq] at hbesides
  obtain ⟨-, -, hrecords, haudit, hheads, -⟩ := hbesides
  rw [Db.ledgers, hrecords, haudit, hheads]
  rfl

theorem advance (command : LifecycleCommand) (row : Row) (input : LifecycleTransitionInput) :
    Within R (t.advance command row input) := by
  refine within_require.bind fun _ => within_lift.bind fun _ => within_get.bind fun _ => ?_
  refine within_lift.bind fun _ => Within.bind ?_ fun _ => within_found.bind fun _ => within_pure
  refine within_get.bind fun _ => within_lift.bind fun _ => ?_
  exact (hR.withRows t _).bind fun _ => within_pure

theorem announceTransition (command : LifecycleCommand) (row : Row) (next : State) (version : ℕ)
    (input : LifecycleTransitionInput) : Within R (t.announce command row next version input) :=
  (hR.audit _ _ _ _ _).bind fun _ => hR.newId.bind fun _ => hR.insertOutboxEvent _ _ _ _ _ _ _ _ _

end Lifecycles

end Audits

end Parts

/-! ## Commands -/

section Commands

variable {R : Db → Db → Prop} [IsPreorder Db R] (hR : Bounds R)

include hR

namespace Bounds

open VerificationRepository AttestationRepository

theorem finish (committeeId id : Uuid) (context : CommandContext) (command : String)
    (target : AuditTarget) (eventType : String) (version : ℕ) (state : String) :
    Within R (finish committeeId id context command target eventType version state) := by
  refine (hR.audit _ _ _ _ _).bind fun _ => ?_
  refine Within.bind (hR.newId.bind fun _ => hR.insertOutboxEvent _ _ _ _ _ _ _ _ _) fun _ => ?_
  exact hR.completes _ _ _ _

theorem createRequest (input : CreateVerificationRequestInput) :
    Within R (createRequest input) := by
  refine within_require.bind fun _ => within_require.bind fun _ => ?_
  refine (hR.committeeId _).bind fun _ => (hR.begins _ _ _ _).bind fun idempotency => ?_
  split
  · exact Audits.replayRequest _ _ _
  · refine (hR.insertRequest _ _).bind fun _ => (hR.finish _ _ _ _ _ _ _ _).bind fun _ => ?_
    exact Audits.loadRecord _ _ _

theorem verificationTransition (commandName : String) (command : VerificationCommand)
    (input : TransitionInput) :
    Within R (VerificationRepository.transition commandName command input) := by
  refine within_require.bind fun _ => ?_
  refine (hR.committeeId _).bind fun _ => (hR.begins _ _ _ _).bind fun idempotency => ?_
  split
  · exact Audits.replayRequest _ _ _
  · refine (Audits.loadRecord _ _ _).bind fun _ => within_require.bind fun _ => ?_
    refine within_lift.bind fun _ => (hR.updateRequests _ _).bind fun _ => ?_
    refine within_found.bind fun _ => within_get.bind fun _ => ?_
    exact (hR.finish _ _ _ _ _ _ _ _).bind fun _ => within_pure

theorem recordReviewDecision (input : RecordReviewDecisionInput) :
    Within R (recordReviewDecision input) := by
  refine within_require.bind fun _ => within_lift.bind fun _ => within_require.bind fun _ => ?_
  refine (hR.committeeId _).bind fun _ => (hR.begins _ _ _ _).bind fun idempotency => ?_
  split
  · exact within_pure
  · refine (hR.insertDecision _ _).bind fun _ => (hR.finish _ _ _ _ _ _ _ _).bind fun _ => ?_
    exact within_pure

theorem issue (input : IssueAttestationInput) : Within R (issue input) := by
  refine within_require.bind fun _ => within_require.bind fun _ => ?_
  refine (hR.committeeId _).bind fun _ => (hR.begins _ _ _ _).bind fun idempotency => ?_
  split
  · exact Audits.replayAttestation _ _ _
  · refine (hR.issueRow _ _).bind fun _ => (hR.announce _ _ _ _ _ _ _ _).bind fun _ => ?_
    exact (hR.completes _ _ _ _).bind fun _ => Audits.loadAttestation _ _ _

theorem changeActiveState (command : ActiveStateCommand) (input : MutateAttestationInput) :
    Within R (changeActiveState command input) := by
  refine (hR.committeeId _).bind fun _ => (hR.begins _ _ _ _).bind fun idempotency => ?_
  split
  · exact Audits.replayAttestation _ _ _
  · refine (Audits.loadRow _ _).bind fun _ => within_require.bind fun _ => ?_
    refine (Audits.checkActiveState _ _ _).bind fun _ => ?_
    refine (hR.updateAttestationAndRequest _ _ _ _).bind fun _ => ?_
    refine (hR.supersedePrior _ _ _ _ _).bind fun _ => (hR.announce _ _ _ _ _ _ _ _).bind fun _ => ?_
    exact (hR.completes _ _ _ _).bind fun _ => Audits.loadAttestation _ _ _

theorem revoke (input : RevokeAttestationInput) : Within R (revoke input) := by
  refine (hR.committeeId _).bind fun _ => (hR.begins _ _ _ _).bind fun idempotency => ?_
  split
  · exact Audits.replayAttestation _ _ _
  · refine (Audits.loadRow _ _).bind fun _ => within_require.bind fun _ => ?_
    refine (hR.revokeRow _ _ _).bind fun _ => (hR.announce _ _ _ _ _ _ _ _).bind fun _ => ?_
    exact (hR.completes _ _ _ _).bind fun _ => Audits.loadAttestation _ _ _

theorem lifecycleTransition {Row State LifecycleCommand : Type}
    (t : TableConfig Row State LifecycleCommand) (command : LifecycleCommand)
    (input : LifecycleTransitionInput) : Within R (t.transition command input) := by
  refine within_require.bind fun _ => Within.bind ?_ fun loaded => ?_
  · exact within_get.bind fun _ => within_found.bind fun _ => within_pure
  refine within_require.bind fun _ => within_require.bind fun _ => ?_
  refine (hR.begins _ _ _ _).bind fun idempotency => ?_
  split
  · exact within_require.bind fun _ => within_pure
  · refine (hR.advance t _ _ _).bind fun _ => (hR.announceTransition t _ _ _ _ _).bind fun _ => ?_
    exact (hR.completes _ _ _ _).bind fun _ => within_pure

end Bounds

end Commands

end ChecksAndBalances
