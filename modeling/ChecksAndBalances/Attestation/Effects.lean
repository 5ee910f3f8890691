import ChecksAndBalances.Attestation.Commands

/-!
# What a command does to the domain tables

`Effect d command d'` lists every change that a command can make to the tables of verification and
attestation.  `effect_of_exec` reads it off the repositories once; the invariants of the runs are
then proved case by case on `Effect`.
-/

namespace ChecksAndBalances

open Lib Lib.Tx

namespace DomainTables

/-- The row of an attestation in its new state. -/
def movedAttestation (state : AttestationState) (complete : Bool) (a : Attestation) :
    Attestation :=
  { a with state, issuanceComplete := complete || a.issuanceComplete }

/-- The three rows that move with the state of an attestation. -/
def setState (d : DomainTables) (a : Attestation) (state : AttestationState) (effectiveAt : ℤ)
    (complete : Bool) : DomainTables :=
  { d with
    attestations := Table.set (fun b => b.id = a.id) (movedAttestation state complete)
      d.attestations
    statuses := Table.set (fun s => s.attestationId = a.id)
      (fun s => { s with state, effectiveAt, version := s.version + 1 }) d.statuses
    requests := Table.set (fun r => r.id = a.requestId)
      (VerificationRequest.advance state.toVerification) d.requests }

/-- The new attestation extends the chain of its participant: it is the first version, or it renews
the active attestation `b`. -/
def Extends (d : DomainTables) (new : Attestation) : Prop :=
  (new.version = 1 ∧ new.supersedesId = none) ∨
    ∃ b ∈ d.attestations, b.committeeId = new.committeeId ∧ b.participantId = new.participantId ∧
      b.state = .active ∧ new.version = b.version + 1 ∧ new.supersedesId = some b.id

/-- What `issue` checks of the row it inserts. -/
structure Issuable (d : DomainTables) (new : Attestation) : Prop where
  request : ∃ r ∈ d.requests, r.id = new.requestId ∧ r.committeeId = new.committeeId ∧
    r.participantId = new.participantId ∧ r.state = .issued
  extend : d.Extends new
  state : new.state = .issued
  incomplete : new.issuanceComplete = false
  window : new.validFrom < new.expiresAt
  newId : ∀ a ∈ d.attestations, a.id ≠ new.id
  newReference : ∀ a ∈ d.attestations, a.externalReference ≠ new.externalReference
  newSuccessor : new.supersedesId.isSome → ∀ a ∈ d.attestations,
    a.supersedesId ≠ new.supersedesId
  newVersion : ∀ a ∈ d.attestations, a.committeeId = new.committeeId →
    a.participantId = new.participantId → a.version ≠ new.version

end DomainTables

open DomainTables in
/-- The changes a command can make to the domain tables. -/
inductive Effect : DomainTables → Command → DomainTables → Prop
  | unchanged (d : DomainTables) (command : Command) : Effect d command d
  | requested (d : DomainTables) (input) (row : VerificationRequest)
      (newId : ∀ r ∈ d.requests, r.id ≠ row.id)
      (newReference : ∀ r ∈ d.requests, r.externalReference ≠ row.externalReference)
      (tenant : (∃ c ∈ d.committees, c.id = row.committeeId) ∧
        (∃ p ∈ d.participants, p.id = row.participantId) ∧
        (∃ v ∈ d.policyVersions, v.id = row.policyVersionId))
      (isOpaque : isOpaqueReference row.externalReference = true ∧
        '@' ∉ row.externalReference.toList) :
      Effect d (.createRequest input) { d with requests := d.requests ++ [row] }
  | decided (d : DomainTables) (input) (decisions : List ReviewDecision) :
      Effect d (.recordReviewDecision input) { d with decisions }
  | moved (d : DomainTables) (command input) (p : VerificationRequest → Bool)
      (state : VerificationState)
      (outside : ∀ r ∈ d.requests, p r = true → ∀ s : AttestationState,
        r.state ≠ s.toVerification) :
      Effect d (.transition command input)
        { d with requests := Table.set p (VerificationRequest.advance state) d.requests }
  | issued (d : DomainTables) (input) (new : Attestation) (issuable : d.Issuable new)
      (named : ∃ r ∈ d.requests, r.id = new.requestId ∧
        r.externalReference = input.requestReference) :
      Effect d (.issue input)
        { d with
          attestations := d.attestations ++ [new]
          statuses := d.statuses ++ [
            { attestationId := new.id, committeeId := new.committeeId, state := .issued
              effectiveAt := new.validFrom, version := 1 }] }
  | activated (d : DomainTables) (input : AttestationRepository.MutateAttestationInput)
      (a : Attestation) (mem : a ∈ d.attestations)
      (named : a.externalReference = input.attestationReference) (state : a.state = .issued)
      (window : a.validFrom ≤ input.observedAt ∧ input.observedAt < a.expiresAt)
      (first : a.supersedesId = none) :
      Effect d (.activate input) (d.setState a .active input.observedAt true)
  | renewed (d : DomainTables) (input : AttestationRepository.MutateAttestationInput)
      (a b : Attestation) (mem : a ∈ d.attestations)
      (named : a.externalReference = input.attestationReference) (state : a.state = .issued)
      (window : a.validFrom ≤ input.observedAt ∧ input.observedAt < a.expiresAt)
      (memPrior : b ∈ d.attestations) (prior : a.supersedesId = some b.id)
      (priorState : b.state = .active) :
      Effect d (.activate input) ((d.setState a .active input.observedAt true).setState b
        .superseded input.observedAt false)
  | expired (d : DomainTables) (input : AttestationRepository.MutateAttestationInput)
      (a : Attestation) (mem : a ∈ d.attestations)
      (named : a.externalReference = input.attestationReference) (state : a.state = .active)
      (due : a.expiresAt ≤ input.observedAt) :
      Effect d (.expire input) (d.setState a .expired input.observedAt false)
  | revoked (d : DomainTables) (input : AttestationRepository.RevokeAttestationInput)
      (a : Attestation) (r : AttestationRevocation) (mem : a ∈ d.attestations)
      (named : a.externalReference = input.attestationReference) (state : a.state = .active)
      (of : r.attestationId = a.id) (effective : r.effectiveAt = input.observedAt)
      (new : ∀ r' ∈ d.revocations, r'.attestationId ≠ a.id) :
      Effect d (.revoke input) (setState { d with revocations := d.revocations ++ [r] } a .revoked
        input.observedAt false)

/-! ## Requests -/

section Requests

open VerificationRepository

theorem keeps_loadRecord (committeeId : Uuid) (reference : String) (replayed : Bool) :
    Keeps Db.toDomainTables (loadRecord committeeId reference replayed) :=
  keeps_get.bind fun _ => keeps_found.bind fun _ => keeps_found.bind fun _ =>
    keeps_found.bind fun _ => keeps_pure

theorem keeps_replayRecord (record : VerificationRecord) (idempotency : IdempotencyResult) :
    Keeps Db.toDomainTables (replayRecord record idempotency) :=
  keeps_require.bind fun _ => keeps_pure

/-- The bookkeeping of a command on a request leaves the domain tables alone. -/
theorem keeps_finish (committeeId id : Uuid) (context : CommandContext) (command : String)
    (target : AuditTarget) (eventType : String) (version : ℕ) (state : String) :
    Keeps Db.toDomainTables
      (finish committeeId id context command target eventType version state) := by
  refine (keeps_appendAudit (fun _ _ _ _ => rfl) _ _ _ _ _).bind fun _ => ?_
  refine Keeps.bind ?_ fun _ => keeps_completeIdempotency _ _ _ _
  exact (keeps_newId fun _ _ => rfl).bind fun _ => keeps_insertOutboxEvent _ _ _ _ _ _ _ _ _

theorem guardVerificationTransition_eq_ok_iff {r : VerificationRequest}
    {state : VerificationState} :
    guardVerificationTransition r (r.advance state) = .ok () ↔
      verificationTransitionAllowed r.state state = true := by
  cases h : verificationTransitionAllowed r.state state <;>
    simp [guardVerificationTransition, VerificationRequest.advance, h]

theorem commits_updateRequests {p : VerificationRequest → Bool} {state : VerificationState}
    {db db' : Db} {rows : List VerificationRequest} :
    Commits (updateRequests p state) db rows db' ↔
      (∀ r ∈ db.requests, p r = true → verificationTransitionAllowed r.state state = true) ∧
        db' = { db with requests := Table.set p (VerificationRequest.advance state) db.requests } ∧
        rows = (db.requests.filter p).map (VerificationRequest.advance state) := by
  unfold updateRequests
  simp only [commits_bind, commits_get, commits_lift, commits_modify, commits_pure,
    Table.update_eq_ok_iff, guardVerificationTransition_eq_ok_iff]
  constructor
  · rintro ⟨_, _, ⟨rfl, rfl⟩, _, _, ⟨⟨hall, rfl⟩, rfl⟩, _, _, rfl, rfl, rfl⟩
    exact ⟨hall, rfl, rfl⟩
  · rintro ⟨hall, rfl, rfl⟩
    exact ⟨db, db, ⟨rfl, rfl⟩, _, db, ⟨⟨hall, rfl⟩, rfl⟩, (), _, rfl, rfl, rfl⟩

/-- No named transition moves a request that an attestation may already hang on. -/
theorem RequestTransition.run_eq (c : RequestTransition) :
    ∃ name command, c.run = transition name command ∧
      ∀ s next, command s = .ok next → ∀ a : AttestationState,
        verificationTransitionAllowed a.toVerification next = false := by
  cases c
  all_goals
    refine ⟨_, _, rfl, fun s next h a => ?_⟩
    rw [(Verification.transition_eq_ok_iff.1 h).2]
    cases a <;> rfl

theorem effect_createRequest {input : CreateVerificationRequestInput} {db db' : Db}
    {record : VerificationRecord} (h : Commits (createRequest input) db record db') :
    Effect db.toDomainTables (.createRequest input) db'.toDomainTables := by
  simp only [createRequest, requireOpaqueReference, commits_require_bind,
    commits_committeeId_bind] at h
  obtain ⟨isOpaque, -, -, c, hc, h⟩ := h
  obtain ⟨idempotency, db₁, hbegin, h⟩ := commits_bind.1 h
  have same : db₁.toDomainTables = db.toDomainTables :=
    keeps_beginIdempotency (fun _ _ _ => rfl) _ _ _ _ _ _ hbegin
  split_ifs at h
  · -- a replay only reads
    have kept := ((keeps_loadRecord _ _ _).bind fun _ => keeps_replayRecord _ _) _ _ _ h
    rw [kept, same]
    exact .unchanged _ _
  · obtain ⟨_, db₂, hinsert, h⟩ := commits_bind.1 h
    have kept := ((keeps_finish _ _ _ _ _ _ _ _).bind fun _ => keeps_loadRecord _ _ _) _ _ _ h
    simp only [insertRequest, requireUnique, requireReference, commits_get_bind,
      commits_found_bind] at hinsert
    obtain ⟨participant, hp, hinsert⟩ := hinsert
    obtain ⟨id, db₃, hid, hinsert⟩ := commits_bind.1 hinsert
    have same₃ : db₃.toDomainTables = db₁.toDomainTables :=
      keeps_useId (fun _ _ => rfl) _ _ _ _ hid
    simp only [commits_require_bind, commits_modify] at hinsert
    obtain ⟨newId, newReference, policy, rfl⟩ := hinsert
    rw [kept, same₃, same]
    rw [same] at hp newId newReference policy
    refine .requested _ _ _ ?_ ?_ ⟨⟨c, List.mem_of_find?_eq_some hc, rfl⟩,
      ⟨participant, List.mem_of_find?_eq_some hp, rfl⟩, ?_⟩ isOpaque
    · simpa using newId
    · simpa using newReference
    · simpa using policy

theorem effect_transition {c : RequestTransition} {input : TransitionInput} {db db' : Db}
    {record : VerificationRecord} (h : Commits (c.run input) db record db') :
    Effect db.toDomainTables (.transition c input) db'.toDomainTables := by
  obtain ⟨name, command, hrun, outside⟩ := c.run_eq
  rw [hrun] at h
  simp only [transition, requireOpaqueReference, commits_require_bind,
    commits_committeeId_bind] at h
  obtain ⟨-, -, c, hc, h⟩ := h
  obtain ⟨idempotency, db₁, hbegin, h⟩ := commits_bind.1 h
  have same : db₁.toDomainTables = db.toDomainTables :=
    keeps_beginIdempotency (fun _ _ _ => rfl) _ _ _ _ _ _ hbegin
  split_ifs at h
  · have kept := ((keeps_loadRecord _ _ _).bind fun _ => keeps_replayRecord _ _) _ _ _ h
    rw [kept, same]
    exact .unchanged _ _
  · obtain ⟨current, db₂, hload, h⟩ := commits_bind.1 h
    have same₂ : db₂.toDomainTables = db₁.toDomainTables := keeps_loadRecord _ _ _ _ _ _ hload
    simp only [commits_require_bind, commits_lift_bind] at h
    obtain ⟨-, next, hnext, h⟩ := h
    obtain ⟨rows, db₃, hupdate, h⟩ := commits_bind.1 h
    obtain ⟨allowed, rfl, -⟩ := commits_updateRequests.1 hupdate
    have kept := (keeps_found.bind fun _ => keeps_get.bind fun _ =>
      (keeps_finish _ _ _ _ _ _ _ _).bind fun _ => keeps_pure) _ _ _ h
    rw [kept, same₂, same]
    rw [same₂, same] at allowed
    refine .moved _ _ _ _ _ fun r hr hp a hra => ?_
    have hallowed := allowed r hr hp
    rw [hra, outside current.state next hnext a] at hallowed
    exact absurd hallowed (by decide)

/-- What `recordReviewDecision` has checked of the decision it inserts. -/
structure DecisionRecorded (d : DomainTables) (input : RecordReviewDecisionInput) (c : Committee)
    (r : VerificationRequest) (m : CommitteeMember) (new : ReviewDecision) : Prop where
  eligible : ∃ reviewer, requireEligibleReviewer input.authorization = .ok reviewer ∧
    reviewer.actorReference = input.context.actor.reference
  committee : c ∈ d.committees ∧ c.externalReference = input.context.committeeReference ∧
    new.committeeId = c.id
  request : r ∈ d.requests ∧ r.externalReference = input.requestReference ∧
    r.committeeId = c.id ∧ new.requestId = r.id
  member : m ∈ d.members ∧ m.externalReference = input.reviewerMemberReference ∧
    m.committeeId = c.id ∧ m.state = .active ∧ new.reviewerMemberId = m.id
  reference : new.externalReference = input.externalReference
  first : ∀ old ∈ d.decisions, old.requestId = r.id → old.reviewerMemberId ≠ m.id

/-- A review decision is replayed without a change, or it is inserted as checked. -/
theorem recordReviewDecision_spec {input : RecordReviewDecisionInput} {db db' : Db}
    {replayed : Bool} (h : Commits (recordReviewDecision input) db replayed db') :
    (replayed = true ∧ db'.toDomainTables = db.toDomainTables) ∨
      (replayed = false ∧ ∃ c r m new, DecisionRecorded db.toDomainTables input c r m new ∧
        db'.toDomainTables =
          { db.toDomainTables with decisions := db.decisions ++ [new] }) := by
  simp only [recordReviewDecision, requireOpaqueReference, commits_require_bind,
    commits_lift_bind, commits_committeeId_bind] at h
  obtain ⟨-, reviewer, hreviewer, hactor, -, c, hc, h⟩ := h
  obtain ⟨hcmem, hckey⟩ := Table.mem_of_find? hc
  obtain ⟨idempotency, db₁, hbegin, h⟩ := commits_bind.1 h
  have same : db₁.toDomainTables = db.toDomainTables :=
    keeps_beginIdempotency (fun _ _ _ => rfl) _ _ _ _ _ _ hbegin
  split_ifs at h
  · obtain ⟨rfl, rfl⟩ := commits_pure.1 h
    exact Or.inl ⟨rfl, same⟩
  · right
    obtain ⟨_, db₂, hinsert, h⟩ := commits_bind.1 h
    obtain ⟨_, db₂', hfinish, hpure⟩ := commits_bind.1 h
    obtain ⟨rfl, rfl⟩ := commits_pure.1 hpure
    have kept := keeps_finish _ _ _ _ _ _ _ _ _ _ _ hfinish
    obtain ⟨request, db₃, hload, hinsert⟩ := commits_bind.1 hinsert
    have same₃ : db₃.toDomainTables = db₁.toDomainTables := keeps_loadRecord _ _ _ _ _ _ hload
    simp only [requireUnique, requireReference, commits_require_bind, commits_get_bind,
      commits_found_bind] at hinsert
    obtain ⟨-, m, hm, -, r, hr, hinsert⟩ := hinsert
    obtain ⟨hmmem, hmkey⟩ := Table.mem_of_find? hm
    obtain ⟨hrmem, hrkey⟩ := Table.mem_of_find? hr
    simp only [Bool.and_eq_true, decide_eq_true_eq] at hckey hmkey hrkey
    obtain ⟨id, db₄, hid, hinsert⟩ := commits_bind.1 hinsert
    have same₄ : db₄.toDomainTables = db₃.toDomainTables :=
      keeps_useId (fun _ _ => rfl) _ _ _ _ hid
    simp only [commits_require_bind, commits_modify] at hinsert
    obtain ⟨-, -, first, -, rfl⟩ := hinsert
    simp only [same₃, same] at hmmem hrmem first
    rw [same₄, same₃, same] at kept
    refine ⟨rfl, c, r, m, _, ?_, kept⟩
    refine ⟨⟨reviewer, hreviewer, hactor⟩, ⟨hcmem, hckey, rfl⟩,
      ⟨hrmem, hrkey.1, hrkey.2, rfl⟩, ⟨hmmem, hmkey.1.1, hmkey.1.2, hmkey.2, rfl⟩, rfl, ?_⟩
    simpa [imp_iff_not_or] using first

theorem effect_recordReviewDecision {input : RecordReviewDecisionInput} {db db' : Db}
    {replayed : Bool} (h : Commits (recordReviewDecision input) db replayed db') :
    Effect db.toDomainTables (.recordReviewDecision input) db'.toDomainTables := by
  rcases recordReviewDecision_spec h with ⟨-, hsame⟩ | ⟨-, c, r, m, new, -, hnew⟩
  · rw [hsame]
    exact .unchanged _ _
  · rw [hnew]
    exact .decided _ _ _

end Requests

/-! ## Attestations -/

section Attestations

open AttestationRepository

theorem keeps_load (committeeId : Uuid) (reference : String) (replayed : Bool) :
    Keeps Db.toDomainTables (load committeeId reference replayed) :=
  Keeps.bind (keeps_get.bind fun _ => keeps_found) fun _ => keeps_pure

theorem keeps_replay (committeeId : Uuid) (reference : String) (replayed : Bool)
    (idempotency : IdempotencyResult) :
    Keeps Db.toDomainTables
      (load committeeId reference replayed >>= fun record => replayRecord record idempotency) :=
  (keeps_load _ _ _).bind fun _ => keeps_require.bind fun _ => keeps_pure

/-- The announcement of a state change leaves the domain tables alone. -/
theorem keeps_announce (committeeId : Uuid) (context : CommandContext) (command reference : String)
    (priorState : Option AttestationState) (eventType : String) (version : ℕ)
    (state : AttestationState) :
    Keeps Db.toDomainTables
      (announce committeeId context command reference priorState eventType version state) := by
  refine (keeps_appendAudit (fun _ _ _ _ => rfl) _ _ _ _ _).bind fun _ => ?_
  exact (keeps_newId fun _ _ => rfl).bind fun _ => keeps_insertOutboxEvent _ _ _ _ _ _ _ _ _

/-- What `loadRow` finds. -/
theorem selectRow_spec {db : Db} {committeeId : Uuid} {reference : String} {row : AttestationRow}
    (h : selectRow db committeeId reference = some row) :
    (row.toAttestation ∈ db.attestations ∧ row.committeeId = committeeId ∧
      row.externalReference = reference) ∧
    ∃ r ∈ db.requests, r.id = row.requestId ∧ r.state = row.requestState ∧
      r.version = row.requestVersion := by
  simp only [selectRow, Option.bind_eq_bind, Option.bind_eq_some_iff] at h
  obtain ⟨a, ha, c, -, p, -, r, hr, s, -, hrow⟩ := h
  obtain ⟨hmem, hkey⟩ := Table.mem_of_find? ha
  obtain ⟨hrmem, hrid⟩ := Table.mem_of_find? hr
  simp only [Bool.and_eq_true, decide_eq_true_eq] at hkey hrid
  cases hrow
  exact ⟨⟨hmem, hkey⟩, r, hrmem, hrid, rfl, rfl⟩

/-- `updateAttestationAndRequest` moves the attestation, its status and its request together. -/
theorem updateAttestationAndRequest_spec {row : AttestationRow} {state : AttestationState}
    {effectiveAt : ℤ} {complete : Bool} {db db' : Db} {u : Unit}
    (h : Commits (updateAttestationAndRequest row state effectiveAt complete) db u db')
    (ids : Table.Unique VerificationRequest.id db.requests)
    (request : ∃ r ∈ db.requests, r.id = row.requestId ∧ r.state = row.requestState ∧
      r.version = row.requestVersion) :
    db'.toDomainTables =
      db.toDomainTables.setState row.toAttestation state effectiveAt complete := by
  simp only [updateAttestationAndRequest, commits_get_bind, commits_lift_bind,
    commits_modify_bind, Table.update_eq_ok_iff] at h
  obtain ⟨rows, ⟨-, rfl⟩, h⟩ := h
  obtain ⟨_, _, hupdate, hpure⟩ := commits_bind.1 h
  obtain ⟨-, rfl, -⟩ := commits_updateRequests.1 hupdate
  rw [(commits_pure.1 hpure).2]
  have hset : Table.set (fun r => r.id = row.requestId && r.version = row.requestVersion)
      (VerificationRequest.advance state.toVerification) db.requests =
      Table.set (fun r => r.id = row.requestId)
        (VerificationRequest.advance state.toVerification) db.requests := by
    refine Table.set_congr fun r hr => ?_
    obtain ⟨r₀, hr₀, hid, -, hversion⟩ := request
    by_cases hr₁ : r.id = row.requestId
    · rw [ids r hr r₀ hr₀ (hr₁.trans hid.symm)]
      simp [hid, hversion]
    · simp [hr₁]
  simp only [DomainTables.setState, hset]
  rfl

/-- The new version of an issuance: the first one, or the one after the active attestation. -/
theorem renewalOf_spec {committeeId participantId : Uuid} {reference : Option String} {db db' : Db}
    {renewal : ℕ × Option Uuid}
    (h : Commits (renewalOf committeeId reference participantId) db renewal db') :
    db' = db ∧ ((truthy reference = false ∧ renewal = (1, none)) ∨
      ∃ b ∈ db.attestations, some b.externalReference = reference ∧
        b.committeeId = committeeId ∧ b.participantId = participantId ∧ b.state = .active ∧
        renewal = (b.version + 1, some b.id)) := by
  unfold renewalOf at h
  split_ifs at h with ht
  · simp only [commits_get_bind, commits_found_bind, commits_require_bind, commits_pure] at h
    obtain ⟨b, hb, ⟨hparticipant, hstate⟩, rfl, rfl⟩ := h
    obtain ⟨hmem, hkey⟩ := Table.mem_of_find? hb
    simp only [Bool.and_eq_true, decide_eq_true_eq] at hkey
    exact ⟨rfl, Or.inr ⟨b, hmem, hkey.1, hkey.2, hparticipant, hstate, rfl⟩⟩
  · obtain ⟨rfl, rfl⟩ := commits_pure.1 h
    exact ⟨rfl, Or.inl ⟨by simpa using ht, rfl⟩⟩

theorem effect_issueRow {input : IssueAttestationInput} {committeeId : Uuid} {db db' : Db}
    {version : ℕ} (h : Commits (issueRow input committeeId) db version db') :
    Effect db.toDomainTables (.issue input) db'.toDomainTables := by
  simp only [issueRow, commits_get_bind, commits_found_bind, commits_require_bind] at h
  obtain ⟨request, hrequest, hissued, h⟩ := h
  obtain ⟨hmem, hkey⟩ := Table.mem_of_find? hrequest
  simp only [Bool.and_eq_true, decide_eq_true_eq] at hkey
  obtain ⟨⟨version', supersedesId⟩, db₁, hrenewal, hrest⟩ := commits_bind.1 h
  obtain ⟨hdb, hrenewal⟩ := renewalOf_spec hrenewal
  rw [hdb] at hrest
  simp only [commits_lift_bind] at hrest
  obtain ⟨validity, -, h⟩ := hrest
  obtain ⟨id, db₂, hid, h⟩ := commits_bind.1 h
  have same : db₂.toDomainTables = db.toDomainTables := keeps_useId (fun _ _ => rfl) _ _ _ _ hid
  obtain ⟨_, db₃, hinsert, h⟩ := commits_bind.1 h
  obtain ⟨-, rfl⟩ := commits_pure.1 h
  simp only [insertAttestation, requireUnique, requireReference, commits_get_bind,
    commits_require_bind, commits_modify] at hinsert
  obtain ⟨-, -, hwindow, -, newId, newReference, newSuccessor, newVersion, -, rfl⟩ := hinsert
  rw [same] at newId newReference newSuccessor newVersion ⊢
  refine .issued _ _ _ ⟨⟨request, hmem, rfl, hkey.2, rfl, hissued⟩, ?_, rfl, rfl, ?_, ?_, ?_, ?_, ?_⟩
    ⟨request, hmem, rfl, hkey.1⟩
  · rcases hrenewal with ⟨-, hrenewal⟩ | ⟨b, hb, -, hc, hp, hstate, hrenewal⟩
    · simp only [Prod.mk.injEq] at hrenewal
      exact Or.inl hrenewal
    · simp only [Prod.mk.injEq] at hrenewal
      exact Or.inr ⟨b, hb, hc, hp, hstate, hrenewal⟩
  · simp only [validityWindow, Bool.and_eq_true, decide_eq_true_eq] at hwindow
    exact hwindow.1
  · simpa using newId
  · simpa using newReference
  · intro hsome a ha heq
    have := List.all_eq_true.1 newSuccessor a ha
    simp [hsome, heq] at this
  · intro a ha hc hp hv
    have := List.all_eq_true.1 newVersion a ha
    simp [hc, hp, hv] at this

theorem effect_issue {input : IssueAttestationInput} {db db' : Db} {record : AttestationRecord}
    (h : Commits (issue input) db record db') :
    Effect db.toDomainTables (.issue input) db'.toDomainTables := by
  simp only [issue, requireOpaqueReference, commits_require_bind, commits_committeeId_bind] at h
  obtain ⟨-, -, -, c, hc, h⟩ := h
  obtain ⟨idempotency, db₁, hbegin, h⟩ := commits_bind.1 h
  have same : db₁.toDomainTables = db.toDomainTables :=
    keeps_beginIdempotency (fun _ _ _ => rfl) _ _ _ _ _ _ hbegin
  split_ifs at h
  · rw [keeps_replay _ _ _ _ _ _ _ h, same]
    exact .unchanged _ _
  · obtain ⟨version, db₂, hissue, h⟩ := commits_bind.1 h
    have kept := ((keeps_announce _ _ _ _ _ _ _ _).bind fun _ =>
      (keeps_completeIdempotency _ _ _ _).bind fun _ => keeps_load _ _ _) _ _ _ h
    rw [kept, ← same]
    exact effect_issueRow hissue

theorem commits_loadRow_bind {β : Type} {committeeId : Uuid} {reference : String}
    {k : AttestationRow → DbTx β} {db db' : Db} {b : β} :
    Commits (loadRow committeeId reference >>= k) db b db' ↔
      ∃ row, selectRow db committeeId reference = some row ∧ Commits (k row) db b db' := by
  simp [loadRow, commits_bind, commits_get, commits_found, and_assoc]

theorem activateCheck_spec {row : AttestationRow} {observedAt : ℤ} {db db' : Db} {u : Unit}
    (h : Commits (checkActiveState .activateAttestation row observedAt) db u db') :
    db' = db ∧ (row.validFrom ≤ observedAt ∧ observedAt < row.expiresAt) ∧
      row.requestState = .issued := by
  simp only [checkActiveState, commits_require_bind, commits_lift_bind, commits_pure] at h
  obtain ⟨hwindow, next, hnext, -, rfl⟩ := h
  exact ⟨rfl, hwindow, (Verification.transition_eq_ok_iff.1 hnext).1⟩

theorem expireCheck_spec {row : AttestationRow} {observedAt : ℤ} {db db' : Db} {u : Unit}
    (h : Commits (checkActiveState .expireAttestation row observedAt) db u db') :
    db' = db ∧ row.expiresAt ≤ observedAt ∧ row.requestState = .active := by
  simp only [checkActiveState, commits_require_bind, commits_lift_bind, commits_pure] at h
  obtain ⟨hdue, next, hnext, -, rfl⟩ := h
  exact ⟨rfl, hdue, (Verification.transition_eq_ok_iff.1 hnext).1⟩

/-- In a sound database the request a row was joined with tells the state of the attestation. -/
theorem DomainTables.Sound.state_eq {d : DomainTables} (sound : d.Sound) {a : Attestation}
    (ha : a ∈ d.attestations) {r : VerificationRequest} (hr : r ∈ d.requests)
    (hid : r.id = a.requestId) {s : AttestationState} (hs : r.state = s.toVerification) :
    a.state = s := by
  obtain ⟨r₀, hr₀, hid₀, -, -, hstate⟩ := sound.request a ha
  rw [sound.requestIds r hr r₀ hr₀ (hid.trans hid₀.symm), hstate] at hs
  exact AttestationState.toVerification_injective hs

/-- What `changeActiveState` has committed before it looks at a predecessor; under a used key it
changes nothing. -/
theorem changeActiveState_spec {command : ActiveStateCommand} {input : MutateAttestationInput}
    {db db' : Db} {record : AttestationRecord} (sound : db.toDomainTables.Sound)
    (h : Commits (changeActiveState command input) db record db') :
    (db.idempotencyRecord input.context ≠ none ∧ db'.toDomainTables = db.toDomainTables) ∨
      (db.idempotencyRecord input.context = none ∧
      ∃ (row : AttestationRow) (cid : Uuid) (db₁ db₂ : Db),
        row.toAttestation ∈ db.attestations ∧
        row.externalReference = input.attestationReference ∧ row.committeeId = cid ∧
        (∃ r ∈ db.requests, r.id = row.requestId ∧ r.state = row.requestState) ∧
        Commits (checkActiveState command row input.observedAt) db₁ () db₁ ∧
        db₂.toDomainTables = db.toDomainTables.setState row.toAttestation command.targetState
          input.observedAt (command == .activateAttestation) ∧
        ∃ db₃ : Db, db'.toDomainTables = db₃.toDomainTables ∧
          Commits (supersedePrior command row cid input.observedAt input.context) db₂ () db₃) := by
  simp only [changeActiveState, commits_committeeId_bind] at h
  obtain ⟨-, c, hc, h⟩ := h
  obtain ⟨idempotency, db₁, hbegin, h⟩ := commits_bind.1 h
  have same : db₁.toDomainTables = db.toDomainTables :=
    keeps_beginIdempotency (fun _ _ _ => rfl) _ _ _ _ _ _ hbegin
  have hreplayed : idempotency.replayed = (db.idempotencyRecord input.context).isSome := by
    rcases commits_beginIdempotencyIn.1 hbegin with ⟨hnone, rfl, -⟩ | ⟨row, hrow, -, -, rfl, -⟩
    · exact (congrArg Option.isSome hnone).symm
    · exact (congrArg Option.isSome hrow).symm
  rw [hreplayed] at h
  split_ifs at h with hused
  · left
    exact ⟨Option.isSome_iff_ne_none.1 hused, by rw [keeps_replay _ _ _ _ _ _ _ h, same]⟩
  · right
    refine ⟨by simpa using hused, ?_⟩
    simp only [commits_loadRow_bind, commits_require_bind] at h
    obtain ⟨row, hrow, -, h⟩ := h
    obtain ⟨⟨hmem, hcid, href⟩, r, hr, hrid, hrstate, hrversion⟩ := selectRow_spec hrow
    obtain ⟨_, db₁', hcheck, h⟩ := commits_bind.1 h
    obtain ⟨_, db₂, hupdate, h⟩ := commits_bind.1 h
    obtain ⟨_, db₃, hprior, h⟩ := commits_bind.1 h
    have kept := ((keeps_announce _ _ _ _ _ _ _ _).bind fun _ =>
      (keeps_completeIdempotency _ _ _ _).bind fun _ => keeps_load _ _ _) _ _ _ h
    have hcheck' : db₁' = db₁ := by
      cases command with
      | activateAttestation => exact (activateCheck_spec hcheck).1
      | expireAttestation => exact (expireCheck_spec hcheck).1
    rw [hcheck'] at hcheck hupdate
    have hids : Table.Unique VerificationRequest.id db₁.requests := by
      rw [same]
      exact sound.requestIds
    have hset := updateAttestationAndRequest_spec hupdate hids ⟨r, hr, hrid, hrstate, hrversion⟩
    rw [same] at hset hmem hr
    exact ⟨row, c.id, db₁, db₂, hmem, href, hcid, ⟨r, hr, hrid, hrstate⟩, hcheck, hset, db₃,
      kept, hprior⟩

theorem effect_expire {input : MutateAttestationInput} {db db' : Db} {record : AttestationRecord}
    (sound : db.toDomainTables.Sound) (h : Commits (expire input) db record db') :
    Effect db.toDomainTables (.expire input) db'.toDomainTables := by
  rcases changeActiveState_spec sound h with ⟨-, hsame⟩ | ⟨-, row, cid, db₁, db₂, hmem, href, -,
    ⟨r, hr, hrid, hrstate⟩, hcheck, hset, db₃, hdb₃, hprior⟩
  · rw [hsame]
    exact .unchanged _ _
  · obtain ⟨-, hdue, hactive⟩ := expireCheck_spec hcheck
    obtain ⟨-, rfl⟩ := commits_pure.1 hprior
    rw [hdb₃, hset]
    exact .expired _ _ _ hmem href
      (sound.state_eq hmem hr hrid (s := .active) (hrstate.trans hactive)) hdue

/-- No attestation renews itself. -/
theorem DomainTables.Sound.ne_predecessor {d : DomainTables} (sound : d.Sound) {a b : Attestation}
    (ha : a ∈ d.attestations) (hb : b ∈ d.attestations) (hab : a.supersedesId = some b.id) :
    b.id ≠ a.id ∧ b.requestId ≠ a.requestId := by
  obtain ⟨b', hb', hid, -, -, hversion⟩ := sound.predecessor a ha b.id hab
  obtain rfl := sound.attestationIds b' hb' b hb hid
  constructor
  · intro h
    rw [sound.attestationIds b' hb a ha h] at hversion
    omega
  · intro h
    rw [sound.attestationRequests b' hb a ha h] at hversion
    omega

/-- The predecessor that an activation loads after it has moved `a` is the stored one. -/
theorem loadRowById_spec {d : DomainTables} (sound : d.Sound) {a : Attestation}
    (ha : a ∈ d.attestations) {id cid : Uuid} (hprior : a.supersedesId = some id)
    {effectiveAt : ℤ} {db db' : Db} {row : AttestationRow}
    (hset : db.toDomainTables = d.setState a .active effectiveAt true)
    (h : Commits (loadRowById id cid) db row db') :
    db' = db ∧ row.toAttestation ∈ d.attestations ∧ row.id = id ∧
      (∃ r ∈ d.requests, r.id = row.requestId ∧ r.state = row.requestState) ∧
      ∃ r ∈ db.requests, r.id = row.requestId ∧ r.state = row.requestState ∧
        r.version = row.requestVersion := by
  simp only [loadRowById, loadRow, commits_get_bind, commits_found_bind, commits_found] at h
  obtain ⟨b, hb, hrow, rfl⟩ := h
  obtain ⟨hbmem, hbkey⟩ := Table.mem_of_find? hb
  simp only [Bool.and_eq_true, decide_eq_true_eq] at hbkey
  obtain ⟨⟨hmem, -, href⟩, r, hr, hrid, hrstate, hrversion⟩ := selectRow_spec hrow
  have hrefs : Table.Unique Attestation.externalReference db'.attestations := by
    rw [hset]
    exact sound.attestationReferences.set fun _ => rfl
  have hrowid : row.id = id := by
    rw [hrefs _ hmem b hbmem href]
    exact hbkey.1
  -- `a` itself is not its predecessor, so the row loaded was not moved
  obtain ⟨b₀, hb₀, hb₀id, -⟩ := sound.predecessor a ha id hprior
  obtain ⟨hne, hreq⟩ := sound.ne_predecessor ha hb₀ (hb₀id.symm ▸ hprior)
  have hold : row.toAttestation ∈ d.attestations := by
    rw [hset] at hmem
    rcases Table.mem_set.1 hmem with ⟨a₀, -, ha₀, heq⟩ | ⟨hmem, -⟩
    · rw [decide_eq_true_eq] at ha₀
      have hmoved : row.id = a₀.id := by
        rw [heq]
        rfl
      exact absurd (hb₀id.trans (hrowid.symm.trans (hmoved.trans ha₀))) hne
    · exact hmem
  have hrow₀ : row.toAttestation = b₀ :=
    sound.attestationIds _ hold b₀ hb₀ (hrowid.trans hb₀id.symm)
  refine ⟨rfl, hold, hrowid, ⟨r, ?_, hrid, hrstate⟩, r, hr, hrid, hrstate, hrversion⟩
  rw [hset] at hr
  rcases Table.mem_set.1 hr with ⟨r₀, -, hr₀, heq⟩ | ⟨hmem, -⟩
  · rw [decide_eq_true_eq] at hr₀
    have hadvanced : r.id = r₀.id := by
      rw [heq]
      rfl
    rw [← hrow₀] at hreq
    exact absurd (hrid.symm.trans (hadvanced.trans hr₀)) hreq
  · exact hmem

/-- Under a used key `activate` changes nothing; under a new one it moves an issued attestation to
active and the predecessor, if there is one, to superseded. -/
theorem activate_spec {input : MutateAttestationInput} {db db' : Db}
    {record : AttestationRecord} (sound : db.toDomainTables.Sound)
    (h : Commits (activate input) db record db') :
    (db.idempotencyRecord input.context ≠ none ∧ db'.toDomainTables = db.toDomainTables) ∨
      (db.idempotencyRecord input.context = none ∧
        ∃ a ∈ db.attestations, a.externalReference = input.attestationReference ∧
          a.state = .issued ∧ (a.validFrom ≤ input.observedAt ∧ input.observedAt < a.expiresAt) ∧
          ((a.supersedesId = none ∧ db'.toDomainTables =
              db.toDomainTables.setState a .active input.observedAt true) ∨
            ∃ b ∈ db.attestations, a.supersedesId = some b.id ∧ b.state = .active ∧
              db'.toDomainTables = (db.toDomainTables.setState a .active input.observedAt
                true).setState b .superseded input.observedAt false)) := by
  rcases changeActiveState_spec sound h with hsame | ⟨hunused, row, cid, db₁, db₂, hmem, href, -,
    ⟨r, hr, hrid, hrstate⟩, hcheck, hset, db₃, hdb₃, hprior⟩
  · exact Or.inl hsame
  · obtain ⟨-, hwindow, hissued⟩ := activateCheck_spec hcheck
    have hstate := sound.state_eq hmem hr hrid (s := .issued) (hrstate.trans hissued)
    refine Or.inr ⟨hunused, row.toAttestation, hmem, href, hstate, hwindow, ?_⟩
    rw [hdb₃]
    cases hid : row.supersedesId with
    | none =>
      simp only [supersedePrior, hid, commits_pure] at hprior
      rw [hprior.2, hset]
      exact Or.inl ⟨rfl, rfl⟩
    | some id =>
      simp only [supersedePrior, hid] at hprior
      obtain ⟨b, db₂', hload, hrest⟩ := commits_bind.1 hprior
      obtain ⟨hdb, hbmem, hbid, ⟨rb, hrb, hrbid, hrbstate⟩, hrequest⟩ :=
        loadRowById_spec sound hmem hid hset hload
      rw [hdb] at hrest
      simp only [commits_lift_bind] at hrest
      obtain ⟨next, hnext, hrest⟩ := hrest
      have hactive : b.requestState = .active := (Verification.transition_eq_ok_iff.1 hnext).1
      obtain ⟨_, db₄, hupdate, hannounce⟩ := commits_bind.1 hrest
      have hids : Table.Unique VerificationRequest.id db₂.requests := by
        rw [hset]
        exact sound.requestIds.set fun _ => rfl
      rw [keeps_announce _ _ _ _ _ _ _ _ _ _ _ hannounce,
        updateAttestationAndRequest_spec hupdate hids hrequest, hset]
      exact Or.inr ⟨b.toAttestation, hbmem, by rw [hbid],
        sound.state_eq hbmem hrb hrbid (s := .active) (hrbstate.trans hactive), rfl⟩

theorem effect_activate {input : MutateAttestationInput} {db db' : Db}
    {record : AttestationRecord} (sound : db.toDomainTables.Sound)
    (h : Commits (activate input) db record db') :
    Effect db.toDomainTables (.activate input) db'.toDomainTables := by
  rcases activate_spec sound h with ⟨-, hsame⟩ | ⟨-, a, ha, named, state, window, hmoved⟩
  · rw [hsame]
    exact .unchanged _ _
  · rcases hmoved with ⟨first, hset⟩ | ⟨b, hb, prior, priorState, hset⟩
    · rw [hset]
      exact .activated _ _ _ ha named state window first
    · rw [hset]
      exact .renewed _ _ _ _ ha named state window hb prior priorState

theorem effect_revoke {input : RevokeAttestationInput} {db db' : Db} {record : AttestationRecord}
    (sound : db.toDomainTables.Sound) (h : Commits (revoke input) db record db') :
    Effect db.toDomainTables (.revoke input) db'.toDomainTables := by
  simp only [revoke, commits_committeeId_bind] at h
  obtain ⟨-, c, hc, h⟩ := h
  obtain ⟨idempotency, db₁, hbegin, h⟩ := commits_bind.1 h
  have same : db₁.toDomainTables = db.toDomainTables :=
    keeps_beginIdempotency (fun _ _ _ => rfl) _ _ _ _ _ _ hbegin
  split_ifs at h
  · rw [keeps_replay _ _ _ _ _ _ _ h, same]
    exact .unchanged _ _
  · simp only [commits_loadRow_bind, commits_require_bind] at h
    obtain ⟨row, hrow, -, h⟩ := h
    obtain ⟨⟨hmem, -, href⟩, r, hr, hrid, hrstate, hrversion⟩ := selectRow_spec hrow
    obtain ⟨_, db₂, hrevoke, h⟩ := commits_bind.1 h
    have kept := ((keeps_announce _ _ _ _ _ _ _ _).bind fun _ =>
      (keeps_completeIdempotency _ _ _ _).bind fun _ => keeps_load _ _ _) _ _ _ h
    simp only [revokeRow, requireUnique, requireReference, commits_lift_bind,
      commits_get_bind] at hrevoke
    obtain ⟨next, hnext, hrevoke⟩ := hrevoke
    obtain ⟨id, db₃, hid, hrevoke⟩ := commits_bind.1 hrevoke
    have same₃ : db₃.toDomainTables = db₁.toDomainTables :=
      keeps_useId (fun _ _ => rfl) _ _ _ _ hid
    simp only [commits_require_bind, commits_modify_bind] at hrevoke
    obtain ⟨-, new, -, hupdate⟩ := hrevoke
    have hactive : row.state = .active :=
      AttestationState.toVerification_injective (Verification.transition_eq_ok_iff.1 hnext).1
    have hids : Table.Unique VerificationRequest.id db₃.requests := by
      rw [same₃, same]
      exact sound.requestIds
    have hset := updateAttestationAndRequest_spec hupdate hids
      ⟨r, by rw [← same₃] at hr; exact hr, hrid, hrstate, hrversion⟩
    rw [kept, hset]
    simp only [same₃, same] at hmem new ⊢
    exact .revoked _ _ _ _ hmem href hactive rfl rfl (by simpa using new)

/-- Every command makes one of the listed changes. -/
theorem effect_of_exec {db : Db} (sound : db.toDomainTables.Sound) (command : Command) :
    Effect db.toDomainTables command (db.exec command).toDomainTables := by
  cases command with
  | createRequest input =>
    rcases commit_cases (VerificationRepository.createRequest input) db with ⟨_, h⟩ | ⟨-, h⟩
    · exact effect_createRequest h
    · simp only [Db.exec, h]
      exact .unchanged _ _
  | transition c input =>
    rcases commit_cases (c.run input) db with ⟨_, h⟩ | ⟨-, h⟩
    · exact effect_transition h
    · simp only [Db.exec, h]
      exact .unchanged _ _
  | recordReviewDecision input =>
    rcases commit_cases (VerificationRepository.recordReviewDecision input) db with
      ⟨_, h⟩ | ⟨-, h⟩
    · exact effect_recordReviewDecision h
    · simp only [Db.exec, h]
      exact .unchanged _ _
  | issue input =>
    rcases commit_cases (issue input) db with ⟨_, h⟩ | ⟨-, h⟩
    · exact effect_issue h
    · simp only [Db.exec, h]
      exact .unchanged _ _
  | activate input =>
    rcases commit_cases (activate input) db with ⟨_, h⟩ | ⟨-, h⟩
    · exact effect_activate sound h
    · simp only [Db.exec, h]
      exact .unchanged _ _
  | expire input =>
    rcases commit_cases (expire input) db with ⟨_, h⟩ | ⟨-, h⟩
    · exact effect_expire sound h
    · simp only [Db.exec, h]
      exact .unchanged _ _
  | revoke input =>
    rcases commit_cases (revoke input) db with ⟨_, h⟩ | ⟨-, h⟩
    · exact effect_revoke sound h
    · simp only [Db.exec, h]
      exact .unchanged _ _
  | clock now => exact .unchanged _ _

end Attestations

end ChecksAndBalances
