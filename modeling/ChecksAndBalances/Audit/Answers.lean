import ChecksAndBalances.Attestation.Effects
import ChecksAndBalances.Audit.Records

/-!
# The answers of the commands

A command under a new key completes the record of the key with what it answers.  Under a used key it
answers from the record, and it changes nothing.
-/

namespace ChecksAndBalances

open Lib Lib.Tx

/-- What a command says of its target. -/
structure CommandOutcome where
  reference : String
  state : String
  version : ℕ
  replayed : Bool
  deriving DecidableEq, Repr

/-- The command is the first under its key, or it repeats the call that the record of the key
answers; a state is read back when it is one of `states`. -/
inductive Answered (db : Db) (scope command reference : String) (context : CommandContext)
    (states : Set String) (outcome : CommandOutcome) (db' : Db) : Prop
  | first (record : IdempotencyRecord)
      (unused : db.idempotencyAt scope (sha256 context.idempotencyKey) = none)
      (stored : db'.idempotencyAt scope (sha256 context.idempotencyKey) = some record)
      (answers : record.Answers context command reference outcome.state outcome.version)
      (state : outcome.state ∈ states)
      (target : outcome.reference = reference ∧ outcome.replayed = false)
  | repeated (record : IdempotencyRecord)
      (stored : db.idempotencyAt scope (sha256 context.idempotencyKey) = some record)
      (same : record.requestDigest = context.requestDigest ∧ record.command = command ∧
        record.resultReference = some reference)
      (outcome_eq : ∀ state ∈ states, record.resultState = some state →
        outcome = ⟨reference, state, record.resultVersion.getD 0, true⟩)
      (replayed : outcome.replayed = true)
      (unchanged : db' = { db with nextId := db.nextId + 1 })

section Requests

open VerificationRepository

variable {committeeId : Uuid} {reference command : String} {context : CommandContext}
  {db db₁ db' : Db} {record : VerificationRecord} {idempotency : IdempotencyResult}

/-- The answer of a command on a request. -/
def VerificationRepository.VerificationRecord.outcome (r : VerificationRecord) : CommandOutcome :=
  ⟨r.externalReference, r.state.name, r.version, r.replayed⟩

theorem VerificationState.ofName?_name (s : VerificationState) :
    VerificationState.ofName? s.name = some s := by
  cases s <;> decide

theorem loadRecord_spec {replayed : Bool}
    (h : Commits (loadRecord committeeId reference replayed) db record db') :
    db' = db ∧ (record.externalReference = reference ∧ record.replayed = replayed) ∧
      ∃ r, db.requests.find? (fun r =>
          r.externalReference = reference && r.committeeId = committeeId) = some r ∧
        record.state = r.state ∧ record.version = r.version := by
  simp only [loadRecord, commits_get_bind, commits_found_bind, commits_pure] at h
  obtain ⟨r, hr, p, -, c, -, rfl, rfl⟩ := h
  obtain ⟨-, hkey⟩ := Table.mem_of_find? hr
  simp only [Bool.and_eq_true, decide_eq_true_eq] at hkey
  exact ⟨rfl, ⟨hkey.1, rfl⟩, r, hr, rfl, rfl⟩

theorem repeated_request (hbegin : Commits (beginIdempotency committeeId command context) db
      idempotency db₁) (hreplayed : idempotency.replayed = true)
    (h : Commits (loadRecord committeeId reference true >>= fun record =>
      replayRecord record idempotency) db₁ record db') :
    Answered db (idempotencyScope context) command reference context
      (Set.range VerificationState.name) record.outcome db' := by
  obtain ⟨row, hrow, ⟨hdigest, hcommand⟩, href, hstate, hversion, rfl⟩ :=
    answers_of_replayed hbegin hreplayed
  obtain ⟨loaded, db₂, hload, h⟩ := commits_bind.1 h
  obtain ⟨rfl, ⟨hloaded, -⟩, -⟩ := loadRecord_spec hload
  simp only [replayRecord, commits_require_bind, commits_pure] at h
  obtain ⟨⟨hresult, -⟩, rfl, rfl⟩ := h
  refine .repeated row hrow ⟨hdigest, hcommand, ?_⟩ ?_ rfl rfl
  · rw [← href, hresult, hloaded]
  · rintro _ ⟨state, rfl⟩ hrecorded
    unfold VerificationRecord.outcome
    rw [hloaded, hstate, hversion, hrecorded, Option.bind_some, VerificationState.ofName?_name]
    rfl

/-- The bookkeeping of a command on a request ends with its record. -/
theorem finish_spec {id : Uuid} {target : AuditTarget} {eventType state : String} {version : ℕ}
    {u : Unit} (h : Commits (finish committeeId id context command target eventType version state)
      db u db') :
    ∃ db₁ : Db, db.SameRecords db₁ ∧
      Commits (completeIdempotency id target.reference version state) db₁ () db' := by
  obtain ⟨hash, db₁, haudit, h⟩ := commits_bind.1 h
  obtain ⟨_, db₂, henqueue, h⟩ := commits_bind.1 h
  obtain ⟨newId, db₃, hid, henqueue⟩ := commits_bind.1 henqueue
  refine ⟨db₂, ?_, h⟩
  have hR := audits_sameRecords
  exact IsTrans.trans _ _ _ (hR.audit _ _ _ _ _ _ _ _ haudit)
    (IsTrans.trans _ _ _ (hR.newId _ _ _ hid) (hR.insertOutboxEvent _ _ _ _ _ _ _ _ _ _ _ _ henqueue))

/-- What a new request leaves for the commands after it. -/
theorem insertRequest_spec {input : CreateVerificationRequestInput} {u : Unit}
    (h : Commits (insertRequest input committeeId) db u db') :
    ∃ r : VerificationRequest, db'.requests = db.requests ++ [r] ∧
      (r.externalReference = input.externalReference ∧ r.committeeId = committeeId ∧
        r.state = .requested ∧ r.version = 1) ∧
      ∀ old ∈ db.requests, old.externalReference ≠ input.externalReference := by
  simp only [insertRequest, requireUnique, requireReference, commits_get_bind,
    commits_found_bind] at h
  obtain ⟨participant, -, h⟩ := h
  obtain ⟨id, db₁, hid, h⟩ := commits_bind.1 h
  have hrequests : db₁.requests = db.requests :=
    keeps_useId (f := fun db => db.requests) (fun _ _ => rfl) _ _ _ _ hid
  simp only [commits_require_bind, commits_modify] at h
  obtain ⟨-, hnew, -, rfl⟩ := h
  refine ⟨_, by rw [← hrequests], ⟨rfl, rfl, rfl, rfl⟩, ?_⟩
  simpa using hnew

theorem answered_createRequest {input : CreateVerificationRequestInput}
    (h : Commits (createRequest input) db record db') :
    Answered db (idempotencyScope input.context) "createVerificationRequest"
      input.externalReference input.context (Set.range VerificationState.name) record.outcome
      db' := by
  simp only [createRequest, requireOpaqueReference, commits_require_bind,
    commits_committeeId_bind] at h
  obtain ⟨-, -, -, c, -, h⟩ := h
  obtain ⟨idempotency, db₁, hbegin, h⟩ := commits_bind.1 h
  split_ifs at h with hreplayed
  · exact repeated_request hbegin hreplayed h
  · obtain ⟨_, db₂, hinsert, h⟩ := commits_bind.1 h
    obtain ⟨_, db₃, hfinish, hload⟩ := commits_bind.1 h
    obtain ⟨r, hrequests, ⟨href, hcommittee, hstate, hversion⟩, hfree⟩ :=
      insertRequest_spec hinsert
    have hkept : db₃.toDomainTables = db₂.toDomainTables := keeps_finish _ _ _ _ _ _ _ _ _ _ _ hfinish
    obtain ⟨db₂', hsame, hcomplete⟩ := finish_spec hfinish
    have hbody : db₁.SameRecords db₂' :=
      IsTrans.trans _ _ _ (audits_sameRecords.insertRequest _ _ _ _ _ hinsert) hsame
    have hnew : idempotency.replayed = false := by simpa using hreplayed
    obtain ⟨stored, hstored, hanswers⟩ := answers_of_completed hbegin hnew hbody hcomplete
    obtain ⟨rfl, ⟨htarget, hfirst⟩, r', hr', hstate', hversion'⟩ := loadRecord_spec hload
    have hfound : db'.requests.find? (fun r => r.externalReference = input.externalReference &&
        r.committeeId = c.id) = some r := by
      rw [show db'.requests = db₂.requests from congrArg DomainTables.requests hkept, hrequests,
        List.find?_append, List.find?_eq_none.2, Option.none_or]
      · simp [href, hcommittee]
      · intro old hold
        simp [hfree old hold]
    obtain rfl := Option.some.inj (hfound.symm.trans hr')
    have hname : record.state.name = "requested" := by
      rw [hstate', hstate]
      rfl
    refine .first stored (unused_of_new hbegin hnew) hstored ?_ ⟨_, rfl⟩ ⟨htarget, hfirst⟩
    rw [show record.outcome.state = "requested" from hname,
      show record.outcome.version = 1 from hversion'.trans hversion]
    exact hanswers

theorem answered_transition {name : String} {command : VerificationCommand}
    {input : TransitionInput} (h : Commits (transition name command input) db record db') :
    Answered db (idempotencyScope input.context) name input.requestReference input.context
      (Set.range VerificationState.name) record.outcome db' := by
  simp only [transition, requireOpaqueReference, commits_require_bind,
    commits_committeeId_bind] at h
  obtain ⟨-, -, c, -, h⟩ := h
  obtain ⟨idempotency, db₁, hbegin, h⟩ := commits_bind.1 h
  split_ifs at h with hreplayed
  · exact repeated_request hbegin hreplayed h
  · obtain ⟨current, db₂, hload, h⟩ := commits_bind.1 h
    rw [(loadRecord_spec hload).1] at h
    simp only [commits_require_bind, commits_lift_bind] at h
    obtain ⟨-, next, -, h⟩ := h
    obtain ⟨rows, db₃, hupdate, h⟩ := commits_bind.1 h
    simp only [commits_found_bind, commits_get_bind] at h
    obtain ⟨updated, -, h⟩ := h
    obtain ⟨_, db₄, hfinish, h⟩ := commits_bind.1 h
    obtain ⟨rfl, rfl⟩ := commits_pure.1 h
    obtain ⟨db₃', hsame, hcomplete⟩ := finish_spec hfinish
    have hbody : db₁.SameRecords db₃' :=
      IsTrans.trans _ _ _ (audits_sameRecords.updateRequests _ _ _ _ _ hupdate) hsame
    have hnew : idempotency.replayed = false := by simpa using hreplayed
    obtain ⟨stored, hstored, hanswers⟩ := answers_of_completed hbegin hnew hbody hcomplete
    exact .first stored (unused_of_new hbegin hnew) hstored hanswers ⟨_, rfl⟩ ⟨rfl, rfl⟩

end Requests

/-! ## Attestations -/

/-- What an attestation command answers from: the stored state and the version of the status. -/
structure AttestationStanding where
  id : Uuid
  state : AttestationState
  version : ℕ

/-- The standing of an attestation. -/
def DomainTables.standing (d : DomainTables) (committeeId : Uuid) (reference : String) :
    Option AttestationStanding :=
  (d.attestations.find? fun a =>
    a.committeeId = committeeId && a.externalReference = reference).bind fun a =>
      (d.statuses.find? fun s => s.attestationId = a.id).map fun s => ⟨a.id, a.state, s.version⟩

section Attestations

open AttestationRepository

variable {committeeId : Uuid} {reference command : String} {context : CommandContext}
  {db db₁ db' : Db} {record : AttestationRecord} {idempotency : IdempotencyResult}

/-- The answer of a command on an attestation. -/
def AttestationRepository.AttestationRecord.outcome (r : AttestationRecord) : CommandOutcome :=
  ⟨r.externalReference, r.state.name, r.statusVersion, r.replayed⟩

theorem AttestationState.ofName?_name (s : AttestationState) :
    AttestationState.ofName? s.name = some s := by
  cases s <;> decide

theorem standing_of_selectRow {row : AttestationRow}
    (h : selectRow db committeeId reference = some row) :
    db.toDomainTables.standing committeeId reference =
      some ⟨row.id, row.state, row.statusVersion⟩ := by
  simp only [selectRow, Option.bind_eq_bind, Option.bind_eq_some_iff] at h
  obtain ⟨a, ha, c, -, p, -, r, -, s, hs, hrow⟩ := h
  cases hrow
  simp [DomainTables.standing, ha, hs]

theorem load_spec {replayed : Bool}
    (h : Commits (load committeeId reference replayed) db record db') :
    db' = db ∧ record.externalReference = reference ∧ record.replayed = replayed ∧
      ∃ id, db.toDomainTables.standing committeeId reference =
        some ⟨id, record.state, record.statusVersion⟩ := by
  simp only [load, commits_loadRow_bind, commits_pure] at h
  obtain ⟨row, hrow, rfl, rfl⟩ := h
  obtain ⟨⟨-, -, href⟩, -⟩ := selectRow_spec hrow
  exact ⟨rfl, href, rfl, row.id, standing_of_selectRow hrow⟩

/-- A state change moves the standing of its attestation and of no other. -/
theorem standing_setState (d : DomainTables) (a : Attestation) (state : AttestationState)
    (effectiveAt : ℤ) (complete : Bool) :
    (d.setState a state effectiveAt complete).standing committeeId reference =
      (d.standing committeeId reference).map fun t =>
        if t.id = a.id then ⟨t.id, state, t.version + 1⟩ else t := by
  unfold DomainTables.standing DomainTables.setState
  dsimp only
  rw [Table.find?_set (f := DomainTables.movedAttestation state complete) (fun _ => rfl)]
  cases ha : d.attestations.find? fun a =>
    a.committeeId = committeeId && a.externalReference = reference with
  | none => rfl
  | some b =>
    have hid : (if b.id = a.id then DomainTables.movedAttestation state complete b else b).id =
        b.id := by
      split_ifs <;> rfl
    simp only [Option.map_some, Option.bind_some, decide_eq_true_eq, hid]
    rw [Table.find?_set (f := fun s : AttestationStatus =>
      { s with state, effectiveAt, version := s.version + 1 }) (fun _ => rfl)]
    cases hs : d.statuses.find? fun s => s.attestationId = b.id with
    | none => rfl
    | some s =>
      have hof : s.attestationId = b.id := by simpa using List.find?_some hs
      by_cases hb : b.id = a.id
      · simp [hof, hb, DomainTables.movedAttestation]
      · simp [hof, hb]

theorem repeated_attestation (hbegin : Commits (beginIdempotency committeeId command context) db
      idempotency db₁) (hreplayed : idempotency.replayed = true)
    (h : Commits (load committeeId reference true >>= fun record =>
      replayRecord record idempotency) db₁ record db') :
    Answered db (idempotencyScope context) command reference context
      (Set.range AttestationState.name) record.outcome db' := by
  obtain ⟨row, hrow, ⟨hdigest, hcommand⟩, href, hstate, hversion, rfl⟩ :=
    answers_of_replayed hbegin hreplayed
  obtain ⟨loaded, db₂, hload, h⟩ := commits_bind.1 h
  obtain ⟨rfl, hloaded, -⟩ := load_spec hload
  simp only [replayRecord, commits_require_bind, commits_pure] at h
  obtain ⟨⟨hresult, -⟩, rfl, rfl⟩ := h
  refine .repeated row hrow ⟨hdigest, hcommand, ?_⟩ ?_ rfl rfl
  · rw [← href, hresult, hloaded]
  · rintro _ ⟨state, rfl⟩ hrecorded
    unfold AttestationRecord.outcome
    rw [hloaded, hstate, hversion, hrecorded, Option.bind_some, AttestationState.ofName?_name]
    rfl

/-- A command that leaves the attestation in the standing it records answers that standing. -/
theorem first_attestation (hbegin : Commits (beginIdempotency committeeId command context) db
      idempotency db₁) (hnew : idempotency.replayed = false) {db₂ db₃ : Db}
    (hbody : db₁.SameRecords db₂) {state : AttestationState} {version : ℕ} {id : Uuid} {u : Unit}
    (hstanding : db₂.toDomainTables.standing committeeId reference = some ⟨id, state, version⟩)
    (hcomplete : Commits (completeIdempotency idempotency.id reference version state.name) db₂ u
      db₃) (hload : Commits (load committeeId reference false) db₃ record db') :
    Answered db (idempotencyScope context) command reference context
      (Set.range AttestationState.name) record.outcome db' := by
  obtain ⟨stored, hstored, hanswers⟩ := answers_of_completed hbegin hnew hbody hcomplete
  have hkept := keeps_completeIdempotency _ _ _ _ _ _ _ hcomplete
  obtain ⟨rfl, htarget, hfirst, id', hstanding'⟩ := load_spec hload
  rw [hkept, hstanding] at hstanding'
  obtain ⟨rfl, rfl, rfl⟩ := AttestationStanding.mk.inj (Option.some.inj hstanding')
  exact .first stored (unused_of_new hbegin hnew) hstored hanswers ⟨_, rfl⟩ ⟨htarget, hfirst⟩

/-- What a new attestation leaves for the commands after it. -/
theorem issueRow_standing {input : IssueAttestationInput} {version : ℕ}
    (sound : db.toDomainTables.Sound)
    (h : Commits (issueRow input committeeId) db version db') :
    ∃ id, db'.toDomainTables.standing committeeId input.externalReference =
      some ⟨id, .issued, 1⟩ := by
  simp only [issueRow, commits_get_bind, commits_found_bind, commits_require_bind] at h
  obtain ⟨request, -, -, h⟩ := h
  obtain ⟨renewal, db₁, hrenewal, h⟩ := commits_bind.1 h
  rw [(renewalOf_spec hrenewal).1] at h
  simp only [commits_lift_bind] at h
  obtain ⟨validity, -, h⟩ := h
  obtain ⟨id, db₂, hid, h⟩ := commits_bind.1 h
  have same : db₂.toDomainTables = db.toDomainTables := keeps_useId (fun _ _ => rfl) _ _ _ _ hid
  obtain ⟨_, db₃, hinsert, h⟩ := commits_bind.1 h
  rw [(commits_pure.1 h).2]
  simp only [insertAttestation, requireUnique, requireReference, commits_get_bind,
    commits_require_bind, commits_modify, List.all_eq_true, Bool.not_eq_true',
    decide_eq_false_iff_not] at hinsert
  obtain ⟨-, -, -, -, newId, newReference, -, -, -, rfl⟩ := hinsert
  rw [same] at newId newReference
  refine ⟨id, ?_⟩
  have hattestations : (db.attestations.find? fun a =>
      a.committeeId = committeeId && a.externalReference = input.externalReference) = none := by
    apply List.find?_eq_none.2
    intro a ha
    simp [newReference a ha]
  -- a stored status belongs to a stored attestation
  have hstatuses : (db.statuses.find? fun s => s.attestationId = id) = none := by
    apply List.find?_eq_none.2
    intro s hs
    obtain ⟨a, ha, haid⟩ := sound.statusTenant s hs
    simpa [haid] using newId a ha
  simp only [DomainTables.standing, same, List.find?_append, hattestations, Option.none_or]
  simp [hstatuses]

theorem answered_issue {input : IssueAttestationInput}
    (hsound : db.idempotencyRecord input.context = none → db.toDomainTables.Sound)
    (h : Commits (issue input) db record db') :
    Answered db (idempotencyScope input.context) "issueAttestation" input.externalReference
      input.context (Set.range AttestationState.name) record.outcome db' := by
  simp only [issue, requireOpaqueReference, commits_require_bind, commits_committeeId_bind] at h
  obtain ⟨-, -, -, c, -, h⟩ := h
  obtain ⟨idempotency, db₁, hbegin, h⟩ := commits_bind.1 h
  have same : db₁.toDomainTables = db.toDomainTables :=
    keeps_beginIdempotency (fun _ _ _ => rfl) _ _ _ _ _ _ hbegin
  split_ifs at h with hreplayed
  · exact repeated_attestation hbegin hreplayed h
  · have hnew : idempotency.replayed = false := by simpa using hreplayed
    have sound : db₁.toDomainTables.Sound := same ▸ hsound (unused_of_new hbegin hnew)
    obtain ⟨version, db₂, hissue, h⟩ := commits_bind.1 h
    obtain ⟨_, db₃, hannounce, h⟩ := commits_bind.1 h
    obtain ⟨_, db₄, hcomplete, hload⟩ := commits_bind.1 h
    obtain ⟨id, hstanding⟩ := issueRow_standing sound hissue
    rw [← keeps_announce _ _ _ _ _ _ _ _ _ _ _ hannounce] at hstanding
    have hbody : db₁.SameRecords db₃ := IsTrans.trans _ _ _
      (audits_sameRecords.issueRow _ _ _ _ _ hissue)
      (audits_sameRecords.announce _ _ _ _ _ _ _ _ _ _ _ hannounce)
    exact first_attestation hbegin hnew hbody hstanding hcomplete hload

/-- A loaded attestation is moved to the standing that its command records. -/
theorem standing_updated {row : AttestationRow} {state : AttestationState} {effectiveAt : ℤ}
    {complete : Bool} {u : Unit} (hrow : selectRow db committeeId reference = some row)
    (hids : Table.Unique VerificationRequest.id db.requests)
    (h : Commits (updateAttestationAndRequest row state effectiveAt complete) db u db') :
    db'.toDomainTables = db.toDomainTables.setState row.toAttestation state effectiveAt complete ∧
      db'.toDomainTables.standing committeeId reference =
        some ⟨row.id, state, row.statusVersion + 1⟩ := by
  have hset := updateAttestationAndRequest_spec h hids (selectRow_spec hrow).2
  refine ⟨hset, ?_⟩
  rw [hset, standing_setState, standing_of_selectRow hrow, Option.map_some, if_pos rfl]

/-- Superseding the predecessor leaves the standing of the renewed attestation alone. -/
theorem standing_superseded {d : DomainTables} (sound : d.Sound) {command : ActiveStateCommand}
    {row : AttestationRow} (hmem : row.toAttestation ∈ d.attestations) {effectiveAt : ℤ}
    (hset : db.toDomainTables = d.setState row.toAttestation command.targetState effectiveAt
      (command == .activateAttestation)) {t : AttestationStanding} (hid : t.id = row.id)
    (hstanding : db.toDomainTables.standing committeeId reference = some t) {observedAt : ℤ}
    {u : Unit} (h : Commits (supersedePrior command row committeeId observedAt context) db u db') :
    db'.toDomainTables.standing committeeId reference = some t := by
  unfold supersedePrior at h
  split at h
  · next supersedesId hprior =>
    obtain ⟨b, db₁, hload, h⟩ := commits_bind.1 h
    obtain ⟨hdb, hbmem, hbid, -, hrequest⟩ := loadRowById_spec sound hmem hprior hset hload
    rw [hdb] at h
    simp only [commits_lift_bind] at h
    obtain ⟨next, -, h⟩ := h
    obtain ⟨_, db₂, hupdate, hannounce⟩ := commits_bind.1 h
    have hids : Table.Unique VerificationRequest.id db.requests := by
      rw [hset]
      exact sound.requestIds.set fun _ => rfl
    have hne : t.id ≠ b.id := by
      rw [hid]
      exact (sound.ne_predecessor hmem hbmem (by rw [hprior, hbid])).1.symm
    rw [keeps_announce _ _ _ _ _ _ _ _ _ _ _ hannounce,
      updateAttestationAndRequest_spec hupdate hids hrequest, standing_setState, hstanding,
      Option.map_some, if_neg hne]
  · rw [(commits_pure.1 h).2]
    exact hstanding

theorem answered_changeActiveState {command : ActiveStateCommand} {input : MutateAttestationInput}
    (hsound : db.idempotencyRecord input.context = none → db.toDomainTables.Sound)
    (h : Commits (changeActiveState command input) db record db') :
    Answered db (idempotencyScope input.context) command.name input.attestationReference
      input.context (Set.range AttestationState.name) record.outcome db' := by
  simp only [changeActiveState, commits_committeeId_bind] at h
  obtain ⟨-, c, -, h⟩ := h
  obtain ⟨idempotency, db₁, hbegin, h⟩ := commits_bind.1 h
  have same : db₁.toDomainTables = db.toDomainTables :=
    keeps_beginIdempotency (fun _ _ _ => rfl) _ _ _ _ _ _ hbegin
  split_ifs at h with hreplayed
  · exact repeated_attestation hbegin hreplayed h
  · have hnew : idempotency.replayed = false := by simpa using hreplayed
    have sound : db₁.toDomainTables.Sound := same ▸ hsound (unused_of_new hbegin hnew)
    simp only [commits_loadRow_bind, commits_require_bind] at h
    obtain ⟨row, hrow, -, h⟩ := h
    obtain ⟨_, db₂, hcheck, h⟩ := commits_bind.1 h
    obtain ⟨_, db₃, hupdate, h⟩ := commits_bind.1 h
    obtain ⟨_, db₄, hprior, h⟩ := commits_bind.1 h
    obtain ⟨_, db₅, hannounce, h⟩ := commits_bind.1 h
    obtain ⟨_, db₆, hcomplete, hload⟩ := commits_bind.1 h
    have hdb₂ : db₂ = db₁ := by
      cases command with
      | activateAttestation => exact (activateCheck_spec hcheck).1
      | expireAttestation => exact (expireCheck_spec hcheck).1
    rw [hdb₂] at hcheck hupdate
    obtain ⟨hset, hmoved⟩ := standing_updated hrow sound.requestIds hupdate
    have hstanding := standing_superseded sound (selectRow_spec hrow).1.1 hset rfl hmoved hprior
    rw [← keeps_announce _ _ _ _ _ _ _ _ _ _ _ hannounce] at hstanding
    have hR := audits_sameRecords
    have hbody : db₁.SameRecords db₅ := IsTrans.trans _ _ _
      (hR.updateAttestationAndRequest _ _ _ _ _ _ _ hupdate)
      (IsTrans.trans _ _ _ (hR.supersedePrior _ _ _ _ _ _ _ _ hprior)
        (hR.announce _ _ _ _ _ _ _ _ _ _ _ hannounce))
    exact first_attestation hbegin hnew hbody hstanding hcomplete hload

theorem answered_revoke {input : RevokeAttestationInput}
    (hsound : db.idempotencyRecord input.context = none → db.toDomainTables.Sound)
    (h : Commits (revoke input) db record db') :
    Answered db (idempotencyScope input.context) "revokeAttestation" input.attestationReference
      input.context (Set.range AttestationState.name) record.outcome db' := by
  simp only [revoke, commits_committeeId_bind] at h
  obtain ⟨-, c, -, h⟩ := h
  obtain ⟨idempotency, db₁, hbegin, h⟩ := commits_bind.1 h
  have same : db₁.toDomainTables = db.toDomainTables :=
    keeps_beginIdempotency (fun _ _ _ => rfl) _ _ _ _ _ _ hbegin
  split_ifs at h with hreplayed
  · exact repeated_attestation hbegin hreplayed h
  · have hnew : idempotency.replayed = false := by simpa using hreplayed
    have sound : db₁.toDomainTables.Sound := same ▸ hsound (unused_of_new hbegin hnew)
    simp only [commits_loadRow_bind, commits_require_bind] at h
    obtain ⟨row, hrow, -, h⟩ := h
    obtain ⟨_, db₂, hrevoke, h⟩ := commits_bind.1 h
    obtain ⟨_, db₃, hannounce, h⟩ := commits_bind.1 h
    obtain ⟨_, db₄, hcomplete, hload⟩ := commits_bind.1 h
    have hR := audits_sameRecords
    have hbody : db₁.SameRecords db₃ := IsTrans.trans _ _ _ (hR.revokeRow _ _ _ _ _ _ hrevoke)
      (hR.announce _ _ _ _ _ _ _ _ _ _ _ hannounce)
    simp only [revokeRow, requireUnique, requireReference, commits_lift_bind,
      commits_get_bind] at hrevoke
    obtain ⟨next, -, hrevoke⟩ := hrevoke
    obtain ⟨id, db₅, hid, hrevoke⟩ := commits_bind.1 hrevoke
    have same₅ : db₅.toDomainTables = db₁.toDomainTables :=
      keeps_useId (fun _ _ => rfl) _ _ _ _ hid
    simp only [commits_require_bind, commits_modify_bind] at hrevoke
    obtain ⟨-, -, -, hupdate⟩ := hrevoke
    have hids : Table.Unique VerificationRequest.id db₅.requests := by
      rw [same₅]
      exact sound.requestIds
    have hset := updateAttestationAndRequest_spec hupdate hids
      (by rw [same₅]; exact (selectRow_spec hrow).2)
    have hstanding : db₂.toDomainTables.standing c.id input.attestationReference =
        some ⟨row.id, .revoked, row.statusVersion + 1⟩ := by
      rw [hset, standing_setState]
      show (db₅.toDomainTables.standing c.id input.attestationReference).map _ = _
      rw [same₅, standing_of_selectRow hrow, Option.map_some, if_pos rfl]
    rw [← keeps_announce _ _ _ _ _ _ _ _ _ _ _ hannounce] at hstanding
    exact first_attestation hbegin hnew hbody hstanding hcomplete hload

end Attestations

end ChecksAndBalances
