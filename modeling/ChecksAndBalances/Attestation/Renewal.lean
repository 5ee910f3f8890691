import ChecksAndBalances.Attestation.Status

/-!
# Renewal after the predecessor has ended

`activate` supersedes the predecessor of a renewal through a transition that only an active
attestation has, and `issue` takes the predecessor of a renewal only while it is active, the first
version otherwise.  So a renewal that was issued in time is lost when the expiry of its predecessor
commits first, and a participant whose last attestation has ended gets no new one.
-/

namespace ChecksAndBalances

open Lib Lib.Tx

variable {db : Db} {a b : Attestation}

/-! ## Expiry before renewal -/

/-- The command lets the active attestation `a` expire. -/
structure Db.Expires (db : Db) (input : AttestationRepository.MutateAttestationInput)
    (a : Attestation) : Prop where
  mem : a ∈ db.attestations
  named : a.externalReference = input.attestationReference
  active : a.state = .active
  expired : ∃ a' ∈ (db.exec (.expire input)).attestations, a'.id = a.id ∧ a'.state = .expired

/-- The attestation is stored as active. -/
def Db.IsActive (db : Db) (b : Attestation) : Prop :=
  ∃ b' ∈ db.attestations, b'.id = b.id ∧ b'.state = .active

/-- The activation of `b` is accepted after the expiry of its predecessor, and `b` ends up active
in either order. -/
def Db.RenewsInEitherOrder (db : Db)
    (expiry renewal : AttestationRepository.MutateAttestationInput) (b : Attestation) : Prop :=
  Accepted (AttestationRepository.activate renewal) (db.exec (.expire expiry)) ∧
    ((db.exec (.expire expiry)).exec (.activate renewal)).IsActive b ∧
    ((db.exec (.activate renewal)).exec (.expire expiry)).IsActive b

/-- After the expiry, the predecessor is expired and its renewal still issued. -/
theorem Db.Expires.tables {input : AttestationRepository.MutateAttestationInput}
    (h : db.Expires input a) (hs : db.toDomainTables.Sound) :
    (db.exec (.expire input)).toDomainTables =
      db.toDomainTables.setState a .expired input.observedAt false := by
  have e := effect_of_exec hs (.expire input)
  obtain ⟨a', ha', hid, hexpired⟩ := h.expired
  generalize (db.exec (.expire input)).toDomainTables = d' at e ha'
  cases e with
  | unchanged =>
    rw [hs.attestationIds a' ha' a h.mem hid, h.active] at hexpired
    cases hexpired
  | expired _ c mem named =>
    rw [hs.attestationReferences c mem a h.mem (named.trans h.named.symm)]

/-- A renewal is not activated any more once its predecessor is not active. -/
theorem not_isActive_of_predecessor {input : AttestationRepository.MutateAttestationInput}
    (hs : db.toDomainTables.Sound) (ha : a ∈ db.attestations) (hended : a.state ≠ .active)
    (hb : b ∈ db.attestations) (hrenews : b.supersedesId = some a.id) (hissued : b.state = .issued)
    (hnamed : b.externalReference = input.attestationReference) :
    ¬ (db.exec (.activate input)).IsActive b := by
  rintro ⟨b', hb', hid, hactive⟩
  have e := effect_of_exec hs (.activate input)
  generalize (db.exec (.activate input)).toDomainTables = d' at e hb'
  cases e with
  | unchanged =>
    rw [hs.attestationIds b' hb' b hb hid, hissued] at hactive
    cases hactive
  | activated _ c mem named _ _ first =>
    rw [hs.attestationReferences c mem b hb (named.trans hnamed.symm), hrenews] at first
    cases first
  | renewed _ c p mem named _ _ memPrior prior priorState =>
    rw [hs.attestationReferences c mem b hb (named.trans hnamed.symm), hrenews] at prior
    rw [← hs.attestationIds a ha p memPrior (Option.some.inj prior)] at priorState
    exact hended priorState

/-- Where both the expiry of an attestation and the activation of its renewal take effect, they do
not commute. -/
theorem expiry_blocks_renewal (h : db.Reachable fun _ _ => True)
    {expiry renewal : AttestationRepository.MutateAttestationInput}
    (hexpires : db.Expires expiry a) (hactivates : db.Activates renewal a b) :
    ¬ db.RenewsInEitherOrder expiry renewal b := by
  rintro ⟨-, hfirst, -⟩
  have hs := h.sound
  have hs' : (db.exec (.expire expiry)).toDomainTables.Sound := hs.of_effect (effect_of_exec hs _)
  have htables := hexpires.tables hs
  have hne : b.id ≠ a.id := (hs.ne_predecessor hactivates.successor hexpires.mem
    hactivates.renews).1.symm
  have ha' : DomainTables.movedAttestation .expired false a ∈
      (db.exec (.expire expiry)).attestations := by
    rw [htables]
    exact (hs.mem_setState hexpires.mem).2 (Or.inl rfl)
  have hb' : b ∈ (db.exec (.expire expiry)).attestations := by
    rw [htables]
    exact (hs.mem_setState hexpires.mem).2 (Or.inr ⟨hactivates.successor, hne⟩)
  have hended : (DomainTables.movedAttestation .expired false a).state ≠ .active := by
    show AttestationState.expired ≠ .active
    decide
  exact not_isActive_of_predecessor hs' ha' hended hb' hactivates.renews hactivates.issued
    hactivates.named hfirst

namespace Sample

/-- At 100 the first attestation can expire and its renewal can be activated. -/
theorem expires_or_activates :
    renewable.Expires (expiry "attestation_one" 100) attestationOne ∧
      renewable.Activates (activation "attestation_two" 100) attestationOne attestationTwo := by
  obtain ⟨-, -, hrows, -, -, ⟨hexpired, hactivated, -⟩, -⟩ := evaluation
  have hone : attestationOne ∈ renewable.attestations := by
    rw [hrows]
    simp
  have htwo : attestationTwo ∈ renewable.attestations := by
    rw [hrows]
    simp
  refine ⟨⟨hone, rfl, rfl, ?_⟩, ⟨hone, htwo, rfl, rfl, rfl, ?_⟩⟩
  · rw [hexpired]
    decide
  · rw [hactivated]
    decide

end Sample

theorem expiry_blocks_renewal_sample :
    ¬ Sample.renewable.RenewsInEitherOrder (Sample.expiry "attestation_one" 100)
      (Sample.activation "attestation_two" 100) Sample.attestationTwo :=
  expiry_blocks_renewal Sample.renewable_reachable Sample.expires_or_activates.1
    Sample.expires_or_activates.2

/-- The renewal of the sample stays issued when the expiry commits first. -/
theorem expiry_renewal_not_commuting :
    ¬ ∀ (db : Db) (expiry renewal : AttestationRepository.MutateAttestationInput)
      (a b : Attestation), (db.Reachable fun _ _ => True) → db.Expires expiry a →
      db.Activates renewal a b → expiry.observedAt = renewal.observedAt →
      db.RenewsInEitherOrder expiry renewal b := by
  intro h
  obtain ⟨-, ⟨b, hb, -, hactive⟩, -⟩ := h _ _ _ _ _ Sample.renewable_reachable
    Sample.expires_or_activates.1 Sample.expires_or_activates.2 rfl
  obtain ⟨-, -, -, -, -, ⟨-, -, hrows⟩, -⟩ := Sample.evaluation
  rw [hrows] at hb
  have hnone : ∀ b ∈ [{ Sample.attestationOne with state := .expired }, Sample.attestationTwo],
      b.state ≠ .active := by
    decide
  exact hnone b hb hactive

/-! ## Issuance after the last attestation has ended -/

namespace DomainTables

variable {d : DomainTables} {c p : Uuid}

/-- No attestation of the participant in the committee is issued or active. -/
def NoneOpen (d : DomainTables) (c p : Uuid) : Prop :=
  ∀ a ∈ d.attestationsOf c p, a.state ≠ .issued ∧ a.state ≠ .active

/-- When no attestation is open, only a first one can be issued. -/
theorem Consistent.attestationsOf_eq_nil (h : d.Consistent) {new : Attestation}
    (hnew : d.Issuable new) (hopen : d.NoneOpen new.committeeId new.participantId) :
    d.attestationsOf new.committeeId new.participantId = [] := by
  have hversion := h.version_of_issuable hnew
  rcases hnew.extend with ⟨hone, -⟩ | ⟨b, hb, hc, hp, hactive, -⟩
  · apply List.eq_nil_of_length_eq_zero
    omega
  · exact absurd hactive (hopen b (mem_attestationsOf.2 ⟨hb, hc, hp⟩)).2

theorem ne_of_attestationsOf_eq_nil (h : d.attestationsOf c p = []) :
    ∀ a ∈ d.attestations, a.committeeId = c → a.participantId ≠ p := by
  intro a ha hc hp
  have hmem := mem_attestationsOf.2 ⟨ha, hc, hp⟩
  rw [h] at hmem
  cases hmem

end DomainTables

open AttestationRepository

/-- The attestation that `issue` returns is stored. -/
theorem issue_stored {input : IssueAttestationInput} {db' : Db} {record : AttestationRecord}
    (h : Commits (issue input) db record db') :
    ∃ a ∈ db'.attestations, a.externalReference = input.externalReference := by
  have loaded : ∀ {c : Uuid} {replayed : Bool} {db₁ db₂ : Db} {record : AttestationRecord},
      Commits (load c input.externalReference replayed) db₁ record db₂ →
      ∃ a ∈ db₂.attestations, a.externalReference = input.externalReference := by
    intro c replayed db₁ db₂ record hload
    simp only [load, commits_loadRow_bind, commits_pure] at hload
    obtain ⟨row, hrow, -, rfl⟩ := hload
    obtain ⟨⟨hmem, -, href⟩, -⟩ := selectRow_spec hrow
    exact ⟨row.toAttestation, hmem, href⟩
  simp only [issue, requireOpaqueReference, commits_require_bind, commits_committeeId_bind] at h
  obtain ⟨-, -, -, c, -, h⟩ := h
  obtain ⟨idempotency, db₁, -, h⟩ := commits_bind.1 h
  split_ifs at h
  · obtain ⟨record₀, db₂, hload, h⟩ := commits_bind.1 h
    simp only [replayRecord, commits_require_bind, commits_pure] at h
    rw [h.2.2]
    exact loaded hload
  · obtain ⟨version, db₂, -, h⟩ := commits_bind.1 h
    obtain ⟨_, db₃, -, h⟩ := commits_bind.1 h
    obtain ⟨_, db₄, -, h⟩ := commits_bind.1 h
    exact loaded h

/-- A request yields an attestation under the fresh reference of the input. -/
def Db.Issues (db : Db) (r : VerificationRequest) (input : IssueAttestationInput) : Prop :=
  input.requestReference = r.externalReference ∧
    (∀ a ∈ db.attestations, a.externalReference ≠ input.externalReference) ∧
    Accepted (issue input) db

theorem Db.Issues.attestationsOf_eq_nil {r : VerificationRequest} {input : IssueAttestationInput}
    (h : db.Issues r input) (hs : db.toDomainTables.Sound) (hr : r ∈ db.requests)
    (hopen : db.toDomainTables.NoneOpen r.committeeId r.participantId) :
    db.toDomainTables.attestationsOf r.committeeId r.participantId = [] := by
  obtain ⟨hnamed, hfresh, record, db', hcommits⟩ := h
  obtain ⟨a, ha, href⟩ := issue_stored hcommits
  have e := effect_issue hcommits
  generalize db'.toDomainTables = d' at e ha
  cases e with
  | unchanged => exact absurd href (hfresh a ha)
  | issued _ new issuable named =>
    obtain ⟨r₁, hr₁, hid₁, href₁⟩ := named
    obtain rfl := hs.requestReferences r₁ hr₁ r hr (href₁.trans hnamed)
    obtain ⟨r₂, hr₂, hid₂, hc, hp, -⟩ := issuable.request
    obtain rfl := hs.requestIds r₂ hr₂ r₁ hr₁ (hid₂.trans hid₁.symm)
    rw [hc, hp] at hopen ⊢
    exact hs.attestationsOf_eq_nil issuable hopen

/-- What a command in the committee `c` needs: a reference that resolves to it, an idempotency key that
is not used yet, an outbox key that is not taken, and identifiers that are new when drawn. -/
structure Db.Usable (db : Db) (context : CommandContext) (c : Uuid) (eventType : String) : Prop where
  code : isOpaqueReference context.committeeReference = true ∧
    '@' ∉ context.committeeReference.toList
  committee : ∃ committee, db.committees.find?
    (fun c => c.externalReference = context.committeeReference) = some committee ∧ committee.id = c
  key : db.idempotencyRecord context = none
  outboxKey : ∀ o ∈ db.outbox, o.idempotencyKeyHash ≠ outboxKeyHash context eventType
  newIds : ∀ o ∈ db.outbox, o.id < db.nextId

/-- In a sound database a stored attestation can be loaded. -/
theorem load_accepted (hs : db.toDomainTables.Sound) {c : Uuid} {reference : String}
    (h : ∃ a ∈ db.attestations, a.committeeId = c ∧ a.externalReference = reference)
    (replayed : Bool) : Accepted (load c reference replayed) db := by
  obtain ⟨a, ha⟩ : ∃ a, db.attestations.find? (fun a => a.committeeId = c &&
      a.externalReference = reference) = some a :=
    Table.exists_find? (by simpa using h)
  have hmem := (Table.mem_of_find? ha).1
  obtain ⟨r, hr, hrid, hrc, hrp, -⟩ := hs.request a hmem
  obtain ⟨s, hstatus, hsid, -⟩ := hs.status a hmem
  obtain ⟨⟨c₀, hc₀, hcid⟩, ⟨p₀, hp₀, hpid⟩, -⟩ := hs.requestTenant r hr
  obtain ⟨c', hc'⟩ : ∃ c', db.committees.find? (fun c => c.id = a.committeeId) = some c' :=
    Table.exists_find? ⟨c₀, hc₀, by simp [hcid, hrc]⟩
  obtain ⟨p', hp'⟩ : ∃ p', db.participants.find? (fun p => p.id = a.participantId) = some p' :=
    Table.exists_find? ⟨p₀, hp₀, by simp [hpid, hrp]⟩
  obtain ⟨r', hr'⟩ : ∃ r', db.requests.find? (fun r => r.id = a.requestId) = some r' :=
    Table.exists_find? ⟨r, hr, by simp [hrid]⟩
  obtain ⟨s', hs'⟩ : ∃ s', db.statuses.find? (fun s => s.attestationId = a.id) = some s' :=
    Table.exists_find? ⟨s, hstatus, by simp [hsid]⟩
  have hrow : ∃ row, selectRow db c reference = some row := by
    simp [selectRow, ha, hc', hp', hr', hs']
  obtain ⟨row, hrow⟩ := hrow
  have hload : Commits (loadRow c reference) db row db :=
    commits_bind.2 ⟨db, db, get_commits db, found_commits hrow _ db⟩
  exact hload.bind_accepted accepted_pure

/-- The two log entries of a command are accepted when its outbox key is not taken. -/
theorem announce_accepted {c : Uuid} {context : CommandContext} {command reference : String}
    {prior : Option AttestationState} {eventType : String} {version : ℕ} {state : AttestationState}
    (hkey : ∀ o ∈ db.outbox, o.idempotencyKeyHash ≠ outboxKeyHash context eventType)
    (hids : ∀ o ∈ db.outbox, o.id < db.nextId) :
    Accepted (announce c context command reference prior eventType version state) db := by
  obtain ⟨hash, db₁, haudit⟩ := appendAudit_accepted context (some c) command
    { type := "attestation", reference
      priorState := prior.map AttestationState.name, newState := some state.name } .succeeded db
  have hsame : db₁.outbox = db.outbox :=
    keeps_appendAudit (f := fun db => db.outbox) (fun _ _ _ _ => rfl) _ _ _ _ _ _ _ _ haudit
  have hgrows : db.nextId ≤ db₁.nextId := grows_appendAudit _ _ _ _ _ _ _ _ haudit
  refine haudit.bind_accepted ((newId_commits db₁).bind_accepted ?_)
  apply insertOutboxEvent_accepted
  · show ∀ o ∈ db₁.outbox, o.id ≠ db₁.nextId
    intro o ho
    rw [hsame] at ho
    exact ((hids o ho).trans_le hgrows).ne
  · show ∀ o ∈ db₁.outbox, _
    rw [hsame]
    exact hkey

/-- The first attestation of a participant. -/
def firstAttestation (r : VerificationRequest) (id : Uuid) (reference : String) : Attestation :=
  { id, externalReference := reference, committeeId := r.committeeId
    participantId := r.participantId, requestId := r.id, policyVersionId := r.policyVersionId
    version := 1, state := .issued, validFrom := 0, expiresAt := 1, issuanceComplete := false
    supersedesId := none }

/-- The input that issues it. -/
def firstIssuance (r : VerificationRequest) (id : Uuid) (reference : String)
    (context : CommandContext) : IssueAttestationInput :=
  { id := some id, externalReference := reference, requestReference := r.externalReference
    policyVersionId := r.policyVersionId, validFrom := 0, expiresAt := 1
    supersedesReference := none, context }

section First

variable {r : VerificationRequest} {id : Uuid} {reference : String} {context : CommandContext}
  (hs : db.toDomainTables.Sound) (hr : r ∈ db.requests)
  (hnone : db.toDomainTables.attestationsOf r.committeeId r.participantId = [])
  (hid : ∀ a ∈ db.attestations, a.id ≠ id)
  (hfresh : ∀ a ∈ db.attestations, a.externalReference ≠ reference)
include hs hr hnone hid hfresh

/-- The constraints of the table accept it. -/
theorem insertAttestation_first :
    Commits (insertAttestation (firstAttestation r id reference)) db () { db with
      toDomainTables := db.toDomainTables.issueNew (firstAttestation r id reference) } := by
  have hother := DomainTables.ne_of_attestationsOf_eq_nil hnone
  obtain ⟨-, -, v, hv, hvid⟩ := hs.requestTenant r hr
  simp only [insertAttestation, requireUnique, requireReference, commits_get_bind,
    commits_require_bind, commits_modify, List.all_eq_true, List.any_eq_true, Bool.not_eq_true']
  refine ⟨rfl, Nat.one_pos, rfl, rfl, ?_, ?_, ?_, ?_, ⟨v, hv, ?_⟩, rfl⟩
  · intro a ha
    exact decide_eq_false (hid a ha)
  · intro a ha
    exact decide_eq_false (hfresh a ha)
  · intro a _
    rfl
  · intro a ha
    by_cases hc : a.committeeId = r.committeeId
    · simp [firstAttestation, hother a ha hc]
    · simp [firstAttestation, hc]
  · exact decide_eq_true hvid

theorem issueRow_first (hissued : r.state = .issued) :
    ∃ db', Commits (issueRow (firstIssuance r id reference context) r.committeeId) db 1 db' ∧
      db'.toDomainTables = db.toDomainTables.issueNew (firstAttestation r id reference) ∧
      db'.outbox = db.outbox ∧ db.nextId ≤ db'.nextId := by
  have hfind : db.requests.find? (fun r' => r'.externalReference = r.externalReference &&
      r'.committeeId = r.committeeId) = some r := by
    obtain ⟨r', hr'⟩ : ∃ r', db.requests.find? (fun r' =>
        r'.externalReference = r.externalReference && r'.committeeId = r.committeeId) = some r' :=
      Table.exists_find? ⟨r, hr, by simp⟩
    obtain ⟨hmem, hkey⟩ := Table.mem_of_find? hr'
    simp only [Bool.and_eq_true, decide_eq_true_eq] at hkey
    rw [hr', hs.requestReferences r' hmem r hr hkey.1]
  have huse : Commits (useId (some id)) db id { db with nextId := max db.nextId (id + 1) } :=
    commits_bind.2 ⟨(), _, modify_commits _ db, commits_pure.2 ⟨rfl, rfl⟩⟩
  have hinsert : Commits (insertAttestation (firstAttestation r id reference))
      { db with nextId := max db.nextId (id + 1) } () { db with
        nextId := max db.nextId (id + 1)
        toDomainTables := db.toDomainTables.issueNew (firstAttestation r id reference) } :=
    insertAttestation_first hs hr hnone hid hfresh
  refine ⟨{ db with
    nextId := max db.nextId (id + 1)
    toDomainTables := db.toDomainTables.issueNew (firstAttestation r id reference) }, ?_, rfl, rfl,
    le_max_left _ _⟩
  simp only [issueRow, commits_get_bind, commits_found_bind, commits_require_bind]
  refine ⟨r, hfind, hissued, ?_⟩
  refine commits_bind.2 ⟨(1, none), db, commits_pure.2 ⟨rfl, rfl⟩, ?_⟩
  simp only [commits_lift_bind]
  refine ⟨_, rfl, ?_⟩
  exact commits_bind.2 ⟨id, _, huse, commits_bind.2 ⟨(), _, hinsert, commits_pure.2 ⟨rfl, rfl⟩⟩⟩

/-- A participant without attestations can be issued the first one. -/
theorem issue_first_accepted (hissued : r.state = .issued)
    (hcontext : db.Usable context r.committeeId "AttestationIssued")
    (hcode : isOpaqueReference reference = true ∧ '@' ∉ reference.toList) :
    Accepted (issue (firstIssuance r id reference context)) db := by
  obtain ⟨committee, hcommittee, hcid⟩ := hcontext.committee
  obtain ⟨result, db₁, hbegin, hreplayed⟩ := beginIdempotency_of_unused hcontext.key r.committeeId
    "issueAttestation"
  have hsame : db₁.toDomainTables = db.toDomainTables :=
    keeps_beginIdempotency (fun _ _ _ => rfl) _ _ _ _ _ _ hbegin
  have houtbox : db₁.outbox = db.outbox :=
    keeps_beginIdempotency (f := fun db => db.outbox) (fun _ _ _ => rfl) _ _ _ _ _ _ hbegin
  have hgrows : db.nextId ≤ db₁.nextId := grows_beginIdempotency _ _ _ _ _ _ hbegin
  obtain ⟨db₂, hissue, htables, houtbox₂, hgrows₂⟩ : ∃ db₂,
      Commits (issueRow (firstIssuance r id reference context) r.committeeId) db₁ 1 db₂ ∧
        db₂.toDomainTables = db₁.toDomainTables.issueNew (firstAttestation r id reference) ∧
        db₂.outbox = db₁.outbox ∧ db₁.nextId ≤ db₂.nextId := by
    apply issueRow_first _ _ _ _ _ hissued <;> rw [hsame] <;> assumption
  have hkey : ∀ o ∈ db₂.outbox, o.idempotencyKeyHash ≠
      outboxKeyHash context "AttestationIssued" := by
    rw [houtbox₂, houtbox]
    exact hcontext.outboxKey
  obtain ⟨_, db₃, hannounce⟩ : Accepted (announce r.committeeId context "issueAttestation" reference
      none "AttestationIssued" 1 .issued) db₂ := by
    refine announce_accepted hkey fun o ho => ?_
    rw [houtbox₂, houtbox] at ho
    exact (hcontext.newIds o ho).trans_le (hgrows.trans hgrows₂)
  have hnew : db.toDomainTables.Issuable (firstAttestation r id reference) :=
    { request := ⟨r, hr, rfl, rfl, rfl, hissued⟩
      extend := Or.inl ⟨rfl, rfl⟩
      state := rfl
      incomplete := rfl
      window := by
        show (0 : ℤ) < 1
        decide
      newId := hid
      newReference := hfresh
      newSuccessor := by
        intro hsome
        cases hsome
      newVersion := by
        intro a ha hc hp
        exact absurd hp (DomainTables.ne_of_attestationsOf_eq_nil hnone a ha hc) }
  have htables₃ : db₃.toDomainTables =
      db.toDomainTables.issueNew (firstAttestation r id reference) := by
    rw [keeps_announce _ _ _ _ _ _ _ _ _ _ _ hannounce, htables, hsame]
  refine (require_commits hcode _ db).bind_accepted
    ((require_commits (hs.requestOpaque r hr) _ db).bind_accepted ?_)
  refine (commits_committeeId.2
    ⟨hcontext.code, ⟨committee, hcommittee, rfl⟩, rfl⟩).bind_accepted ?_
  rw [hcid]
  refine hbegin.bind_accepted ?_
  rw [if_neg (by rw [hreplayed]; decide)]
  refine hissue.bind_accepted (hannounce.bind_accepted ((modify_commits _ db₃).bind_accepted ?_))
  apply load_accepted
  · show db₃.toDomainTables.Sound
    rw [htables₃]
    exact hs.issueNew hnew
  · show ∃ a ∈ db₃.attestations, a.committeeId = r.committeeId ∧ a.externalReference = reference
    rw [htables₃]
    exact ⟨_, List.mem_append_right _ (List.mem_singleton.2 rfl), rfl, rfl⟩

end First

/-- An issued request of a participant without an open attestation can be turned into an attestation
exactly when the participant never had one in the committee. -/
theorem issue_possible_iff (h : db.Reachable fun _ _ => True) {r : VerificationRequest}
    (hr : r ∈ db.requests) (hissued : r.state = .issued)
    (hopen : db.toDomainTables.NoneOpen r.committeeId r.participantId) {context : CommandContext}
    (hcontext : db.Usable context r.committeeId "AttestationIssued") {reference : String}
    (hcode : isOpaqueReference reference = true ∧ '@' ∉ reference.toList)
    (hfresh : ∀ a ∈ db.attestations, a.externalReference ≠ reference) :
    (∃ input, db.Issues r input) ↔
      db.toDomainTables.attestationsOf r.committeeId r.participantId = [] := by
  constructor
  · rintro ⟨input, hinput⟩
    exact hinput.attestationsOf_eq_nil h.sound hr hopen
  · intro hnone
    obtain ⟨id, hid⟩ := Infinite.exists_notMem_finset (db.attestations.map Attestation.id).toFinset
    have hid : ∀ a ∈ db.attestations, a.id ≠ id := by
      intro a ha heq
      exact hid (by simpa using ⟨a, ha, heq⟩)
    exact ⟨firstIssuance r id reference context, rfl, hfresh,
      issue_first_accepted h.sound hr hnone hid hfresh hissued hcontext hcode⟩

theorem issue_possible_iff_approved :
    (∃ input, Sample.approved.Issues Sample.requestOne input) ↔
      Sample.approved.toDomainTables.attestationsOf 1 2 = [] := by
  obtain ⟨⟨hr, hnone, hcommittees, hkey, houtbox, hids⟩, -⟩ := Sample.evaluation
  have hopen : Sample.approved.toDomainTables.NoneOpen Sample.requestOne.committeeId
      Sample.requestOne.participantId := by
    intro a ha
    have hmem := (DomainTables.mem_attestationsOf.1 ha).1
    rw [hnone] at hmem
    cases hmem
  have hcontext : Sample.approved.Usable (Sample.context "attestation_one_issue")
      Sample.requestOne.committeeId "AttestationIssued" := by
    refine ⟨by decide, ⟨{ id := 1, externalReference := "committee_one" }, ?_, rfl⟩, hkey, houtbox,
      hids⟩
    rw [hcommittees]
    decide
  have hfresh : ∀ a ∈ Sample.approved.attestations, a.externalReference ≠ "attestation_one" := by
    rw [hnone]
    simp
  exact issue_possible_iff (Sample.approved_reachable fun _ _ _ => trivial) hr rfl hopen hcontext
    (by decide) hfresh

/-- Once the first attestation of the sample has expired, the issued second request is stuck. -/
theorem issued_request_stuck :
    ¬ ∀ (db : Db) (r : VerificationRequest), (db.Reachable fun _ _ => True) → r ∈ db.requests →
      r.state = .issued → db.toDomainTables.NoneOpen r.committeeId r.participantId →
      ∃ input, db.Issues r input := by
  intro h
  obtain ⟨-, -, -, -, -, -, hrows, hr⟩ := Sample.evaluation
  have hopen : Sample.unrenewed.toDomainTables.NoneOpen Sample.requestTwo.committeeId
      Sample.requestTwo.participantId := by
    intro a ha
    have hmem := (DomainTables.mem_attestationsOf.1 ha).1
    rw [hrows, List.mem_singleton] at hmem
    rw [hmem]
    decide
  obtain ⟨input, hinput⟩ := h _ _ Sample.unrenewed_reachable hr rfl hopen
  have hnil := hinput.attestationsOf_eq_nil Sample.unrenewed_reachable.sound hr hopen
  refine DomainTables.ne_of_attestationsOf_eq_nil hnil
    { Sample.attestationOne with state := .expired } ?_ rfl rfl
  rw [hrows]
  simp

end ChecksAndBalances
