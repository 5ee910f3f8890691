import ChecksAndBalances.Attestation.Chain
import ChecksAndBalances.Lib.Walk

/-!
# The audit trail of a request

A command of `VerificationRepository` audits the state it leaves a request in.  An attestation
command moves the request along with the attestation and audits the attestation only, so the trail
of a request tells its state until its attestation is activated.
-/

namespace ChecksAndBalances

open Lib Lib.Tx

/-- The succeeded audit events of a request, in the order of the chain. -/
def Db.requestTrail (db : Db) (reference : String) : List AuditEvent :=
  db.audit.filter fun e => e.result = .succeeded && e.targetType = "verification_request" &&
    e.targetReference = reference

/-- The events are a path of states from the first, `requested`, to the last. -/
def PathTo (events : List AuditEvent) (last : VerificationState) : Prop :=
  ∃ first rest, events = first :: rest ∧ first.newState = some "requested" ∧
    Walk AuditEvent.priorState AuditEvent.newState (some "requested") rest (some last.name)

/-- The trail of the request is a path to its stored state. -/
def TrailComplete (db : Db) (r : VerificationRequest) : Prop :=
  PathTo (db.requestTrail r.externalReference) r.state

/-- The last state that the trail of a request tells. -/
def VerificationState.audited : VerificationState → VerificationState
  | .active | .expired | .revoked | .superseded => .issued
  | state => state

theorem VerificationState.name_injective : Function.Injective VerificationState.name := by
  intro s s' h
  cases s <;> cases s' <;> first | rfl | exact absurd h (by decide)

theorem PathTo.last_unique {events : List AuditEvent} {s s' : VerificationState}
    (h : PathTo events s) (h' : PathTo events s') : s = s' := by
  obtain ⟨first, rest, rfl, -, hwalk⟩ := h
  obtain ⟨_, _, hevents, -, hwalk'⟩ := h'
  obtain ⟨rfl, rfl⟩ := List.cons.inj hevents
  exact VerificationState.name_injective (Option.some.inj (hwalk.end_unique hwalk'))

/-- The path grows by an event that starts where it ended. -/
theorem PathTo.concat {events : List AuditEvent} {s s' : VerificationState} (h : PathTo events s)
    {e : AuditEvent} (hprior : e.priorState = some s.name) (hnew : e.newState = some s'.name) :
    PathTo (events ++ [e]) s' := by
  obtain ⟨first, rest, rfl, hfirst, hwalk⟩ := h
  exact ⟨first, rest ++ [e], rfl, hfirst, walk_concat.2 ⟨hprior ▸ hwalk, hnew⟩⟩

theorem pathTo_singleton {e : AuditEvent} (h : e.newState = some "requested") :
    PathTo [e] .requested :=
  ⟨e, [], rfl, h, rfl⟩

/-! ## What the operations add to a trail -/

section Trails

variable (reference : String)

/-- An event adds itself to the trail of the request it names, and to no other. -/
theorem keeps_requestTrail_appendAudit {context : CommandContext} {committeeId : Option Uuid}
    {command : String} {target : AuditTarget} {result : AuditResult}
    (h : target.type ≠ "verification_request") :
    Keeps (fun db : Db => db.requestTrail reference)
      (appendAudit context committeeId command target result) := by
  intro db hash db' hc
  obtain ⟨-, rfl⟩ := commits_appendAudit.1 hc
  simp [Db.requestTrail, Db.appendedEvent, AuditEvent.sealed, auditEvent, h]

theorem keeps_requestTrail_insertOutboxEvent (id : Uuid) (committeeId : Option Uuid)
    (eventType aggregateType aggregateReference schemaVersion payloadReference payloadDigest
      keyHash : String) :
    Keeps (fun db : Db => db.requestTrail reference) (insertOutboxEvent id committeeId eventType
      aggregateType aggregateReference schemaVersion payloadReference payloadDigest keyHash) :=
  keeps_get.bind fun _ => keeps_require.bind fun _ => keeps_require.bind fun _ =>
    keeps_modify fun _ => rfl

theorem keeps_requestTrail_newId : Keeps (fun db : Db => db.requestTrail reference) newId :=
  keeps_newId fun _ _ => rfl

section Attestations

open AttestationRepository

theorem keeps_requestTrail_announce (committeeId : Uuid) (context : CommandContext)
    (command target : String) (priorState : Option AttestationState) (eventType : String)
    (version : ℕ) (state : AttestationState) :
    Keeps (fun db : Db => db.requestTrail reference)
      (announce committeeId context command target priorState eventType version state) := by
  refine (keeps_requestTrail_appendAudit reference (by simp)).bind fun _ => ?_
  exact (keeps_requestTrail_newId reference).bind fun _ =>
    keeps_requestTrail_insertOutboxEvent _ _ _ _ _ _ _ _ _ _

theorem keeps_requestTrail_updateRequests (p : VerificationRequest → Bool)
    (state : VerificationState) :
    Keeps (fun db : Db => db.requestTrail reference) (updateRequests p state) := by
  refine keeps_get.bind fun _ => keeps_lift.bind fun _ => ?_
  exact (keeps_modify fun _ => by rfl).bind fun _ => keeps_pure

theorem keeps_requestTrail_updateAttestationAndRequest (row : AttestationRow)
    (state : AttestationState) (effectiveAt : ℤ) (complete : Bool) :
    Keeps (fun db : Db => db.requestTrail reference)
      (updateAttestationAndRequest row state effectiveAt complete) := by
  refine keeps_get.bind fun _ => keeps_lift.bind fun _ => ?_
  refine (keeps_modify fun _ => by rfl).bind fun _ => ?_
  exact (keeps_requestTrail_updateRequests reference _ _).bind fun _ => keeps_pure

theorem keeps_requestTrail_loadRow (committeeId : Uuid) (target : String) :
    Keeps (fun db : Db => db.requestTrail reference) (loadRow committeeId target) :=
  keeps_get.bind fun _ => keeps_found

theorem keeps_requestTrail_load (committeeId : Uuid) (target : String) (replayed : Bool) :
    Keeps (fun db : Db => db.requestTrail reference) (load committeeId target replayed) :=
  (keeps_requestTrail_loadRow reference _ _).bind fun _ => keeps_pure

/-- What every attestation command does around its own part: it takes the key, replays the result
under a used one, and ends with an announcement otherwise. -/
theorem keeps_requestTrail_replay (committeeId : Uuid) (target : String)
    (idempotency : IdempotencyResult) :
    Keeps (fun db : Db => db.requestTrail reference)
      (load committeeId target true >>= fun record => replayRecord record idempotency) :=
  (keeps_requestTrail_load reference _ _ _).bind fun _ => keeps_require.bind fun _ => keeps_pure

theorem keeps_requestTrail_begin (committeeId : Uuid) (command : String)
    (context : CommandContext) :
    Keeps (fun db : Db => db.requestTrail reference) (beginIdempotency committeeId command context) :=
  keeps_beginIdempotency (fun _ _ _ => rfl) _ _ _

theorem keeps_requestTrail_committeeId (committee : String) :
    Keeps (fun db : Db => db.requestTrail reference) (committeeId committee) :=
  keeps_require.bind fun _ => keeps_get.bind fun _ => keeps_found.bind fun _ => keeps_pure

theorem keeps_requestTrail_renewalOf (committeeId : Uuid) (supersedes : Option String)
    (participantId : Uuid) :
    Keeps (fun db : Db => db.requestTrail reference)
      (renewalOf committeeId supersedes participantId) := by
  unfold renewalOf
  split
  · exact keeps_get.bind fun _ => keeps_found.bind fun _ => keeps_require.bind fun _ => keeps_pure
  · exact keeps_pure

theorem keeps_requestTrail_insertAttestation (new : Attestation) :
    Keeps (fun db : Db => db.requestTrail reference) (insertAttestation new) :=
  keeps_get.bind fun _ => keeps_require.bind fun _ => keeps_require.bind fun _ =>
    keeps_require.bind fun _ => keeps_require.bind fun _ => keeps_require.bind fun _ =>
    keeps_require.bind fun _ => keeps_require.bind fun _ => keeps_require.bind fun _ =>
    keeps_require.bind fun _ => keeps_modify fun _ => rfl

theorem keeps_requestTrail_issue (input : IssueAttestationInput) :
    Keeps (fun db : Db => db.requestTrail reference) (issue input) := by
  refine keeps_require.bind fun _ => keeps_require.bind fun _ => ?_
  refine (keeps_requestTrail_committeeId reference _).bind fun _ => ?_
  refine (keeps_requestTrail_begin reference _ _ _).bind fun idempotency => ?_
  split
  · exact keeps_requestTrail_replay reference _ _ _
  · refine Keeps.bind ?_ fun _ => ?_
    · refine keeps_get.bind fun _ => keeps_found.bind fun _ => keeps_require.bind fun _ => ?_
      refine (keeps_requestTrail_renewalOf reference _ _ _).bind fun _ => keeps_lift.bind fun _ => ?_
      refine (keeps_useId (fun _ _ => rfl) _).bind fun _ => ?_
      exact (keeps_requestTrail_insertAttestation reference _).bind fun _ => keeps_pure
    · refine (keeps_requestTrail_announce reference _ _ _ _ _ _ _ _).bind fun _ => ?_
      exact (keeps_modify fun _ => by rfl).bind fun _ => keeps_requestTrail_load reference _ _ _

theorem keeps_requestTrail_supersedePrior (command : ActiveStateCommand) (row : AttestationRow)
    (committeeId : Uuid) (observedAt : ℤ) (context : CommandContext) :
    Keeps (fun db : Db => db.requestTrail reference)
      (supersedePrior command row committeeId observedAt context) := by
  unfold supersedePrior
  split
  · refine Keeps.bind ?_ fun _ => keeps_lift.bind fun _ => ?_
    · exact keeps_get.bind fun _ => keeps_found.bind fun _ =>
        keeps_requestTrail_loadRow reference _ _
    · exact (keeps_requestTrail_updateAttestationAndRequest reference _ _ _ _).bind fun _ =>
        keeps_requestTrail_announce reference _ _ _ _ _ _ _ _
  · exact keeps_pure

theorem keeps_requestTrail_changeActiveState (command : ActiveStateCommand)
    (input : MutateAttestationInput) :
    Keeps (fun db : Db => db.requestTrail reference) (changeActiveState command input) := by
  refine (keeps_requestTrail_committeeId reference _).bind fun _ => ?_
  refine (keeps_requestTrail_begin reference _ _ _).bind fun idempotency => ?_
  split
  · exact keeps_requestTrail_replay reference _ _ _
  · refine (keeps_requestTrail_loadRow reference _ _).bind fun _ => keeps_require.bind fun _ => ?_
    refine Keeps.bind ?_ fun _ => ?_
    · cases command
      · exact keeps_require.bind fun _ => keeps_lift.bind fun _ => keeps_pure
      · exact keeps_require.bind fun _ => keeps_lift.bind fun _ => keeps_pure
    refine (keeps_requestTrail_updateAttestationAndRequest reference _ _ _ _).bind fun _ => ?_
    refine (keeps_requestTrail_supersedePrior reference _ _ _ _ _).bind fun _ => ?_
    refine (keeps_requestTrail_announce reference _ _ _ _ _ _ _ _).bind fun _ => ?_
    exact (keeps_modify fun _ => by rfl).bind fun _ => keeps_requestTrail_load reference _ _ _

theorem keeps_requestTrail_revoke (input : RevokeAttestationInput) :
    Keeps (fun db : Db => db.requestTrail reference) (revoke input) := by
  refine (keeps_requestTrail_committeeId reference _).bind fun _ => ?_
  refine (keeps_requestTrail_begin reference _ _ _).bind fun idempotency => ?_
  split
  · exact keeps_requestTrail_replay reference _ _ _
  · refine (keeps_requestTrail_loadRow reference _ _).bind fun _ => keeps_require.bind fun _ => ?_
    refine Keeps.bind ?_ fun _ => ?_
    · refine keeps_lift.bind fun _ => keeps_get.bind fun _ => ?_
      refine (keeps_useId (fun _ _ => rfl) _).bind fun _ => keeps_require.bind fun _ =>
        keeps_require.bind fun _ => keeps_require.bind fun _ => ?_
      exact (keeps_modify fun _ => by rfl).bind fun _ =>
        keeps_requestTrail_updateAttestationAndRequest reference _ _ _ _
    refine (keeps_requestTrail_announce reference _ _ _ _ _ _ _ _).bind fun _ => ?_
    exact (keeps_modify fun _ => by rfl).bind fun _ => keeps_requestTrail_load reference _ _ _

end Attestations

section Requests

open VerificationRepository

theorem keeps_requestTrail_loadRecord (committeeId : Uuid) (request : String) (replayed : Bool) :
    Keeps (fun db : Db => db.requestTrail reference) (loadRecord committeeId request replayed) :=
  keeps_get.bind fun _ => keeps_found.bind fun _ => keeps_found.bind fun _ =>
    keeps_found.bind fun _ => keeps_pure

/-- The bookkeeping of a command adds one event, to the trail of its target if that is a request. -/
theorem requestTrail_finish {committeeId id : Uuid} {context : CommandContext} {command : String}
    {target : AuditTarget} {eventType : String} {version : ℕ} {state : String} {db db' : Db}
    {u : Unit} (h : Commits (finish committeeId id context command target eventType version state)
      db u db') :
    ∃ e : AuditEvent, e.priorState = target.priorState ∧ e.newState = target.newState ∧
      ∀ reference, db'.requestTrail reference = db.requestTrail reference ++
        if target.type = "verification_request" ∧ target.reference = reference then [e] else [] := by
  obtain ⟨_, db₁, haudit, h⟩ := commits_bind.1 h
  obtain ⟨-, rfl⟩ := commits_appendAudit.1 haudit
  refine ⟨db.appendedEvent context (some committeeId) command target .succeeded, rfl, rfl,
    fun reference => ?_⟩
  have kept : Keeps (fun db : Db => db.requestTrail reference)
      (enqueueDomainEvent committeeId target.reference eventType version state context >>= fun _ =>
        completeIdempotency id target.reference version state) := by
    refine Keeps.bind ((keeps_requestTrail_newId reference).bind fun _ => ?_) fun _ => ?_
    · exact keeps_requestTrail_insertOutboxEvent _ _ _ _ _ _ _ _ _ _
    · exact keeps_modify fun _ => by rfl
  have hkept : db'.requestTrail reference = _ := kept _ _ _ h
  rw [hkept]
  simp [Db.requestTrail, Db.appendedEvent, AuditEvent.sealed, auditEvent, List.filter_cons]

theorem keeps_requestTrail_recordReviewDecision (input : RecordReviewDecisionInput) :
    Keeps (fun db : Db => db.requestTrail reference) (recordReviewDecision input) := by
  refine keeps_require.bind fun _ => keeps_lift.bind fun _ => keeps_require.bind fun _ => ?_
  refine (keeps_requestTrail_committeeId reference _).bind fun _ => ?_
  refine (keeps_requestTrail_begin reference _ _ _).bind fun idempotency => ?_
  split
  · exact keeps_pure
  · refine Keeps.bind ?_ fun _ => Keeps.bind ?_ fun _ => keeps_pure
    · refine (keeps_requestTrail_loadRecord reference _ _ _).bind fun _ => ?_
      refine keeps_require.bind fun _ => keeps_get.bind fun _ => keeps_found.bind fun _ => ?_
      refine keeps_require.bind fun _ => keeps_found.bind fun _ => ?_
      refine (keeps_useId (fun _ _ => rfl) _).bind fun _ => keeps_require.bind fun _ =>
        keeps_require.bind fun _ => keeps_require.bind fun _ => keeps_require.bind fun _ => ?_
      exact keeps_modify fun _ => by rfl
    · intro db u db' h
      obtain ⟨e, -, -, htrail⟩ := requestTrail_finish h
      simpa using htrail reference

end Requests

end Trails

/-! ## Commands on a request -/

section Requests

open VerificationRepository

theorem createRequest_trail {input : CreateVerificationRequestInput} {db db' : Db}
    {record : VerificationRecord} (h : Commits (createRequest input) db record db') :
    (db'.requests = db.requests ∧
        ∀ reference, db'.requestTrail reference = db.requestTrail reference) ∨
      ∃ row : VerificationRequest, row.externalReference = input.externalReference ∧
        row.state = .requested ∧
        (∀ r ∈ db.requests, r.externalReference ≠ row.externalReference) ∧
        db'.requests = db.requests ++ [row] ∧
        ∃ e : AuditEvent, e.newState = some "requested" ∧
          ∀ reference, db'.requestTrail reference = db.requestTrail reference ++
            if input.externalReference = reference then [e] else [] := by
  simp only [createRequest, requireOpaqueReference, commits_require_bind,
    commits_committeeId_bind] at h
  obtain ⟨-, -, -, c, hc, h⟩ := h
  obtain ⟨idempotency, db₁, hbegin, h⟩ := commits_bind.1 h
  have same : db₁.toDomainTables = db.toDomainTables :=
    keeps_beginIdempotency (fun _ _ _ => rfl) _ _ _ _ _ _ hbegin
  have trails : ∀ reference, db₁.requestTrail reference = db.requestTrail reference :=
    fun reference => keeps_requestTrail_begin reference _ _ _ _ _ _ hbegin
  split_ifs at h
  · left
    have kept := ((keeps_loadRecord _ _ _).bind fun _ => keeps_replayRecord _ _) _ _ _ h
    refine ⟨by rw [kept, same], fun reference => ?_⟩
    rw [← trails]
    exact ((keeps_requestTrail_loadRecord reference _ _ _).bind fun _ =>
      keeps_require.bind fun _ => keeps_pure) _ _ _ h
  · right
    obtain ⟨_, db₂, hinsert, h⟩ := commits_bind.1 h
    obtain ⟨_, db₃, hfinish, hload⟩ := commits_bind.1 h
    have kept := ((keeps_finish _ _ _ _ _ _ _ _).bind fun _ => keeps_loadRecord _ _ _) _ _ _ h
    obtain ⟨e, -, hnew, htrail⟩ := requestTrail_finish hfinish
    simp only [insertRequest, requireUnique, requireReference, commits_get_bind,
      commits_found_bind] at hinsert
    obtain ⟨participant, -, hinsert⟩ := hinsert
    obtain ⟨id, db₄, hid, hinsert⟩ := commits_bind.1 hinsert
    have same₄ : db₄.toDomainTables = db₁.toDomainTables :=
      keeps_useId (fun _ _ => rfl) _ _ _ _ hid
    have trails₄ : ∀ reference, db₄.requestTrail reference = db₁.requestTrail reference :=
      fun reference => keeps_useId (f := fun db : Db => db.requestTrail reference)
        (fun _ _ => rfl) _ _ _ _ hid
    simp only [commits_require_bind, commits_modify] at hinsert
    obtain ⟨-, newReference, -, rfl⟩ := hinsert
    rw [same] at newReference
    refine ⟨{ id, externalReference := input.externalReference, committeeId := c.id
              participantId := participant.id, policyVersionId := input.policyVersionId
              state := .requested, version := 1 }, rfl, rfl, by simpa using newReference,
      by rw [kept, same₄, same], e, hnew, fun reference => ?_⟩
    have hloaded : db'.requestTrail reference = db₃.requestTrail reference :=
      keeps_requestTrail_loadRecord reference _ _ _ _ _ _ hload
    rw [hloaded, htrail, ← trails, ← trails₄]
    simp only [true_and]
    rfl

theorem transition_trail {name : String} {command : VerificationCommand} {input : TransitionInput}
    {db db' : Db} {record : VerificationRecord}
    (references : Table.Unique VerificationRequest.externalReference db.requests)
    (h : Commits (transition name command input) db record db') :
    (db'.requests = db.requests ∧
        ∀ reference, db'.requestTrail reference = db.requestTrail reference) ∨
      ∃ r ∈ db.requests, r.externalReference = input.requestReference ∧
        ∃ next, command r.state = .ok next ∧
          db'.requests = Table.set (fun q => q.externalReference = r.externalReference)
            (VerificationRequest.advance next) db.requests ∧
          ∃ e : AuditEvent, e.priorState = some r.state.name ∧ e.newState = some next.name ∧
            ∀ reference, db'.requestTrail reference = db.requestTrail reference ++
              if input.requestReference = reference then [e] else [] := by
  simp only [transition, requireOpaqueReference, commits_require_bind,
    commits_committeeId_bind] at h
  obtain ⟨-, -, c, hc, h⟩ := h
  obtain ⟨idempotency, db₁, hbegin, h⟩ := commits_bind.1 h
  have same : db₁.toDomainTables = db.toDomainTables :=
    keeps_beginIdempotency (fun _ _ _ => rfl) _ _ _ _ _ _ hbegin
  have trails : ∀ reference, db₁.requestTrail reference = db.requestTrail reference :=
    fun reference => keeps_requestTrail_begin reference _ _ _ _ _ _ hbegin
  split_ifs at h
  · left
    have kept := ((keeps_loadRecord _ _ _).bind fun _ => keeps_replayRecord _ _) _ _ _ h
    refine ⟨by rw [kept, same], fun reference => ?_⟩
    rw [← trails]
    exact ((keeps_requestTrail_loadRecord reference _ _ _).bind fun _ =>
      keeps_require.bind fun _ => keeps_pure) _ _ _ h
  · right
    obtain ⟨current, db₂, hload, hmove⟩ := commits_bind.1 h
    simp only [loadRecord, commits_get_bind, commits_found_bind, commits_pure] at hload
    obtain ⟨r, hr, _, -, _, -, rfl, rfl⟩ := hload
    obtain ⟨hmem, hkey⟩ := Table.mem_of_find? hr
    simp only [Bool.and_eq_true, decide_eq_true_eq] at hkey
    simp only [commits_require_bind, commits_lift_bind] at hmove
    obtain ⟨hversion, next, hnext, hmove⟩ := hmove
    obtain ⟨rows, db₃, hupdate, hrest⟩ := commits_bind.1 hmove
    obtain ⟨-, rfl, -⟩ := commits_updateRequests.1 hupdate
    have kept := (keeps_found.bind fun _ => keeps_get.bind fun _ =>
      (keeps_finish _ _ _ _ _ _ _ _).bind fun _ => keeps_pure) _ _ _ hrest
    simp only [commits_found_bind, commits_get_bind] at hrest
    obtain ⟨updated, -, hrest⟩ := hrest
    obtain ⟨_, db₄, hfinish, hpure⟩ := commits_bind.1 hrest
    obtain ⟨e, hprior, hnew, htrail⟩ := requestTrail_finish hfinish
    rw [(commits_pure.1 hpure).2] at kept ⊢
    rw [same] at hmem
    have hset : Table.set (fun r => r.externalReference = input.requestReference &&
        r.committeeId = c.id && r.version = input.expectedVersion)
        (VerificationRequest.advance next) db₂.requests =
        Table.set (fun q => q.externalReference = r.externalReference)
          (VerificationRequest.advance next) db.requests := by
      rw [same]
      refine Table.set_congr fun q hq => ?_
      by_cases hqr : q.externalReference = r.externalReference
      · rw [references q hq r hmem hqr]
        simp [hkey, hversion]
      · simp [hqr, ← hkey.1]
    refine ⟨r, hmem, hkey.1, next, hnext, by rw [kept]; exact hset, e, hprior, hnew,
      fun reference => ?_⟩
    rw [htrail, ← trails]
    simp only [true_and]
    rfl

end Requests

/-! ## The trails of a run -/

/-- The trail of every stored request tells its state up to the issuance, and nothing is told of a
request that is not stored. -/
structure Db.Trailed (db : Db) : Prop where
  path : ∀ r ∈ db.requests, PathTo (db.requestTrail r.externalReference) r.state.audited
  silent : ∀ reference, (∀ r ∈ db.requests, r.externalReference ≠ reference) →
    db.requestTrail reference = []

/-- The trails depend on the requests only through their references and the states told. -/
theorem Db.Trailed.of_map {db db' : Db} (h : db.Trailed)
    (hrequests : db'.requests.map (fun r => (r.externalReference, r.state.audited)) =
      db.requests.map fun r => (r.externalReference, r.state.audited))
    (htrails : ∀ reference, db'.requestTrail reference = db.requestTrail reference) :
    db'.Trailed := by
  have mem : ∀ {rows rows' : List VerificationRequest},
      rows'.map (fun r => (r.externalReference, r.state.audited)) =
        rows.map (fun r => (r.externalReference, r.state.audited)) → ∀ r' ∈ rows', ∃ r ∈ rows,
          r.externalReference = r'.externalReference ∧ r.state.audited = r'.state.audited := by
    intro rows rows' hmap r' hr'
    have hmem := List.mem_map_of_mem (f := fun r : VerificationRequest =>
      (r.externalReference, r.state.audited)) hr'
    rw [hmap] at hmem
    obtain ⟨r, hr, heq⟩ := List.mem_map.1 hmem
    exact ⟨r, hr, (Prod.mk.inj heq).1, (Prod.mk.inj heq).2⟩
  constructor
  · intro r' hr'
    obtain ⟨r, hr, href, hstate⟩ := mem hrequests r' hr'
    rw [htrails, ← href, ← hstate]
    exact h.path r hr
  · intro reference hnone
    rw [htrails]
    refine h.silent reference fun r hr => ?_
    obtain ⟨r', hr', href, -⟩ := mem hrequests.symm r hr
    rw [← href]
    exact hnone r' hr'

/-- The trail of a request is complete exactly when it tells the stored state. -/
theorem Db.Trailed.complete_iff {db : Db} (h : db.Trailed) {r : VerificationRequest}
    (hr : r ∈ db.requests) : TrailComplete db r ↔ r.state.audited = r.state := by
  constructor
  · intro hcomplete
    exact (h.path r hr).last_unique hcomplete
  · intro hstate
    have hpath := h.path r hr
    rwa [hstate] at hpath

theorem AttestationState.toVerification_audited (s : AttestationState) :
    s.toVerification.audited = .issued := by
  cases s <;> rfl

/-- A named transition starts and ends in states that the trail tells. -/
theorem RequestTransition.run_audited (c : RequestTransition) :
    ∃ name command, c.run = VerificationRepository.transition name command ∧
      ∀ s next, command s = .ok next → s.audited = s ∧ next.audited = next := by
  cases c
  all_goals
    refine ⟨_, _, rfl, fun s next h => ?_⟩
    obtain ⟨rfl, rfl⟩ := Verification.transition_eq_ok_iff.1 h
    exact ⟨rfl, rfl⟩

/-- Moving an attestation leaves what the trails tell. -/
theorem map_audited_setState {d : DomainTables} {a : Attestation}
    (hrequest : ∀ r ∈ d.requests, r.id = a.requestId → r.state.audited = .issued)
    (state : AttestationState) (effectiveAt : ℤ) (complete : Bool) :
    (d.setState a state effectiveAt complete).requests.map
        (fun r => (r.externalReference, r.state.audited)) =
      d.requests.map fun r => (r.externalReference, r.state.audited) := by
  simp only [DomainTables.setState, Table.set, List.map_map]
  refine List.map_congr_left fun r hr => ?_
  simp only [Function.comp_apply, decide_eq_true_eq]
  split_ifs with hid
  · simp [VerificationRequest.advance, state.toVerification_audited, hrequest r hr hid]
  · rfl

/-- The request of an attestation has been issued. -/
theorem DomainTables.Sound.request_audited {d : DomainTables} (h : d.Sound) {a : Attestation}
    (ha : a ∈ d.attestations) :
    ∀ r ∈ d.requests, r.id = a.requestId → r.state.audited = .issued := by
  intro r hr hid
  obtain ⟨r₀, hr₀, hid₀, -, -, hstate⟩ := h.request a ha
  rw [h.requestIds r hr r₀ hr₀ (hid.trans hid₀.symm), hstate]
  exact a.state.toVerification_audited

/-- A command that neither opens a request nor moves one by name leaves what the trails tell. -/
theorem Effect.map_audited {d d' : DomainTables} {command : Command} (h : d.Sound)
    (e : Effect d command d') (hcreate : ∀ input, command ≠ .createRequest input)
    (hmove : ∀ c input, command ≠ .transition c input) :
    d'.requests.map (fun r => (r.externalReference, r.state.audited)) =
      d.requests.map fun r => (r.externalReference, r.state.audited) := by
  cases e with
  | unchanged => rfl
  | requested input => exact absurd rfl (hcreate input)
  | decided => rfl
  | moved c input => exact absurd rfl (hmove c input)
  | issued => rfl
  | activated input a mem => exact map_audited_setState (h.request_audited mem) _ _ _
  | renewed input a b mem named state window memPrior =>
    rw [map_audited_setState ?_ .superseded, map_audited_setState (h.request_audited mem)]
    intro r hr hid
    obtain ⟨r₀, hr₀, rfl⟩ := Table.exists_of_mem_set hr
    split_ifs at hid ⊢
    · rfl
    · exact h.request_audited memPrior r₀ hr₀ hid
  | expired input a mem => exact map_audited_setState (h.request_audited mem) _ _ _
  | revoked input a r mem =>
    exact map_audited_setState (d := { d with revocations := d.revocations ++ [r] })
      (h.request_audited mem) _ _ _

/-- A new request starts its trail. -/
theorem Db.Trailed.requested {db db' : Db} (h : db.Trailed) {row : VerificationRequest}
    {e : AuditEvent} (hnew : ∀ r ∈ db.requests, r.externalReference ≠ row.externalReference)
    (hstate : row.state = .requested) (hrequests : db'.requests = db.requests ++ [row])
    (hevent : e.newState = some "requested")
    (htrail : ∀ reference, db'.requestTrail reference = db.requestTrail reference ++
      if row.externalReference = reference then [e] else []) : db'.Trailed := by
  constructor
  · intro r hr
    rw [hrequests, List.mem_append, List.mem_singleton] at hr
    rw [htrail]
    rcases hr with hr | rfl
    · rw [if_neg (hnew r hr).symm, List.append_nil]
      exact h.path r hr
    · rw [h.silent _ hnew, if_pos rfl, hstate]
      exact pathTo_singleton hevent
  · intro reference hnone
    rw [hrequests] at hnone
    rw [htrail, if_neg (hnone row (List.mem_append_right _ (List.mem_singleton.2 rfl))),
      List.append_nil]
    exact h.silent reference fun r hr => hnone r (List.mem_append_left _ hr)

/-- A named transition extends the trail of its request. -/
theorem Db.Trailed.moved {db db' : Db} (h : db.Trailed) {r : VerificationRequest}
    {next : VerificationState} {e : AuditEvent} (hr : r ∈ db.requests)
    (references : Table.Unique VerificationRequest.externalReference db.requests)
    (haudited : r.state.audited = r.state ∧ next.audited = next)
    (hrequests : db'.requests = Table.set (fun q => q.externalReference = r.externalReference)
      (VerificationRequest.advance next) db.requests)
    (hprior : e.priorState = some r.state.name) (hnew : e.newState = some next.name)
    (htrail : ∀ reference, db'.requestTrail reference = db.requestTrail reference ++
      if r.externalReference = reference then [e] else []) : db'.Trailed := by
  constructor
  · intro q hq
    rw [hrequests, references.mem_set_iff hr] at hq
    rw [htrail]
    rcases hq with rfl | ⟨hq, hne⟩
    · rw [show (r.advance next).externalReference = r.externalReference from rfl, if_pos rfl,
        show (r.advance next).state.audited = next from haudited.2]
      have hpath := h.path r hr
      rw [haudited.1] at hpath
      exact hpath.concat hprior hnew
    · rw [if_neg (Ne.symm hne), List.append_nil]
      exact h.path q hq
  · intro reference hnone
    have hold : ∀ q ∈ db.requests, q.externalReference ≠ reference := by
      intro q hq
      have hset := hnone _ (hrequests ▸ Table.mem_set_of_mem (f := VerificationRequest.advance next)
        (p := fun q : VerificationRequest => q.externalReference = r.externalReference) hq)
      split_ifs at hset <;> exact hset
    rw [htrail, if_neg (hold r hr), List.append_nil]
    exact h.silent reference hold

/-- Every command keeps the trails. -/
theorem Db.Trailed.exec {db : Db} (h : db.Trailed) (sound : db.toDomainTables.Sound)
    (command : Command) : (db.exec command).Trailed := by
  have e := effect_of_exec sound command
  cases command with
  | createRequest input =>
    rcases commit_cases (VerificationRepository.createRequest input) db with ⟨_, hc⟩ | ⟨-, hc⟩
    · rcases createRequest_trail hc with
        ⟨hsame, htrails⟩ | ⟨row, href, hstate, hfirst, hrequests, ev, hevent, htrail⟩
      · exact h.of_map (congrArg _ hsame) htrails
      · exact h.requested hfirst hstate hrequests hevent (href ▸ htrail)
    · simp only [Db.exec, hc]
      exact h
  | transition c input =>
    obtain ⟨name, command, hrun, haudited⟩ := c.run_audited
    rcases commit_cases (c.run input) db with ⟨_, hc⟩ | ⟨-, hc⟩
    · rw [hrun] at hc
      rcases transition_trail sound.requestReferences hc with
        ⟨hsame, htrails⟩ | ⟨r, hr, href, next, hnext, hrequests, ev, hprior, hnew, htrail⟩
      · rw [← hrun] at hsame htrails
        exact h.of_map (congrArg _ hsame) htrails
      · rw [← hrun] at hrequests htrail
        exact h.moved hr sound.requestReferences (haudited _ _ hnext) hrequests hprior hnew
          (href ▸ htrail)
    · simp only [Db.exec, hc]
      exact h
  | recordReviewDecision input =>
    refine h.of_map (e.map_audited sound (by simp) (by simp)) fun reference => ?_
    exact (keeps_requestTrail_recordReviewDecision reference input).commit db
  | issue input =>
    refine h.of_map (e.map_audited sound (by simp) (by simp)) fun reference => ?_
    exact (keeps_requestTrail_issue reference input).commit db
  | activate input =>
    refine h.of_map (e.map_audited sound (by simp) (by simp)) fun reference => ?_
    exact (keeps_requestTrail_changeActiveState reference _ input).commit db
  | expire input =>
    refine h.of_map (e.map_audited sound (by simp) (by simp)) fun reference => ?_
    exact (keeps_requestTrail_changeActiveState reference _ input).commit db
  | revoke input =>
    refine h.of_map (e.map_audited sound (by simp) (by simp)) fun reference => ?_
    exact (keeps_requestTrail_revoke reference input).commit db
  | clock now => exact h.of_map rfl fun _ => rfl

/-! ## Activation -/

/-- The command activates an attestation: it is accepted, and its key is new. -/
def Db.NewActivation (db : Db) : Command → Prop
  | .activate input => Accepted (AttestationRepository.activate input) db ∧
      db.idempotencyRecord input.context = none
  | _ => False

/-- No request has been moved beyond its issuance. -/
def DomainTables.Told (d : DomainTables) : Prop := ∀ r ∈ d.requests, r.state.audited = r.state

/-- An update by an attestation ends in a state that no trail tells. -/
theorem AttestationState.not_audited {s : AttestationState} (hs : s ≠ .issued) :
    s.toVerification.audited ≠ s.toVerification := by
  cases s <;> first | exact absurd rfl hs | decide

/-- A request that was moved with its attestation stays in a state that no trail tells. -/
theorem not_told_set {d d' : DomainTables} (h : ¬ d.Told) {p : VerificationRequest → Bool}
    {s : AttestationState} (hs : s ≠ .issued) (hrequests : d'.requests =
      Table.set p (VerificationRequest.advance s.toVerification) d.requests) : ¬ d'.Told := by
  intro htold
  refine h fun r hr => ?_
  have hr' := htold _ (hrequests ▸ Table.mem_set_of_mem hr)
  split_ifs at hr' with hp
  · exact absurd hr' (s.not_audited hs)
  · exact hr'

theorem not_told_append {d d' : DomainTables} (h : ¬ d.Told) {rows : List VerificationRequest}
    (hrequests : d'.requests = d.requests ++ rows) : ¬ d'.Told :=
  fun htold => h fun r hr => htold r (hrequests ▸ List.mem_append_left _ hr)

/-- No command brings such a request back. -/
theorem Effect.not_told {d d' : DomainTables} {command : Command} (e : Effect d command d')
    (h : ¬ d.Told) : ¬ d'.Told := by
  cases e with
  | unchanged => exact h
  | requested => exact not_told_append h rfl
  | decided => exact h
  | moved c input p state outside =>
    intro htold
    refine h fun r hr => ?_
    by_contra hne
    have hp : p r = false := by
      by_contra hp
      rw [Bool.not_eq_false] at hp
      have hstate : r.state = .active ∨ r.state = .expired ∨ r.state = .revoked ∨
          r.state = .superseded := by
        cases hs : r.state <;> rw [hs] at hne <;> simp [VerificationState.audited] at hne ⊢
      rcases hstate with hs | hs | hs | hs
      · exact outside r hr hp .active hs
      · exact outside r hr hp .expired hs
      · exact outside r hr hp .revoked hs
      · exact outside r hr hp .superseded hs
    exact hne (htold r (Table.mem_set.2 (Or.inr ⟨hr, hp⟩)))
  | issued => exact h
  | activated => exact not_told_set h (by decide) rfl
  | renewed input a =>
    have hactive : ¬ (d.setState a .active input.observedAt true).Told :=
      not_told_set h (s := .active) (by decide) rfl
    exact not_told_set hactive (s := .superseded) (by decide) rfl
  | expired => exact not_told_set h (by decide) rfl
  | revoked => exact not_told_set h (by decide) rfl

/-- The request of an attestation that is moved leaves the states that the trails tell. -/
theorem not_told_setState {d : DomainTables} (sound : d.Sound) {a : Attestation}
    (ha : a ∈ d.attestations) {s : AttestationState} (hs : s ≠ .issued)
    (effectiveAt : ℤ) (complete : Bool) : ¬ (d.setState a s effectiveAt complete).Told := by
  obtain ⟨r, hr, hid, -⟩ := sound.request a ha
  intro htold
  have hmem : r.advance s.toVerification ∈
      (d.setState a s effectiveAt complete).requests :=
    Table.mem_set.2 (Or.inl ⟨r, hr, by simpa using hid, rfl⟩)
  exact s.not_audited hs (htold _ hmem)

/-- An activation moves its request beyond the issuance. -/
theorem not_told_of_activation {db : Db} (sound : db.toDomainTables.Sound) {command : Command}
    (h : db.NewActivation command) : ¬ (db.exec command).toDomainTables.Told := by
  cases command with
  | activate input =>
    obtain ⟨⟨record, db', hc⟩, hunused⟩ := h
    rw [show db.exec (.activate input) = db' from commit_of_commits hc]
    rcases activate_spec sound hc with ⟨hused, -⟩ | ⟨-, a, ha, -, -, -, hmoved⟩
    · exact absurd hunused hused
    · have hactive := not_told_setState sound ha (s := .active) (by decide) input.observedAt true
      rcases hmoved with ⟨-, hset⟩ | ⟨b, -, -, -, hset⟩
      · rw [hset]
        exact hactive
      · rw [hset]
        exact not_told_set hactive (s := .superseded) (by decide) rfl
  | createRequest | transition | recordReviewDecision | issue | expire | revoke | clock =>
    exact absurd h id

/-- Without an activation no request is moved beyond its issuance. -/
theorem told_exec {db : Db} (sound : db.toDomainTables.Sound) (h : db.toDomainTables.Told)
    {command : Command} (hnone : ¬ db.NewActivation command) :
    (db.exec command).toDomainTables.Told := by
  have issued : ∀ a ∈ db.attestations, a.state = .issued := by
    intro a ha
    obtain ⟨r, hr, -, -, -, hstate⟩ := sound.request a ha
    by_contra hne
    exact a.state.not_audited hne (hstate ▸ h r hr)
  have e := effect_of_exec sound command
  have same {d' : DomainTables} (hsame : d'.requests = db.requests) : d'.Told :=
    fun r hr => h r (hsame ▸ hr)
  cases command with
  | createRequest input =>
    rcases commit_cases (VerificationRepository.createRequest input) db with ⟨_, hc⟩ | ⟨-, hc⟩
    · rcases createRequest_trail hc with ⟨hsame, -⟩ | ⟨row, -, hstate, -, hrequests, -⟩
      · exact same hsame
      · intro r hr
        change r ∈ (commit (VerificationRepository.createRequest input) db).requests at hr
        rw [hrequests, List.mem_append, List.mem_singleton] at hr
        rcases hr with hr | rfl
        · exact h r hr
        · rw [hstate]
          rfl
    · exact same (congrArg (fun db : Db => db.requests) hc)
  | transition c input =>
    obtain ⟨name, command, hrun, haudited⟩ := c.run_audited
    rcases commit_cases (c.run input) db with ⟨_, hc⟩ | ⟨-, hc⟩
    · rw [hrun] at hc
      rcases transition_trail sound.requestReferences hc with
        ⟨hsame, -⟩ | ⟨r, hr, -, next, hnext, hrequests, -⟩
      · rw [← hrun] at hsame
        exact same hsame
      · rw [← hrun] at hrequests
        intro q hq
        change q ∈ (commit (c.run input) db).requests at hq
        rw [hrequests, sound.requestReferences.mem_set_iff hr] at hq
        rcases hq with rfl | ⟨hq, -⟩
        · exact (haudited _ _ hnext).2
        · exact h q hq
    · exact same (congrArg (fun db : Db => db.requests) hc)
  | activate input =>
    rcases commit_cases (AttestationRepository.activate input) db with ⟨_, hc⟩ | ⟨-, hc⟩
    · rcases activate_spec sound hc with ⟨-, hsame⟩ | ⟨hunused, -⟩
      · exact same (congrArg DomainTables.requests hsame)
      · exact absurd ⟨hc.accepted, hunused⟩ hnone
    · exact same (congrArg (fun db : Db => db.requests) hc)
  | recordReviewDecision input =>
    generalize (db.exec (.recordReviewDecision input)).toDomainTables = d' at e
    cases e <;> exact h
  | issue input =>
    generalize (db.exec (.issue input)).toDomainTables = d' at e
    cases e <;> exact h
  | clock => exact h
  | expire input =>
    generalize (db.exec (.expire input)).toDomainTables = d' at e
    cases e with
    | unchanged => exact h
    | expired _ a mem _ state => exact absurd ((issued a mem).symm.trans state) (by decide)
  | revoke input =>
    generalize (db.exec (.revoke input)).toDomainTables = d' at e
    cases e with
    | unchanged => exact h
    | revoked _ a _ mem _ state => exact absurd ((issued a mem).symm.trans state) (by decide)

/-- After a run, no request has been moved beyond its issuance if and only if no step of the run
activated an attestation. -/
theorem told_run_iff {db db' : Db} {commands : List Command} (sound : db.toDomainTables.Sound)
    (told : db.toDomainTables.Told) (h : run Db.step db commands = some db') :
    db'.toDomainTables.Told ↔
      AllSteps Db.step (fun db command => ¬ db.NewActivation command) db commands := by
  have never : ∀ {commands : List Command} {db db' : Db}, db.toDomainTables.Sound →
      ¬ db.toDomainTables.Told → run Db.step db commands = some db' →
        ¬ db'.toDomainTables.Told := by
    intro commands
    induction commands with
    | nil =>
      rintro db db' - hnot hrun
      obtain rfl := Option.some.inj hrun
      exact hnot
    | cons command commands ih =>
      intro db db' hs hnot hrun
      have e := effect_of_exec hs command
      exact ih (hs.of_effect e) (e.not_told hnot) hrun
  induction commands generalizing db with
  | nil =>
    obtain rfl := Option.some.inj h
    exact iff_of_true told trivial
  | cons command commands ih =>
    have hs := sound.of_effect (effect_of_exec sound command)
    by_cases hnew : db.NewActivation command
    · exact iff_of_false (never hs (not_told_of_activation sound hnew) h) fun hall =>
        hall.1 hnew
    · refine (ih hs (told_exec sound told hnew) h).trans ?_
      constructor
      · intro hall
        refine ⟨hnew, fun s hstep => ?_⟩
        obtain rfl := Option.some.inj hstep
        exact hall
      · intro hall
        exact hall.2 _ rfl

/-! ## Every run -/

/-- A database without requests and without events of a request. -/
structure Db.Untold (db : Db) : Prop extends db.Initial where
  noTrails : ∀ reference, db.requestTrail reference = []

theorem Db.Untold.trailed {db : Db} (h : db.Untold) : db.Trailed := by
  constructor
  · intro r hr
    rw [h.noRequests] at hr
    cases hr
  · intro reference _
    exact h.noTrails reference

/-- The requests of a run tell their states up to the issuance. -/
theorem Db.Trailed.reach {db₀ db : Db} (initial : db₀.Untold)
    (h : Reach Db.step (fun _ _ => True) db₀ db) : db.Trailed ∧ db.toDomainTables.Sound := by
  refine h.invariant (I := fun db => db.Trailed ∧ db.toDomainTables.Sound)
    ⟨initial.trailed, initial.toInitial.sound⟩ ?_
  rintro db command db' ⟨htrailed, hsound⟩ - hstep
  obtain rfl : db.exec command = db' := Option.some.inj hstep
  exact ⟨htrailed.exec hsound command, hsound.of_effect (effect_of_exec hsound command)⟩

/-- The trail of every request is complete after a run if and only if no step of the run activated
an attestation. -/
theorem request_trails_complete_iff {db₀ db : Db} {commands : List Command}
    (initial : db₀.Untold) (h : run Db.step db₀ commands = some db) :
    (∀ r ∈ db.requests, TrailComplete db r) ↔
      AllSteps Db.step (fun db command => ¬ db.NewActivation command) db₀ commands := by
  have told : db₀.toDomainTables.Told := by
    intro r hr
    rw [initial.noRequests] at hr
    cases hr
  obtain ⟨htrailed, -⟩ := Db.Trailed.reach initial
    (reach_of_run h (allSteps_of_mem (fun _ _ _ => trivial) db₀))
  rw [← told_run_iff initial.toInitial.sound told h]
  exact forall₂_congr fun r hr => htrailed.complete_iff hr

theorem run_step_foldl (db : Db) (commands : List Command) :
    run Db.step db commands = some (commands.foldl Db.exec db) := by
  induction commands generalizing db with
  | nil => rfl
  | cons command commands ih => exact ih (db.exec command)

namespace Sample

theorem db_untold : db.Untold := ⟨db_initial, fun _ => rfl⟩

theorem reach_foldl (db : Db) (commands : List Command) :
    Reach Db.step (fun _ _ => True) db (commands.foldl Db.exec db) :=
  reach_of_run (run_step_foldl db commands) (allSteps_of_mem (fun _ _ _ => trivial) db)

theorem renewable_reach : Reach Db.step (fun _ _ => True) db renewable := by
  have happroved : Reach Db.step (fun _ _ => True) db approved := reach_foldl db _
  have hoffered : Reach Db.step (fun _ _ => True) db offered := happroved.tail trivial rfl
  have hrequested : Reach Db.step (fun _ _ => True) offered requested := reach_foldl offered _
  exact (hoffered.trans hrequested).tail trivial rfl

end Sample

/-- The trail of a request is complete while it has no active attestation. -/
theorem request_trails_complete_approved :
    Sample.requestOne ∈ Sample.approved.requests ∧
      TrailComplete Sample.approved Sample.requestOne := by
  obtain ⟨⟨hmem, -⟩, -⟩ := Sample.evaluation
  have hrun : run Db.step Sample.db (Sample.issuedRequest "request_one") = some Sample.approved :=
    run_step_foldl Sample.db (Sample.issuedRequest "request_one")
  refine ⟨hmem, (request_trails_complete_iff Sample.db_untold hrun).2 ?_ _ hmem⟩
  exact allSteps_of_mem (by simp [Sample.issuedRequest, Db.NewActivation]) Sample.db

/-- The trail of the first request of the sample ends with its issuance, although its attestation has
been activated. -/
theorem request_trail_incomplete :
    ¬ ∀ db₀ db : Db, db₀.Untold → Reach Db.step (fun _ _ => True) db₀ db →
      ∀ r ∈ db.requests, TrailComplete db r := by
  intro h
  have hreach := Sample.renewable_reach
  obtain ⟨htrailed, hsound⟩ := Db.Trailed.reach Sample.db_untold hreach
  obtain ⟨-, -, hrows, -⟩ := Sample.evaluation
  have hmem : Sample.attestationOne ∈ Sample.renewable.attestations := by
    rw [hrows]
    exact List.mem_cons_self
  obtain ⟨r, hr, -, -, -, hstate⟩ := hsound.request _ hmem
  have htold := (htrailed.complete_iff hr).1 (h _ _ Sample.db_untold hreach r hr)
  rw [hstate] at htold
  exact absurd htold (by decide)

end ChecksAndBalances
