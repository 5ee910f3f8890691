import ChecksAndBalances.Worker.Fencing

/-!
# A second enqueueing under one key

`enqueueAnchor` looks the job up that stands under the idempotency key, compares three of its fields
with the input, and returns it.
-/

namespace ChecksAndBalances

open Lib Lib.Tx VerusJobRepository

section Calls

variable {db : Db} {input : EnqueueVerusAnchorInput} {context : CommandContext} {row : VerusJobRow}

/-! ## Errors -/

/-- A `RepositoryConflictError`. -/
def RepositoryError.IsConflict (e : RepositoryError) : Prop := ∃ message, e = .conflict message

theorem fails_requireOpaqueReference (value field : String) :
    Fails RepositoryError.IsConflict (requireOpaqueReference value field) :=
  fails_require ⟨_, rfl⟩

theorem fails_rejectSensitiveManifestFields (manifest : JsonObject) :
    Fails RepositoryError.IsConflict (lift id (rejectSensitiveManifestFields manifest) : DbTx Unit) := by
  refine fails_lift fun d hd => ?_
  unfold rejectSensitiveManifestFields at hd
  split at hd
  · cases hd
  · exact ⟨_, (Except.error.inj hd).symm⟩
  · exact ⟨_, (Except.error.inj hd).symm⟩

section Validate

variable [Host]

theorem fails_validateManifest (input : EnqueueVerusAnchorInput) :
    Fails RepositoryError.IsConflict (validateManifest input) := by
  refine (fails_require ⟨_, rfl⟩).bind fun _ => (fails_require ⟨_, rfl⟩).bind fun _ => ?_
  refine (fails_found ⟨_, rfl⟩).bind fun _ => (fails_require ⟨_, rfl⟩).bind fun _ => ?_
  refine (fails_require ⟨_, rfl⟩).bind fun _ => (fails_require ⟨_, rfl⟩).bind fun _ => ?_
  refine (fails_require ⟨_, rfl⟩).bind fun _ => (fails_require ⟨_, rfl⟩).bind fun _ => ?_
  exact fails_rejectSensitiveManifestFields _

/-- An input that is not valid is a conflict. -/
theorem fails_validateInput (input : EnqueueVerusAnchorInput) (context : CommandContext) :
    Fails RepositoryError.IsConflict (validateInput input context) := by
  refine (fails_requireOpaqueReference _ _).bind fun _ => ?_
  refine (fails_requireOpaqueReference _ _).bind fun _ => (fails_require ⟨_, rfl⟩).bind fun _ => ?_
  refine (fails_require ⟨_, rfl⟩).bind fun _ => (fails_require ⟨_, rfl⟩).bind fun _ => ?_
  refine (fails_require ⟨_, rfl⟩).bind fun _ => (fails_validateManifest input).bind fun _ => ?_
  refine (fails_require ⟨_, rfl⟩).bind fun _ => (fails_require ⟨_, rfl⟩).bind fun _ => ?_
  exact fails_require ⟨_, rfl⟩

end Validate

theorem fails_resolveCommittee (reference : Option String) :
    Fails RepositoryError.IsConflict (resolveCommittee reference) := by
  unfold resolveCommittee
  split
  · exact fails_pure
  · refine (fails_requireOpaqueReference _ _).bind fun _ => fails_get.bind fun _ => ?_
    exact (fails_found ⟨_, rfl⟩).bind fun _ => fails_pure

theorem isConflict_of_toRecord {e : RepositoryError} (h : toRecord db row = .error e) : e.IsConflict := by
  unfold toRecord at h
  split_ifs at h
  · exact ⟨_, (Except.error.inj h).symm⟩
  · exact ⟨_, (Except.error.inj h).symm⟩

/-! ## The replay -/

/-- The fields that `enqueueAnchor` compares. -/
structure SameCompared (input : EnqueueVerusAnchorInput) (row : VerusJobRow) : Prop where
  manifestDigest : row.manifestDigest = input.manifestDigest
  targetIdentity : row.targetIdentity = input.targetIdentity
  vdxfKey : row.vdxfKey = input.vdxfKey

/-- The input asks for the work of the job. -/
structure SameAnchor (db : Db) (input : EnqueueVerusAnchorInput) (row : VerusJobRow) : Prop extends
    SameCompared input row where
  committee : committeeReference db row = present input.committeeReference
  operationType : row.operationType = input.operationType
  subjectReference : row.subjectReference = input.subjectReference
  vdxfUri : row.vdxfUri = input.vdxfUri
  manifestPolicyReference : row.manifestPolicyReference = input.manifestPolicyReference
  manifestAllowedFields : row.manifestAllowedFields = input.manifestAllowedFields
  manifestRequiredFields : row.manifestRequiredFields = input.manifestRequiredFields
  manifestMaximumBytes : row.manifestMaximumBytes = input.manifestMaximumBytes
  confirmationRequirement : row.confirmationRequirement = input.confirmationRequirement

/-- A call under the key of the job returns the job if it asks for its work, and is a conflict
otherwise. -/
def ReplayFaithful (db : Db) (input : EnqueueVerusAnchorInput) (row : VerusJobRow) :
    Except RepositoryError (VerusJobRecord × Db) → Prop
  | .ok (job, db') => toRecord db row = .ok job ∧ SameAnchor db input row ∧ db' = db
  | .error e => SameAnchor db input row ∨ e.IsConflict

/-- The call is valid, it agrees with the job in the compared fields, and asks for other work. -/
structure Undetected [Host] (db : Db) (input : EnqueueVerusAnchorInput) (context : CommandContext)
    (row : VerusJobRow) : Prop where
  valid : Accepted (validateInput input context) db
  committee : Accepted (resolveCommittee input.committeeReference) db
  readable : ∃ job, toRecord db row = .ok job
  compared : SameCompared input row
  different : ¬ SameAnchor db input row

/-- The rest of an enqueueing leaves the outbox alone. -/
theorem keeps_outbox_insertJob (new : VerusJobRow) :
    Keeps (fun db : Db => db.outbox) (insertJob new) := by
  refine keeps_get.bind fun _ => keeps_require.bind fun _ => keeps_require.bind fun _ => ?_
  refine keeps_require.bind fun _ => keeps_require.bind fun _ => keeps_require.bind fun _ => ?_
  exact keeps_require.bind fun _ => keeps_modify fun _ => rfl

theorem keeps_outbox_insertAnchor (new : AnchorRecord) :
    Keeps (fun db : Db => db.outbox) (insertAnchor new) := by
  refine keeps_get.bind fun _ => keeps_require.bind fun _ => keeps_require.bind fun _ => ?_
  exact keeps_require.bind fun _ => keeps_require.bind fun _ => keeps_modify fun _ => rfl

/-- New work stands under the key of its context. -/
theorem existingJob_of_insertWork {committeeId : Option Uuid} {job : VerusJobRecord} {db' : Db}
    (h : Commits (insertWork input context committeeId) db job db') :
    ∃ row, existingJob db' context = some row ∧ toRecord db' row = .ok job := by
  obtain ⟨eventId, db₁, -, h₁⟩ := commits_bind.1 h
  obtain ⟨jobId, db₂, -, h₂⟩ := commits_bind.1 h₁
  obtain ⟨_, db₃, hevent, h₃⟩ := commits_bind.1 h₂
  rw [commits_get_bind] at h₃
  obtain ⟨_, db₄, hjob, h₄⟩ := commits_bind.1 h₃
  obtain ⟨anchorId, db₅, hid, h₅⟩ := commits_bind.1 h₄
  obtain ⟨_, db₆, hanchor, h₆⟩ := commits_bind.1 h₅
  obtain ⟨_, db₇, haudit, hload⟩ := commits_bind.1 h₆
  obtain ⟨row, hfind, hrecord, rfl⟩ := commits_load.1 hload
  simp only [insertOutboxEvent, requireUnique, commits_get_bind, commits_require_bind,
    commits_modify, List.all_eq_true, Bool.not_eq_true', decide_eq_false_iff_not] at hevent
  obtain ⟨-, hkey, hdb₃⟩ := hevent
  have houtbox : db'.outbox = db₃.outbox :=
    (keeps_appendAudit (f := fun db => db.outbox) (fun _ _ _ _ => rfl) _ _ _ _ _ _ _ _ haudit).trans
      ((keeps_outbox_insertAnchor _ _ _ _ hanchor).trans
        ((keeps_newId (f := fun db => db.outbox) (fun _ _ => rfl) _ _ _ hid).trans
          (keeps_outbox_insertJob _ _ _ _ hjob)))
  refine ⟨row, ?_, hrecord⟩
  have hnone : db₂.outbox.find? (fun o => o.idempotencyKeyHash = sha256 context.idempotencyKey) =
      none := by
    rw [List.find?_eq_none]
    exact fun o ho => by simpa using hkey o ho
  rw [existingJob, houtbox, hdb₃, List.find?_append, hnone]
  simpa using hfind

section Replay

variable [Host]

/-- After a call that commits, the job under its key is the one it has returned. -/
theorem existingJob_of_commits {job : VerusJobRecord} {db' : Db}
    (h : Commits (enqueueAnchor input context) db job db') :
    ∃ row, existingJob db' context = some row ∧ toRecord db' row = .ok job := by
  obtain ⟨u, db₁, hvalid, hrest⟩ := commits_bind.1 h
  obtain ⟨committeeId, db₂, hresolve, hlast⟩ := commits_bind.1 hrest
  obtain rfl : db₁ = db := keeps_validateInput (fun db => db) _ _ _ _ _ hvalid
  obtain rfl : db₂ = db₁ := keeps_resolveCommittee (fun db => db) _ _ _ _ hresolve
  rw [commits_get_bind] at hlast
  cases hexisting : existingJob db₂ context with
  | some row =>
    rw [hexisting] at hlast
    simp only [commits_lift_bind, commits_require_bind, commits_pure] at hlast
    obtain ⟨_, hrecord, -, rfl, rfl⟩ := hlast
    exact ⟨row, hexisting, hrecord⟩
  | none =>
    rw [hexisting] at hlast
    exact existingJob_of_insertWork hlast

/-- A call under the key of a job that commits returns the job. -/
theorem commits_replay_iff (hexisting : existingJob db context = some row) {job : VerusJobRecord}
    {db' : Db} :
    Commits (enqueueAnchor input context) db job db' ↔
      Accepted (validateInput input context) db ∧
        Accepted (resolveCommittee input.committeeReference) db ∧ SameCompared input row ∧
        toRecord db row = .ok job ∧ db' = db := by
  constructor
  · intro h
    obtain ⟨u, db₁, hvalid, hrest⟩ := commits_bind.1 h
    obtain ⟨committeeId, db₂, hresolve, hlast⟩ := commits_bind.1 hrest
    obtain rfl : db₁ = db := keeps_validateInput (fun db => db) _ _ _ _ _ hvalid
    obtain rfl : db₂ = db₁ := keeps_resolveCommittee (fun db => db) _ _ _ _ hresolve
    rw [commits_get_bind, hexisting] at hlast
    simp only [commits_lift_bind, commits_require_bind, commits_pure] at hlast
    obtain ⟨replay, hrecord, ⟨hdigest, htarget, hkey⟩, rfl, hdb⟩ := hlast
    have hmanifest := (toRecord_eq hrecord).1
    rw [hmanifest] at hdigest htarget hkey
    exact ⟨hvalid.accepted, hresolve.accepted, ⟨hdigest, htarget, hkey⟩, hrecord, hdb⟩
  · rintro ⟨⟨u, db₁, hvalid⟩, ⟨committeeId, db₂, hresolve⟩, hcompared, hrecord, rfl⟩
    obtain rfl : db₁ = db' := keeps_validateInput (fun db => db) _ _ _ _ _ hvalid
    obtain rfl : db₂ = db₁ := keeps_resolveCommittee (fun db => db) _ _ _ _ hresolve
    refine commits_bind.2 ⟨u, db₂, hvalid, commits_bind.2 ⟨committeeId, db₂, hresolve, ?_⟩⟩
    rw [commits_get_bind, hexisting]
    simp only [commits_lift_bind, commits_require_bind, commits_pure]
    have hmanifest := (toRecord_eq hrecord).1
    refine ⟨job, hrecord, ?_, rfl, trivial⟩
    rw [hmanifest]
    exact ⟨hcompared.manifestDigest, hcompared.targetIdentity, hcompared.vdxfKey⟩

/-- A call under the key of a job fails with a conflict only. -/
theorem rejects_replay (hexisting : existingJob db context = some row) {e : RepositoryError}
    (h : Rejects (enqueueAnchor input context) db e) : e.IsConflict := by
  rcases rejects_bind.1 h with hinvalid | ⟨u, db₁, hvalid, hrest⟩
  · exact fails_validateInput _ _ _ _ hinvalid
  rcases rejects_bind.1 hrest with hunknown | ⟨committeeId, db₂, hresolve, hlast⟩
  · exact fails_resolveCommittee _ _ _ hunknown
  obtain rfl : db₁ = db := keeps_validateInput (fun db => db) _ _ _ _ _ hvalid
  obtain rfl : db₂ = db₁ := keeps_resolveCommittee (fun db => db) _ _ _ _ hresolve
  rw [rejects_get_bind, hexisting] at hlast
  rcases rejects_bind.1 hlast with hunreadable | ⟨replay, db₃, -, hdifferent⟩
  · obtain ⟨e', herror, rfl⟩ := rejects_lift.1 hunreadable
    exact isConflict_of_toRecord herror
  · rcases rejects_require_bind.1 hdifferent with ⟨-, rfl⟩ | ⟨-, hreturned⟩
    · exact ⟨_, rfl⟩
    · exact absurd hreturned accepted_pure.not_rejects

/-- A call under the key of a job is faithful except where it is valid, agrees with the job in digest,
target and key, and asks for other work. -/
theorem enqueueAnchor_replay_iff (hexisting : existingJob db context = some row) :
    ReplayFaithful db input row (enqueueAnchor input context db) ↔
      ¬ Undetected db input context row := by
  cases hrun : enqueueAnchor input context db with
  | ok result =>
    obtain ⟨job, db'⟩ := result
    obtain ⟨hvalid, hcommittee, hcompared, hrecord, hdb⟩ := (commits_replay_iff hexisting).1 hrun
    constructor
    · rintro ⟨-, hsame, -⟩ hundetected
      exact hundetected.different hsame
    · intro hdetected
      refine ⟨hrecord, ?_, hdb⟩
      by_contra hdifferent
      exact hdetected ⟨hvalid, hcommittee, ⟨job, hrecord⟩, hcompared, hdifferent⟩
  | error e =>
    refine iff_of_true (Or.inr (rejects_replay hexisting hrun)) fun hundetected => ?_
    obtain ⟨hvalid, hcommittee, ⟨job, hrecord⟩, hcompared, -⟩ := hundetected
    have hcommits : Commits (enqueueAnchor input context) db job db :=
      (commits_replay_iff hexisting).2 ⟨hvalid, hcommittee, hcompared, hrecord, rfl⟩
    rw [Commits, hrun] at hcommits
    cases hcommits

end Replay

end Calls

/-- Two transactions in a row that both commit. -/
theorem commits_of_both {σ ε α β : Type} {first : Tx σ ε α} {second : Tx σ ε β} {s : σ} {r : α × β}
    (h : (do
      let (a, s') ← first s
      let (b, _) ← second s'
      return (a, b) : Except ε (α × β)) = .ok r) :
    ∃ s' s'', Commits first s r.1 s' ∧ Commits second s' r.2 s'' := by
  cases hfirst : first s with
  | error e =>
    rw [hfirst] at h
    cases h
  | ok result =>
    obtain ⟨a, s'⟩ := result
    rw [hfirst] at h
    cases hsecond : second s' with
    | error e =>
      simp only [bind, Except.bind, hsecond] at h
      cases h
    | ok result =>
      obtain ⟨b, s''⟩ := result
      simp only [bind, Except.bind, hsecond, pure, Except.pure, Except.ok.injEq] at h
      rw [← h]
      exact ⟨s', s'', hfirst, hsecond⟩

namespace WorkerSample

/-- A database with one committee. -/
def committeeDb : Db :=
  { Db.empty with committees := [
    { id := 7, externalReference := "committee_two", state := .active, version := 1 }] }

/-- The work of a committee, under the key of the first sample. -/
def otherInput : EnqueueVerusAnchorInput :=
  { input "one" with
    externalReference := "anchor_other"
    subjectReference := "subject_other"
    operationType := "revocation_anchor"
    confirmationRequirement := 6
    committeeReference := some "committee_two" }

def otherContext : CommandContext := { context "one" with committeeReference := "committee_two" }

/-- What the two calls in a row return. -/
def replayed (second : EnqueueVerusAnchorInput) (secondContext : CommandContext) :
    Except RepositoryError (VerusJobRecord × VerusJobRecord) := do
  let (job, db) ← enqueueAnchor (input "one") (context "one") committeeDb
  let (job', _) ← enqueueAnchor second secondContext db
  return (job, job')

theorem exists_replayed (second : EnqueueVerusAnchorInput) (secondContext : CommandContext)
    {p : VerusJobRecord × VerusJobRecord → Bool}
    (h : (replayed second secondContext).toOption.any p = true) :
    ∃ job db job' db', Commits (enqueueAnchor (input "one") (context "one")) committeeDb job db ∧
      Commits (enqueueAnchor second secondContext) db job' db' ∧ p (job, job') = true := by
  cases hjobs : replayed second secondContext with
  | error e =>
    rw [hjobs] at h
    cases h
  | ok jobs =>
    rw [hjobs] at h
    obtain ⟨db, db', hfirst, hsecond⟩ := commits_of_both hjobs
    exact ⟨jobs.1, db, jobs.2, db', hfirst, hsecond, h⟩

/-- The committee is given the first job, which is about another subject and for no committee. -/
theorem other_work_replayed :
    ∃ job db row job' db', Commits (enqueueAnchor (input "one") (context "one")) committeeDb job db ∧
      existingJob db otherContext = some row ∧
      Commits (enqueueAnchor otherInput otherContext) db job' db' ∧ job'.id = job.id ∧
      ¬ ReplayFaithful db otherInput row (enqueueAnchor otherInput otherContext db) := by
  obtain ⟨job, db, job', db', hfirst, hsecond, hp⟩ := exists_replayed otherInput otherContext
    (p := fun r => r.2.id = r.1.id && r.1.subjectReference ≠ otherInput.subjectReference)
    (by decide +kernel)
  rw [Bool.and_eq_true, decide_eq_true_eq, decide_eq_true_eq] at hp
  obtain ⟨row, hrow, hrecord⟩ := existingJob_of_commits hfirst
  refine ⟨job, db, row, job', db', hfirst, hrow, hsecond, hp.1, ?_⟩
  rw [show enqueueAnchor otherInput otherContext db = .ok (job', db') from hsecond]
  rintro ⟨-, hsame, -⟩
  refine hp.2 ?_
  rw [(toRecord_eq hrecord).1]
  exact hsame.subjectReference

/-- The same work is given its own job. -/
theorem same_work_replayed :
    ∃ job db row job' db', Commits (enqueueAnchor (input "one") (context "one")) committeeDb job db ∧
      existingJob db (context "one") = some row ∧
      Commits (enqueueAnchor (input "one") (context "one")) db job' db' ∧
      (ReplayFaithful db (input "one") row (enqueueAnchor (input "one") (context "one") db) ↔
        ¬ Undetected db (input "one") (context "one") row) := by
  obtain ⟨job, db, job', db', hfirst, hsecond, -⟩ := exists_replayed (input "one")
    (context "one") (p := fun _ => true) (by decide +kernel)
  obtain ⟨row, hrow, -⟩ := existingJob_of_commits hfirst
  exact ⟨job, db, row, job', db', hfirst, hrow, hsecond, enqueueAnchor_replay_iff hrow⟩

end WorkerSample

end ChecksAndBalances
