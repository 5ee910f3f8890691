import ChecksAndBalances.Outbox.Effects
import ChecksAndBalances.Worker.Program

/-!
# What a committed job operation does

Every operation of the job store finds one row, and needs the lease of its event except for the dead
letter.  It changes at most that row and the anchor record of the event, and returns the record of
the row it leaves.
-/

namespace ChecksAndBalances

open Lib Lib.Tx VerusJobRepository

/-! ## Transitions as data -/

/-- The arguments that a method of the job store gives to `transition`. -/
structure JobTransition where
  expected : List VerusJobState
  next : VerusJobState
  evidence : TransitionEvidence
  syncAnchor : Bool

/-- The transition of an operation. -/
def JobOperation.transition (observedAt : ℤ) : JobOperation → Option JobTransition
  | loadForClaim => none
  | claim => some ⟨[.pending, .retryableFailed, .reorgPending], .claimed, {}, false⟩
  | beginPreflight => some ⟨[.claimed], .preflight, {}, false⟩
  | recordSubmission transactionId => some ⟨[.preflight], .submitted,
      { transactionId := some transactionId, submittedAt := some observedAt
        submissionAmbiguous := some false }, true⟩
  | beginConfirmation => some ⟨[.submitted], .confirming, {}, true⟩
  | beginReadback blockHeight blockHash => some ⟨[.confirming], .readback,
      { blockHeight := some blockHeight, blockHash := some blockHash
        confirmedAt := some observedAt }, true⟩
  | verifyReadback digest => some ⟨[.readback], .verified,
      { readbackDigest := some digest, readbackAt := some observedAt }, true⟩
  | retryableFailure errorClass submissionAmbiguous =>
      some ⟨[.preflight, .submitted, .confirming, .readback], .retryableFailed,
        { errorClass := some errorClass, submissionAmbiguous := some submissionAmbiguous }, true⟩
  | terminalFailure errorClass =>
      some ⟨[.preflight, .submitted, .confirming, .readback, .retryableFailed], .terminalFailed,
        { errorClass := some errorClass, submissionAmbiguous := some false }, true⟩
  | markDeadLetter _ => none
  | reorg => some ⟨[.confirming, .readback], .reorgPending,
      { errorClass := some "reorg_detected", reorgDetectedAt := some observedAt }, true⟩

/-- The anchors after a transition of the job of the event. -/
def JobTransition.anchors (x : JobTransition) (eventId : Uuid) (observedAt : ℤ)
    (anchors : List AnchorRecord) : List AnchorRecord :=
  match x.syncAnchor, x.next.anchorState with
  | true, some state =>
    Table.set (fun a => a.outboxEventId = eventId) (movedAnchor state x.evidence observedAt) anchors
  | _, _ => anchors

/-- Every method but the load and the dead letter is a transition. -/
theorem JobOperation.exec_of_transition {operation : JobOperation} {observedAt : ℤ}
    {x : JobTransition} (h : operation.transition observedAt = some x) (eventId : Uuid)
    (worker : OutboxWorkerContext) :
    operation.exec eventId worker observedAt = VerusJobRepository.transition eventId worker
      observedAt x.expected x.next x.evidence x.syncAnchor := by
  cases operation <;> cases h <;> rfl

/-! ## Specifications -/

variable {db db' : Db} {eventId : Uuid} {worker : OutboxWorkerContext} {observedAt : ℤ}

/-- The job of an event is unique. -/
abbrev UniqueJobs (db : Db) : Prop :=
  Table.Unique (fun row : VerusJobRow => row.outboxEventId) db.jobs

/-- The worker has the event under a lease that is live at the observed time. -/
def Leased (db : Db) (eventId : Uuid) (worker : String) (observedAt : ℤ) : Prop :=
  ∃ o ∈ db.outbox, o.id = eventId ∧ o.eventType = verusAnchorEventType ∧ o.Held worker observedAt

theorem commits_requireLease_bind {β : Type} {k : Unit → DbTx β} {b : β} :
    Commits (requireLease eventId worker observedAt >>= k) db b db' ↔
      Leased db eventId worker.workerReference observedAt ∧ Commits (k ()) db b db' := by
  simp only [requireLease, bind_assoc, commits_get_bind, commits_require_bind, List.any_eq_true,
    Bool.and_eq_true, decide_eq_true_eq, Option.any_eq_true]
  constructor
  · rintro ⟨⟨o, hmem, ⟨⟨⟨hid, htype⟩, hstate⟩, howner⟩, hexpires⟩, h⟩
    exact ⟨⟨o, hmem, hid, htype, hstate, howner, hexpires⟩, h⟩
  · rintro ⟨⟨o, hmem, hid, htype, hstate, howner, hexpires⟩, h⟩
    exact ⟨⟨o, hmem, ⟨⟨⟨hid, htype⟩, hstate⟩, howner⟩, hexpires⟩, h⟩

theorem commits_load {job : VerusJobRecord} :
    Commits (load eventId) db job db' ↔
      ∃ row, db.jobs.find? (fun j => j.outboxEventId = eventId) = some row ∧
        toRecord db row = .ok job ∧ db' = db := by
  simp only [load, commits_get_bind, commits_found_bind, commits_lift]

theorem commits_load_bind {β : Type} {k : VerusJobRecord → DbTx β} {b : β} :
    Commits (load eventId >>= k) db b db' ↔
      ∃ row job, db.jobs.find? (fun j => j.outboxEventId = eventId) = some row ∧
        toRecord db row = .ok job ∧ Commits (k job) db b db' := by
  rw [commits_bind]
  simp only [commits_load]
  constructor
  · rintro ⟨job, _, ⟨row, hrow, hjob, rfl⟩, h⟩
    exact ⟨row, job, hrow, hjob, h⟩
  · rintro ⟨row, job, hrow, hjob, h⟩
    exact ⟨job, db, ⟨row, hrow, hjob, rfl⟩, h⟩

/-- The row that the event's identifier finds. -/
theorem mem_of_find_job {row : VerusJobRow}
    (h : db.jobs.find? (fun j => j.outboxEventId = eventId) = some row) :
    row ∈ db.jobs ∧ row.outboxEventId = eventId := by
  obtain ⟨hmem, hkey⟩ := Table.mem_of_find? h
  exact ⟨hmem, of_decide_eq_true hkey⟩

/-- A record is the row with its empty texts left out. -/
theorem toRecord_eq {row : VerusJobRow} {job : VerusJobRecord} (h : toRecord db row = .ok job) :
    job.toVerusManifest = row.toVerusManifest ∧ job.outboxEventId = row.outboxEventId ∧
      job.state = row.state ∧ job.transactionId = present row.transactionId ∧
      job.submissionAmbiguous = row.submissionAmbiguous ∧ job.version = row.version := by
  unfold toRecord at h
  split_ifs at h
  rw [← Except.ok.inj h]
  exact ⟨rfl, rfl, rfl, rfl, rfl, rfl⟩

/-- One row changed. -/
structure JobChanged (db db' : Db) (row new : VerusJobRow) : Prop where
  mem : row ∈ db.jobs
  key : new.outboxEventId = row.outboxEventId
  jobs : ∀ x, x ∈ db'.jobs ↔ x = new ∨ (x ∈ db.jobs ∧ x.outboxEventId ≠ row.outboxEventId)
  unique : UniqueJobs db'

theorem JobChanged.new_mem {row new : VerusJobRow} (h : JobChanged db db' row new) :
    new ∈ db'.jobs :=
  (h.jobs new).2 (Or.inl rfl)

theorem JobChanged.refl {row : VerusJobRow} (hkeys : UniqueJobs db) (hmem : row ∈ db.jobs) :
    JobChanged db db row row := by
  refine ⟨hmem, rfl, fun x => ⟨fun hx => ?_, ?_⟩, hkeys⟩
  · by_cases hkey : x.outboxEventId = row.outboxEventId
    · exact Or.inl (hkeys x hx row hmem hkey)
    · exact Or.inr ⟨hx, hkey⟩
  · rintro (rfl | hx)
    · exact hmem
    · exact hx.1

/-- The load after a change finds the changed row. -/
theorem JobChanged.find {row new : VerusJobRow} (h : JobChanged db db' row new) :
    db'.jobs.find? (fun j => j.outboxEventId = row.outboxEventId) = some new := by
  rw [← h.key]
  exact h.unique.find?_eq h.new_mem

/-- `updateJob` with the version that was read changes the row that was read. -/
theorem updateJob_spec {row : VerusJobRow} {f : VerusJobRow → VerusJobRow} {n : ℕ}
    (hkeys : UniqueJobs db) (hmem : row ∈ db.jobs)
    (hf : ∀ r, (f r).outboxEventId = r.outboxEventId)
    (h : Commits (updateJob row.outboxEventId row.version f) db n db') :
    guardVerusJobUpdate row (f row) = .ok () ∧ JobChanged db db' row (f row) ∧
      db' = { db with jobs := db'.jobs } := by
  simp only [updateJob, commits_get_bind, commits_lift_bind, commits_modify_bind, commits_pure,
    Table.update_eq_ok_iff] at h
  obtain ⟨_, ⟨hguard, rfl⟩, -, rfl⟩ := h
  refine ⟨hguard row hmem (by simp), ⟨hmem, hf row, fun x => ?_, hkeys.set hf⟩, rfl⟩
  rw [Table.set_congr (q := fun r => r.outboxEventId = row.outboxEventId)]
  · exact hkeys.mem_set_iff hmem
  · intro r hr
    by_cases hkey : r.outboxEventId = row.outboxEventId
    · rw [hkeys r hr row hmem hkey]
      simp
    · simp [hkey]

theorem synchronizeAnchor_spec {x : JobTransition} {u : Unit}
    (h : Commits (synchronizeAnchor x.syncAnchor eventId x.next x.evidence observedAt) db u db') :
    db' = { db with anchors := x.anchors eventId observedAt db.anchors } := by
  unfold JobTransition.anchors
  unfold synchronizeAnchor at h
  cases hsync : x.syncAnchor with
  | false =>
    rw [hsync] at h
    rw [(commits_pure.1 h).2]
  | true =>
    rw [hsync] at h
    cases hstate : x.next.anchorState with
    | none =>
      simp only [if_true, transitionAnchor, hstate] at h
      rw [(commits_pure.1 h).2]
    | some state =>
      simp only [if_true, transitionAnchor, hstate, commits_get_bind, commits_lift_bind,
        commits_modify_bind, commits_require, Table.update_eq_ok_iff] at h
      obtain ⟨_, ⟨-, rfl⟩, -, rfl⟩ := h
      rfl

/-- The checks of `validateEvidence`. -/
structure ValidEvidence (evidence : TransitionEvidence) : Prop where
  hex : evidence.transactionId.all isHex64 = true ∧ evidence.blockHash.all isHex64 = true ∧
    evidence.readbackDigest.all isHex64 = true
  blockHeight : evidence.blockHeight.all (fun n => isSafeInteger n && 0 ≤ n) = true
  errorClass : evidence.errorClass.all isErrorClass = true

theorem commits_validateEvidence_bind {β : Type} {evidence : TransitionEvidence}
    {k : Unit → DbTx β} {b : β} :
    Commits (validateEvidence evidence >>= k) db b db' ↔
      ValidEvidence evidence ∧ Commits (k ()) db b db' := by
  simp only [validateEvidence, bind_assoc, commits_require_bind]
  constructor
  · rintro ⟨hhex, hheight, hclass, h⟩
    exact ⟨⟨hhex, hheight, hclass⟩, h⟩
  · rintro ⟨⟨hhex, hheight, hclass⟩, h⟩
    exact ⟨hhex, hheight, hclass, h⟩

theorem keeps_auditTransition {τ : Type} {f : Db → τ}
    (hf : ∀ db audit heads n,
      f { db with audit := audit, auditChainHeads := heads, nextId := n } = f db)
    (before : VerusJobRecord) (command : String) (next : VerusJobState) (result : AuditResult) :
    Keeps f (auditTransition worker eventId before command next result) :=
  keeps_get.bind fun _ => (keeps_appendAudit hf _ _ _ _ _).bind fun _ => keeps_pure

/-- A record only depends on the row and the committees. -/
theorem toRecord_congr (h : db'.committees = db.committees) (row : VerusJobRow) :
    toRecord db' row = toRecord db row := by
  simp only [toRecord, committeeReference, h]

/-- What the operations that change a job do to its row. -/
inductive JobMove (worker : String) (observedAt : ℤ) (db : Db) (row : VerusJobRow) :
    JobOperation → VerusJobRow → List AnchorRecord → Prop
  | loaded (leased : Leased db row.outboxEventId worker observedAt) :
      JobMove worker observedAt db row .loadForClaim row db.anchors
  | moved (operation : JobOperation) (x : JobTransition)
      (transition : operation.transition observedAt = some x)
      (leased : Leased db row.outboxEventId worker observedAt) (expected : row.state ∈ x.expected)
      (valid : ValidEvidence x.evidence)
      (allowed : guardVerusJobUpdate row (moved x.next x.evidence observedAt row) = .ok ()) :
      JobMove worker observedAt db row operation (moved x.next x.evidence observedAt row)
        (x.anchors row.outboxEventId observedAt db.anchors)
  | deadLettered (errorClass : String)
      (released : ∃ o ∈ db.outbox, o.id = row.outboxEventId ∧ o.state = .deadLetter)
      (expected : row.state = .retryableFailed ∨ row.state = .reorgPending) :
      JobMove worker observedAt db row (.markDeadLetter errorClass)
        (deadLettered observedAt errorClass row)
        (Table.set (fun a => a.outboxEventId = row.outboxEventId)
          (movedAnchor .terminalFailed {} observedAt) db.anchors)

namespace JobMove

variable {worker : String} {operation : JobOperation} {row new : VerusJobRow}
  {anchors : List AnchorRecord}

/-- Every operation but the dead letter needs the lease. -/
theorem leased (h : JobMove worker observedAt db row operation new anchors)
    (hdead : ∀ errorClass, operation ≠ .markDeadLetter errorClass) :
    Leased db row.outboxEventId worker observedAt := by
  cases h with
  | loaded leased => exact leased
  | moved operation x transition leased => exact leased
  | deadLettered errorClass => exact absurd rfl (hdead errorClass)

/-- The event of a dead letter is released. -/
theorem dead_event {errorClass : String}
    (h : JobMove worker observedAt db row (.markDeadLetter errorClass) new anchors) :
    ∃ o ∈ db.outbox, o.id = row.outboxEventId ∧ o.state = .deadLetter := by
  cases h with
  | deadLettered _ released => exact released
  | moved _ x hx => cases hx

/-- The row is left in the state that the operation names. -/
theorem state_eq (h : JobMove worker observedAt db row operation new anchors)
    {state : VerusJobState} (hnext : operation.next = some state) : new.state = state := by
  cases h with
  | loaded => cases hnext
  | moved operation x hx => cases operation <;> cases hx <;> cases hnext <;> rfl
  | deadLettered =>
    cases hnext
    rfl

end JobMove

/-- What a committed operation of the job store did. -/
structure JobCommitted (worker : String) (observedAt : ℤ) (operation : JobOperation)
    (db db' : Db) (row new : VerusJobRow) (job : VerusJobRecord) : Prop where
  changed : JobChanged db db' row new
  move : JobMove worker observedAt db row operation new db'.anchors
  before : ∃ before, toRecord db row = .ok before
  record : toRecord db' new = .ok job
  outbox : db'.outbox = db.outbox
  committees : db'.committees = db.committees

theorem loadForClaim_spec {job : VerusJobRecord} (hkeys : UniqueJobs db)
    (h : Commits (loadForClaim eventId worker observedAt) db job db') :
    ∃ row, row.outboxEventId = eventId ∧
      JobCommitted worker.workerReference observedAt .loadForClaim db db' row row job := by
  rw [loadForClaim, commits_requireLease_bind, commits_load] at h
  obtain ⟨hleased, row, hfind, hrecord, rfl⟩ := h
  obtain ⟨hmem, rfl⟩ := mem_of_find_job hfind
  exact ⟨row, rfl, .refl hkeys hmem, .loaded hleased, ⟨job, hrecord⟩, hrecord, rfl, rfl⟩

/-- The tables that the worker's invariants read. -/
def Db.workView (db : Db) : List OutboxEvent × List VerusJobRow × List AnchorRecord ×
    List Committee :=
  (db.outbox, db.jobs, db.anchors, db.committees)

theorem transition_spec {operation : JobOperation} {x : JobTransition} {job : VerusJobRecord}
    (hx : operation.transition observedAt = some x) (hkeys : UniqueJobs db)
    (h : Commits (transition eventId worker observedAt x.expected x.next x.evidence x.syncAnchor)
      db job db') :
    ∃ row, row.outboxEventId = eventId ∧
      JobCommitted worker.workerReference observedAt operation db db' row
        (moved x.next x.evidence observedAt row) job := by
  rw [transition, commits_validateEvidence_bind, commits_requireLease_bind,
    commits_load_bind] at h
  obtain ⟨hvalid, hleased, row, before, hfind, hbefore, h⟩ := h
  obtain ⟨hmem, rfl⟩ := mem_of_find_job hfind
  have hfields := toRecord_eq hbefore
  rw [commits_require_bind, hfields.2.2.1, hfields.2.2.2.2.2] at h
  obtain ⟨hexpected, h⟩ := h
  obtain ⟨_, db₁, hupdate, h⟩ := commits_bind.1 h
  obtain ⟨hguard, hchanged, hdb₁⟩ := updateJob_spec hkeys hmem (fun _ => by rfl) hupdate
  rw [commits_require_bind] at h
  obtain ⟨-, h⟩ := h
  obtain ⟨_, db₂, hanchor, h⟩ := commits_bind.1 h
  obtain ⟨_, db₃, haudit, hload⟩ := commits_bind.1 h
  have hview₃ := keeps_auditTransition (f := Db.workView) (fun _ _ _ _ => rfl) _ _ _ _ _ _ _ haudit
  rw [synchronizeAnchor_spec hanchor] at hview₃
  obtain ⟨row', hfind', hrecord, rfl⟩ := commits_load.1 hload
  simp only [Db.workView, Prod.mk.injEq] at hview₃
  obtain ⟨houtbox, hjobs, hanchors, hcommittees⟩ := hview₃
  rw [hdb₁] at houtbox hanchors hcommittees
  have hchanged' : JobChanged db db' row (moved x.next x.evidence observedAt row) := by
    refine ⟨hmem, rfl, ?_, ?_⟩
    · rw [hjobs]
      exact hchanged.jobs
    · rw [UniqueJobs, hjobs]
      exact hchanged.unique
  rw [hchanged'.find] at hfind'
  refine ⟨row, rfl, hchanged', ?_, ⟨before, hbefore⟩, ?_, houtbox, hcommittees⟩
  · rw [hanchors]
    exact .moved operation x hx hleased hexpected hvalid hguard
  · rw [Option.some.inj hfind']
    exact hrecord

theorem markDeadLetter_spec {errorClass : String} {job : VerusJobRecord} (hkeys : UniqueJobs db)
    (h : Commits (markDeadLetter eventId worker observedAt errorClass) db job db') :
    ∃ row, row.outboxEventId = eventId ∧
      JobCommitted worker.workerReference observedAt (.markDeadLetter errorClass) db db' row
        (deadLettered observedAt errorClass row) job := by
  rw [markDeadLetter, commits_validateEvidence_bind, commits_get_bind, commits_require_bind,
    commits_load_bind] at h
  obtain ⟨-, hreleased, row, before, hfind, hbefore, h⟩ := h
  obtain ⟨hmem, rfl⟩ := mem_of_find_job hfind
  have hfields := toRecord_eq hbefore
  rw [commits_require_bind, hfields.2.2.1, hfields.2.2.2.2.2] at h
  obtain ⟨hexpected, h⟩ := h
  obtain ⟨_, db₁, hupdate, h⟩ := commits_bind.1 h
  obtain ⟨hguard, hchanged, hdb₁⟩ := updateJob_spec hkeys hmem (fun _ => by rfl) hupdate
  obtain ⟨_, db₂, hanchor, h⟩ := commits_bind.1 h
  obtain ⟨_, db₃, haudit, hload⟩ := commits_bind.1 h
  have hview₃ := keeps_auditTransition (f := Db.workView) (fun _ _ _ _ => rfl) _ _ _ _ _ _ _ haudit
  have hanchor' := synchronizeAnchor_spec (x := ⟨[], .terminalFailed, {}, true⟩) hanchor
  rw [hanchor'] at hview₃
  obtain ⟨row', hfind', hrecord, rfl⟩ := commits_load.1 hload
  simp only [Db.workView, Prod.mk.injEq] at hview₃
  obtain ⟨houtbox, hjobs, hanchors, hcommittees⟩ := hview₃
  rw [hdb₁] at houtbox hanchors hcommittees
  have hchanged' : JobChanged db db' row (deadLettered observedAt errorClass row) := by
    refine ⟨hmem, rfl, ?_, ?_⟩
    · rw [hjobs]
      exact hchanged.jobs
    · rw [UniqueJobs, hjobs]
      exact hchanged.unique
  rw [hchanged'.find] at hfind'
  refine ⟨row, rfl, hchanged', ?_, ⟨before, hbefore⟩, ?_, houtbox, hcommittees⟩
  · rw [hanchors]
    refine .deadLettered errorClass ?_ hexpected
    simp only [List.any_eq_true, Bool.and_eq_true, decide_eq_true_eq] at hreleased
    obtain ⟨o, ho, ⟨⟨hid, -⟩, hstate⟩, -⟩ := hreleased
    exact ⟨o, ho, hid, hstate⟩
  · rw [Option.some.inj hfind']
    exact hrecord

/-- A committed operation of the job store. -/
theorem JobOperation.exec_spec {operation : JobOperation} {job : VerusJobRecord}
    (hkeys : UniqueJobs db) (h : Commits (operation.exec eventId worker observedAt) db job db') :
    ∃ row new, row.outboxEventId = eventId ∧
      JobCommitted worker.workerReference observedAt operation db db' row new job := by
  cases hx : operation.transition observedAt with
  | some x =>
    rw [exec_of_transition hx] at h
    obtain ⟨row, hkey, hcommitted⟩ := transition_spec hx hkeys h
    exact ⟨row, _, hkey, hcommitted⟩
  | none =>
    cases operation with
    | loadForClaim =>
      obtain ⟨row, hkey, hcommitted⟩ := loadForClaim_spec hkeys h
      exact ⟨row, row, hkey, hcommitted⟩
    | markDeadLetter errorClass =>
      obtain ⟨row, hkey, hcommitted⟩ := markDeadLetter_spec hkeys h
      exact ⟨row, _, hkey, hcommitted⟩
    | _ => cases hx

/-! ## Enqueueing -/

/-- What `enqueueAnchor` adds: a pending event, its job and its anchor record. -/
structure Enqueued (input : EnqueueVerusAnchorInput) (db db' : Db) (eventId : Uuid) : Prop where
  event : ∃ new : OutboxEvent, new.id = eventId ∧ new.state = .pending ∧ new.attemptCount = 0 ∧
    new.eventType = verusAnchorEventType ∧ db'.outbox = db.outbox ++ [new]
  fresh : ∀ o ∈ db.outbox, o.id ≠ eventId
  job : ∃ committeeId jobId now,
    db'.jobs = db.jobs ++ [newJob input committeeId jobId eventId now]
  freshJob : ∀ row ∈ db.jobs, row.outboxEventId ≠ eventId
  anchor : ∃ committeeId anchorId now,
    db'.anchors = db.anchors ++ [newAnchor input committeeId anchorId eventId now]
  freshAnchor : ∀ a ∈ db.anchors, a.outboxEventId ≠ eventId
  committees : db'.committees = db.committees
  complete : ∃ row job, row ∈ db'.jobs ∧ row.outboxEventId = eventId ∧ toRecord db' row = .ok job

theorem insertJob_spec {new : VerusJobRow} {u : Unit} (h : Commits (insertJob new) db u db') :
    (∀ row ∈ db.jobs, row.outboxEventId ≠ new.outboxEventId) ∧
      db' = { db with jobs := db.jobs ++ [new] } := by
  simp only [insertJob, requireUnique, commits_get_bind, commits_require_bind, commits_modify] at h
  obtain ⟨-, hkey, -, -, -, -, rfl⟩ := h
  exact ⟨by simpa [List.all_eq_true] using hkey, rfl⟩

theorem insertAnchor_spec {new : AnchorRecord} {u : Unit}
    (h : Commits (insertAnchor new) db u db') :
    (∀ a ∈ db.anchors, a.outboxEventId ≠ new.outboxEventId) ∧
      db' = { db with anchors := db.anchors ++ [new] } := by
  simp only [insertAnchor, requireUnique, commits_get_bind, commits_require_bind,
    commits_modify] at h
  obtain ⟨-, -, hkey, -, rfl⟩ := h
  exact ⟨by simpa [List.all_eq_true] using hkey, rfl⟩

theorem insertWork_spec {input : EnqueueVerusAnchorInput} {context : CommandContext}
    {committeeId : Option Uuid} {job : VerusJobRecord}
    (h : Commits (insertWork input context committeeId) db job db') :
    Enqueued input db db' job.outboxEventId := by
  obtain ⟨eventId, db₁, hid₁, h⟩ := commits_bind.1 h
  obtain ⟨jobId, db₂, hid₂, h⟩ := commits_bind.1 h
  obtain ⟨_, db₃, hevent, h⟩ := commits_bind.1 h
  rw [commits_get_bind] at h
  obtain ⟨_, db₄, hjob, h⟩ := commits_bind.1 h
  obtain ⟨anchorId, db₅, hid₅, h⟩ := commits_bind.1 h
  obtain ⟨_, db₆, hanchor, h⟩ := commits_bind.1 h
  obtain ⟨_, db₇, haudit, hload⟩ := commits_bind.1 h
  have hview₁ := keeps_newId (f := Db.workView) (fun _ _ => rfl) _ _ _ hid₁
  have hview₂ := keeps_newId (f := Db.workView) (fun _ _ => rfl) _ _ _ hid₂
  have hview₅ := keeps_newId (f := Db.workView) (fun _ _ => rfl) _ _ _ hid₅
  have hview₇ := keeps_appendAudit (f := Db.workView) (fun _ _ _ _ => rfl) _ _ _ _ _ _ _ _ haudit
  obtain ⟨hfresh, new, hnewId, hpending, hcount, htype, hdb₃⟩ := insertOutboxEvent_spec hevent
  obtain ⟨hfreshJob, hdb₄⟩ := insertJob_spec hjob
  obtain ⟨hfreshAnchor, hdb₆⟩ := insertAnchor_spec hanchor
  obtain ⟨row, hfind, hrecord, rfl⟩ := commits_load.1 hload
  simp only [Db.workView, Prod.mk.injEq] at hview₁ hview₂ hview₅ hview₇
  obtain ⟨houtbox₁, hjobs₁, hanchors₁, hcommittees₁⟩ := hview₁
  obtain ⟨houtbox₂, hjobs₂, hanchors₂, hcommittees₂⟩ := hview₂
  obtain ⟨houtbox₅, hjobs₅, hanchors₅, hcommittees₅⟩ := hview₅
  obtain ⟨houtbox₇, hjobs₇, hanchors₇, hcommittees₇⟩ := hview₇
  rw [hdb₆] at houtbox₇ hjobs₇ hanchors₇ hcommittees₇
  rw [hdb₄] at houtbox₅ hjobs₅ hanchors₅ hcommittees₅
  have hjobs₃ : db₃.jobs = db.jobs := by
    rw [hdb₃]
    exact hjobs₂.trans hjobs₁
  have hanchors₃ : db₃.anchors = db.anchors := by
    rw [hdb₃]
    exact hanchors₂.trans hanchors₁
  have hcommittees₃ : db₃.committees = db.committees := by
    rw [hdb₃]
    exact hcommittees₂.trans hcommittees₁
  have houtbox₃ : db₃.outbox = db.outbox ++ [new] := by
    rw [hdb₃, ← houtbox₁, ← houtbox₂]
  obtain ⟨hrow, hkey⟩ := mem_of_find_job hfind
  have hevent : job.outboxEventId = eventId := (toRecord_eq hrecord).2.1.trans hkey
  rw [hevent]
  refine ⟨⟨new, hnewId, hpending, hcount, htype, ?_⟩, ?_, ⟨committeeId, jobId,
    db₃.currentTimestamp, ?_⟩, ?_, ⟨committeeId, anchorId, db₃.currentTimestamp, ?_⟩, ?_, ?_, row, job, hrow, hkey, hrecord⟩
  · exact houtbox₇.trans (houtbox₅.trans houtbox₃)
  · rw [← houtbox₁, ← houtbox₂]
    exact hfresh
  · rw [hjobs₇]
    show db₅.jobs = _
    rw [hjobs₅, hjobs₃]
  · rw [← hjobs₃]
    exact hfreshJob
  · rw [hanchors₇, hanchors₅]
    show db₃.anchors ++ [_] = _
    rw [hanchors₃]
  · intro a ha
    refine hfreshAnchor a ?_
    rw [hanchors₅]
    show a ∈ db₃.anchors
    rw [hanchors₃]
    exact ha
  · exact hcommittees₇.trans (hcommittees₅.trans hcommittees₃)

theorem keeps_resolveCommittee {τ : Type} (f : Db → τ) (reference : Option String) :
    Keeps f (resolveCommittee reference) := by
  unfold resolveCommittee
  split
  · exact keeps_pure
  · exact keeps_require.bind fun _ => keeps_get.bind fun _ => keeps_found.bind fun _ => keeps_pure

section Enqueue

variable [Host]

/-- The checks of `validateInput` change nothing. -/
theorem keeps_validateInput {τ : Type} (f : Db → τ) (input : EnqueueVerusAnchorInput)
    (context : CommandContext) : Keeps f (validateInput input context) := by
  have hmanifest : Keeps f (validateManifest input) := by
    refine keeps_require.bind fun _ => keeps_require.bind fun _ => keeps_found.bind fun _ => ?_
    refine keeps_require.bind fun _ => keeps_require.bind fun _ => keeps_require.bind fun _ => ?_
    exact keeps_require.bind fun _ => keeps_require.bind fun _ => keeps_lift
  refine keeps_require.bind fun _ => keeps_require.bind fun _ => keeps_require.bind fun _ => ?_
  refine keeps_require.bind fun _ => keeps_require.bind fun _ => keeps_require.bind fun _ => ?_
  exact hmanifest.bind fun _ => keeps_require.bind fun _ => keeps_require.bind fun _ => keeps_require

theorem enqueueAnchor_spec {input : EnqueueVerusAnchorInput} {context : CommandContext}
    {job : VerusJobRecord} (h : Commits (enqueueAnchor input context) db job db') :
    ((existingJob db context).isSome ∧ db' = db) ∨
      (existingJob db context = none ∧ Enqueued input db db' job.outboxEventId) := by
  obtain ⟨_, db₁, hvalid, h⟩ := commits_bind.1 h
  obtain ⟨committeeId, db₂, hresolve, h⟩ := commits_bind.1 h
  have hdb₁ : db₁ = db := keeps_validateInput (fun db => db) _ _ _ _ _ hvalid
  have hdb₂ : db₂ = db₁ := keeps_resolveCommittee (fun db => db) _ _ _ _ hresolve
  rw [commits_get_bind, hdb₂, hdb₁] at h
  split at h
  · next row hexisting =>
    left
    simp only [commits_lift_bind, commits_require_bind, commits_pure] at h
    obtain ⟨_, -, -, -, hdb'⟩ := h
    exact ⟨by rw [hexisting]; rfl, hdb'⟩
  · next hexisting =>
    right
    exact ⟨hexisting, insertWork_spec h⟩

end Enqueue

end ChecksAndBalances
