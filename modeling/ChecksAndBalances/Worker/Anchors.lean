import ChecksAndBalances.Worker.Agreement
import ChecksAndBalances.Worker.History

/-!
# Jobs and anchor records

An anchor record follows its job but for two states that it skips.  The record and the job stay in
step along every run, and from states in step no trigger and no constraint rejects a transition that
the checks of the repository let through.
-/

namespace ChecksAndBalances

open Lib Lib.Tx VerusJobRepository

/-! ## The states of a job -/

/-- The anchor record does not follow the job into this state. -/
def VerusJobState.isPassing : VerusJobState → Bool
  | claimed => true
  | preflight => true
  | _ => false

/-- The state that the job of the event was in after the entry. -/
def Entry.jobState (eventId : Uuid) : Entry → Option VerusJobState
  | .enqueued id _ => if id = eventId then some .pending else none
  | .stored id _ operation => if id = eventId then operation.next else none
  | _ => none

/-- The states of the job of an event so far, latest first. -/
def jobStates (eventId : Uuid) (log : List Entry) : List VerusJobState :=
  log.filterMap (Entry.jobState eventId)

/-- The most recent state that the anchor record follows, or `pending`. -/
def settledState (eventId : Uuid) (log : List Entry) : VerusJobState :=
  ((jobStates eventId log).find? fun state => !state.isPassing).getD .pending

/-- The anchor record is in step with the job. -/
structure InStep (log : List Entry) (row : VerusJobRow) (a : AnchorRecord) : Prop where
  key : a.outboxEventId = row.outboxEventId
  latest : (jobStates row.outboxEventId log).head? = some row.state
  settled : (settledState row.outboxEventId log).anchorState = some a.state
  transactionId : a.transactionId = row.transactionId
  blockHeight : a.blockHeight = row.blockHeight
  blockHash : a.blockHash = row.blockHash
  readbackDigest : a.readbackDigest = row.readbackDigest

/-- What the columns of a job and the state of its anchor record say about its state. -/
structure Fits (row : VerusJobRow) (a : AnchorRecord) : Prop where
  submitted : row.state ∈ [VerusJobState.submitted, .confirming, .readback, .verified] →
    row.transactionId.isSome = true
  confirmed : row.state ∈ [VerusJobState.readback, .verified] →
    row.blockHeight.isSome = true ∧ row.blockHash.isSome = true
  height : row.blockHeight.any (fun n => n < 0) = false
  flag : row.submissionAmbiguous = true →
    row.state ∈ [VerusJobState.retryableFailed, .claimed, .preflight]
  state : row.state.anchorState = some a.state ∨ (row.state.isPassing = true ∧
    a.state ∈ [AnchorState.pending, .retryableFailed, .reorgPending])

/-! ## One transition -/

/-- The anchor record after a transition. -/
def JobTransition.anchor (x : JobTransition) (observedAt : ℤ) (a : AnchorRecord) : AnchorRecord :=
  match x.syncAnchor, x.next.anchorState with
  | true, some state => movedAnchor state x.evidence observedAt a
  | _, _ => a

variable {db db' : Db} {eventId : Uuid} {observedAt : ℤ} {operation : JobOperation}
  {x : JobTransition} {row new : VerusJobRow} {a : AnchorRecord} {log : List Entry} {n : ℕ}

theorem next_of_transition (hx : operation.transition observedAt = some x) :
    operation.next = some x.next := by
  cases operation <;> cases hx <;> rfl

/-- A transition synchronizes the anchor record unless it moves the job into a passing state, and
then it writes nothing else. -/
theorem transition_sync (hx : operation.transition observedAt = some x) :
    (x.next.isPassing = true ∧ x.syncAnchor = false ∧ x.evidence = {}) ∨
      (x.next.isPassing = false ∧ x.syncAnchor = true ∧
        ∃ state, x.next.anchorState = some state) := by
  cases operation <;> cases hx <;> simp [VerusJobState.isPassing, VerusJobState.anchorState]

/-- The triggers allow the transitions of the repository. -/
theorem transition_allowed (hx : operation.transition observedAt = some x) :
    ∀ state ∈ x.expected, verusJobTransitionAllowed state x.next = true := by
  cases operation <;> cases hx <;> simp [verusJobTransitionAllowed]

/-- A transition out of the states of an ambiguous job clears the flag. -/
theorem transition_flag (hx : operation.transition observedAt = some x) :
    ∀ state ∈ x.expected, x.next ∈ [VerusJobState.retryableFailed, .claimed, .preflight] ∨
      x.evidence.submissionAmbiguous = some false ∨
      (x.evidence.submissionAmbiguous = none ∧
        state ∉ [VerusJobState.retryableFailed, .claimed, .preflight]) := by
  cases operation <;> cases hx <;> simp

theorem jobStates_cons (eventId : Uuid) (entry : Entry) (log : List Entry) :
    jobStates eventId (entry :: log) = (entry.jobState eventId).toList ++ jobStates eventId log := by
  unfold jobStates
  rw [List.filterMap_cons]
  cases entry.jobState eventId <;> rfl

/-- The settled state after the job moved. -/
theorem settledState_cons {entry : Entry} {state : VerusJobState} (log : List Entry)
    (h : entry.jobState eventId = some state) :
    settledState eventId (entry :: log) =
      if state.isPassing then settledState eventId log else state := by
  unfold settledState
  rw [jobStates_cons, h]
  cases hpassing : state.isPassing <;> simp [hpassing]

theorem InStep.of_jobState_none {entry : Entry} (h : InStep log row a)
    (hnone : entry.jobState row.outboxEventId = none) : InStep (entry :: log) row a := by
  have hstates : jobStates row.outboxEventId (entry :: log) = jobStates row.outboxEventId log := by
    rw [jobStates_cons, hnone]
    rfl
  refine ⟨h.key, ?_, ?_, h.transactionId, h.blockHeight, h.blockHash, h.readbackDigest⟩
  · rw [hstates]
    exact h.latest
  · unfold settledState
    rw [hstates]
    exact h.settled

/-- An entry of another event leaves a job and its anchor record in step. -/
theorem InStep.of_other {entry : Entry} (h : InStep log row a)
    (hother : ∀ id n operation, entry = .stored id n operation → id ≠ row.outboxEventId)
    (hnew : ∀ id input, entry = .enqueued id input → id ≠ row.outboxEventId) :
    InStep (entry :: log) row a := by
  apply h.of_jobState_none
  cases entry with
  | stored id n operation => exact if_neg (hother id n operation rfl)
  | enqueued id input => exact if_neg (hnew id input rfl)
  | _ => rfl

/-- A transition keeps the job and its anchor record in step. -/
theorem InStep.moved (h : InStep log row a) (hx : operation.transition observedAt = some x) :
    InStep (.stored row.outboxEventId n operation :: log) (moved x.next x.evidence observedAt row)
      (x.anchor observedAt a) := by
  have hentry : (Entry.stored row.outboxEventId n operation).jobState row.outboxEventId =
      some x.next := (if_pos rfl).trans (next_of_transition hx)
  have hlatest : (jobStates row.outboxEventId
      (.stored row.outboxEventId n operation :: log)).head? = some x.next := by
    rw [jobStates_cons, hentry]
    rfl
  have hsettled := settledState_cons log hentry
  unfold JobTransition.anchor
  rcases transition_sync hx with ⟨hpassing, hsync, hevidence⟩ | ⟨hpassing, hsync, state, hstate⟩
  · rw [hsync, hevidence]
    refine ⟨h.key, hlatest, ?_, h.transactionId, h.blockHeight, h.blockHash, h.readbackDigest⟩
    show (settledState row.outboxEventId _).anchorState = _
    rw [hsettled, hpassing]
    exact h.settled
  · rw [hsync, hstate]
    refine ⟨h.key, hlatest, ?_, ?_, ?_, ?_, ?_⟩
    · show (settledState row.outboxEventId _).anchorState = _
      rw [hsettled, hpassing]
      exact hstate
    · show (x.evidence.transactionId <|> a.transactionId) = _
      rw [h.transactionId]
      rfl
    · show (x.evidence.blockHeight <|> a.blockHeight) = _
      rw [h.blockHeight]
      rfl
    · show (x.evidence.blockHash <|> a.blockHash) = _
      rw [h.blockHash]
      rfl
    · show (x.evidence.readbackDigest <|> a.readbackDigest) = _
      rw [h.readbackDigest]
      rfl

/-- So does a dead letter. -/
theorem InStep.deadLettered (h : InStep log row a) (errorClass : String) :
    InStep (.stored row.outboxEventId n (.markDeadLetter errorClass) :: log)
      (deadLettered observedAt errorClass row) (movedAnchor .terminalFailed {} observedAt a) := by
  have hentry : (Entry.stored row.outboxEventId n (.markDeadLetter errorClass)).jobState
      row.outboxEventId = some .terminalFailed := if_pos rfl
  refine ⟨h.key, ?_, ?_, h.transactionId, h.blockHeight, h.blockHash, h.readbackDigest⟩
  · show (jobStates row.outboxEventId _).head? = _
    rw [jobStates_cons, hentry]
    rfl
  · show (settledState row.outboxEventId _).anchorState = _
    rw [settledState_cons _ hentry]
    rfl

theorem height_moved (observedAt : ℤ) (hheight : row.blockHeight.any (fun n => n < 0) = false)
    (hvalid : ValidEvidence x.evidence) :
    (moved x.next x.evidence observedAt row).blockHeight.any (fun n => n < 0) = false := by
  show (x.evidence.blockHeight <|> row.blockHeight).any _ = false
  cases hb : x.evidence.blockHeight with
  | none => exact hheight
  | some m =>
    have hm := hvalid.blockHeight
    rw [hb] at hm
    simp only [Option.all_some, Bool.and_eq_true, decide_eq_true_eq] at hm
    simpa using hm.2

theorem submitted_moved (h : Fits row a) (hx : operation.transition observedAt = some x)
    (hexpected : row.state ∈ x.expected) :
    x.next ∈ [VerusJobState.submitted, .confirming, .readback, .verified] →
      (moved x.next x.evidence observedAt row).transactionId.isSome = true := by
  have hsubmitted := h.submitted
  cases operation <;> cases hx <;>
    simp only [List.mem_cons, List.not_mem_nil, or_false] at hexpected <;>
    simp only [VerusJobRepository.moved] <;>
    grind

theorem confirmed_moved (h : Fits row a) (hx : operation.transition observedAt = some x)
    (hexpected : row.state ∈ x.expected) :
    x.next ∈ [VerusJobState.readback, .verified] →
      (moved x.next x.evidence observedAt row).blockHeight.isSome = true ∧
        (moved x.next x.evidence observedAt row).blockHash.isSome = true := by
  have hconfirmed := h.confirmed
  cases operation <;> cases hx <;>
    simp only [List.mem_cons, List.not_mem_nil, or_false] at hexpected <;>
    simp only [VerusJobRepository.moved] <;>
    grind

theorem flag_moved (h : Fits row a) (hx : operation.transition observedAt = some x)
    (hexpected : row.state ∈ x.expected) :
    (moved x.next x.evidence observedAt row).submissionAmbiguous = true →
      x.next ∈ [VerusJobState.retryableFailed, .claimed, .preflight] := by
  intro hflagged
  rcases transition_flag hx _ hexpected with hnext | hcleared | ⟨hkept, hstate⟩
  · exact hnext
  · simp [VerusJobRepository.moved, hcleared] at hflagged
  · have hflag : row.submissionAmbiguous = true := by
      simpa [VerusJobRepository.moved, hkept] using hflagged
    exact absurd (h.flag hflag) hstate

theorem anchorState_moved (h : Fits row a) (hx : operation.transition observedAt = some x)
    (hexpected : row.state ∈ x.expected) :
    x.next.anchorState = some (x.anchor observedAt a).state ∨ (x.next.isPassing = true ∧
      (x.anchor observedAt a).state ∈
        [AnchorState.pending, .retryableFailed, .reorgPending]) := by
  have hstate := h.state
  cases operation <;> cases hx <;>
    simp only [List.mem_cons, List.not_mem_nil, or_false] at hexpected <;>
    simp only [JobTransition.anchor, movedAnchor] <;>
    grind [VerusJobState.anchorState, VerusJobState.isPassing]

/-- A transition keeps what the columns say. -/
theorem Fits.moved (h : Fits row a) (hx : operation.transition observedAt = some x)
    (hexpected : row.state ∈ x.expected) (hvalid : ValidEvidence x.evidence) :
    Fits (moved x.next x.evidence observedAt row) (x.anchor observedAt a) where
  submitted := submitted_moved h hx hexpected
  confirmed := confirmed_moved h hx hexpected
  height := height_moved observedAt h.height hvalid
  flag := flag_moved h hx hexpected
  state := anchorState_moved h hx hexpected

theorem Fits.deadLettered (h : Fits row a) (errorClass : String) :
    Fits (deadLettered observedAt errorClass row) (movedAnchor .terminalFailed {} observedAt a) := by
  refine ⟨fun hmem => ?_, fun hmem => ?_, h.height, fun hflag => ?_, Or.inl rfl⟩
  · revert hmem
    simp [VerusJobRepository.deadLettered]
  · revert hmem
    simp [VerusJobRepository.deadLettered]
  · cases hflag

/-! ## The guards -/

/-- The triggers and constraints of `verus_job` let the transition through. -/
theorem guard_moved (h : Fits row a) (hx : operation.transition observedAt = some x)
    (hexpected : row.state ∈ x.expected) (hvalid : ValidEvidence x.evidence)
    (hdigest : ∀ digest, operation = .verifyReadback digest → digest = row.manifestDigest) :
    guardVerusJobUpdate row (moved x.next x.evidence observedAt row) = .ok () := by
  have hheight := height_moved observedAt h.height hvalid
  have hallowed := transition_allowed hx _ hexpected
  have hevidence : (moved x.next x.evidence observedAt row).evidenceComplete = true := by
    by_cases hverified : x.next = .verified
    · have hsubmitted := submitted_moved h hx hexpected (by simp [hverified])
      obtain ⟨hblockHeight, hblockHash⟩ := confirmed_moved h hx hexpected (by simp [hverified])
      have hread : (moved x.next x.evidence observedAt row).readbackDigest =
          some row.manifestDigest ∧
          (moved x.next x.evidence observedAt row).readbackAt.isSome = true := by
        cases operation <;> cases hx <;> cases hverified
        exact ⟨congrArg some (hdigest _ rfl), rfl⟩
      rw [VerusJobRow.evidenceComplete, hsubmitted, hblockHeight, hblockHash, hread.1, hread.2]
      simp [VerusJobRepository.moved]
    · simp [VerusJobRow.evidenceComplete, VerusJobRepository.moved, hverified]
  have hflag : (moved x.next x.evidence observedAt row).ambiguousStateValid = true := by
    have hstates := flag_moved h hx hexpected
    rw [VerusJobRow.ambiguousStateValid, Bool.or_eq_true, decide_eq_true_iff]
    cases hflagged : (moved x.next x.evidence observedAt row).submissionAmbiguous with
    | false => exact Or.inl rfl
    | true => exact Or.inr (hstates hflagged)
  unfold guardVerusJobUpdate
  rw [if_neg (by simp [VerusJobRepository.moved]), if_neg, if_neg, if_neg, if_neg]
  · simp [hflag]
  · simp [hevidence]
  · simp [hheight]
  · show ¬ (!verusJobTransitionAllowed row.state x.next) = true
    simp [hallowed]
/-- So do those of `anchor_record`. -/
theorem guard_movedAnchor (h : Fits row a) (hheights : a.blockHeight = row.blockHeight)
    (hx : operation.transition observedAt = some x) (hexpected : row.state ∈ x.expected)
    (hvalid : ValidEvidence x.evidence) {state : AnchorState} (hsync : x.syncAnchor = true)
    (hnext : x.next.anchorState = some state) :
    guardAnchorUpdate a (movedAnchor state x.evidence observedAt a) = .ok () := by
  have hheight : (movedAnchor state x.evidence observedAt a).blockHeight.any (fun n => n < 0) =
      false := by
    show (x.evidence.blockHeight <|> a.blockHeight).any _ = false
    rw [hheights]
    exact height_moved observedAt h.height hvalid
  have hallowed : anchorTransitionAllowed a.state state = true := by
    have hstate := h.state
    cases operation <;> cases hx <;> cases hnext <;>
      simp only [List.mem_cons, List.not_mem_nil, or_false] at hexpected <;>
      grind [anchorTransitionAllowed, VerusJobState.anchorState, VerusJobState.isPassing]
  unfold guardAnchorUpdate
  rw [if_neg (by simp [movedAnchor]), if_neg, if_neg]
  · simp [hheight]
  · show ¬ (!anchorTransitionAllowed a.state state) = true
    simp [hallowed]

/-- A dead letter passes both. -/
theorem guard_deadLettered (observedAt : ℤ) (h : Fits row a)
    (hheights : a.blockHeight = row.blockHeight)
    (hexpected : row.state = .retryableFailed ∨ row.state = .reorgPending) (errorClass : String) :
    guardVerusJobUpdate row (deadLettered observedAt errorClass row) = .ok () ∧
      guardAnchorUpdate a (movedAnchor .terminalFailed {} observedAt a) = .ok () := by
  have hjob : verusJobTransitionAllowed row.state .terminalFailed = true := by
    rcases hexpected with hstate | hstate <;> rw [hstate] <;> decide
  have hanchor : anchorTransitionAllowed a.state .terminalFailed = true := by
    have hfits := h.state
    grind [anchorTransitionAllowed, VerusJobState.anchorState, VerusJobState.isPassing]
  constructor
  · unfold guardVerusJobUpdate
    rw [if_neg (by simp [VerusJobRepository.deadLettered]), if_neg, if_neg, if_neg, if_neg]
    · simp [VerusJobRow.ambiguousStateValid, VerusJobRepository.deadLettered]
    · simp [VerusJobRow.evidenceComplete, VerusJobRepository.deadLettered]
    · show ¬ row.blockHeight.any _ = true
      simp [h.height]
    · show ¬ (!verusJobTransitionAllowed row.state .terminalFailed) = true
      simp [hjob]
  · unfold guardAnchorUpdate
    rw [if_neg (by simp [movedAnchor]), if_neg, if_neg]
    · show ¬ a.blockHeight.any _ = true
      rw [hheights]
      simp [h.height]
    · show ¬ (!anchorTransitionAllowed a.state .terminalFailed) = true
      simp [hanchor]

/-! ## Acceptance -/

section Accepted

variable {worker : OutboxWorkerContext} {before : VerusJobRecord}

/-- The keys of the jobs and of the anchor records. -/
def Db.workKeys (db : Db) : List Uuid × List Uuid :=
  (db.jobs.map fun j => j.outboxEventId, db.anchors.map fun a => a.outboxEventId)

/-- The row that the version names is the one that was read, and no other. -/
theorem updateJob_commits {f : VerusJobRow → VerusJobRow}
    (hkeys : (db.jobs.map fun j => j.outboxEventId).Nodup) (hrow : row ∈ db.jobs)
    (hguard : guardVerusJobUpdate row (f row) = .ok ()) :
    Commits (updateJob row.outboxEventId row.version f) db 1
      { db with jobs := Table.set (fun j => j.outboxEventId = row.outboxEventId) f db.jobs } := by
  have hunique := Table.unique_of_nodup hkeys
  have hselect : ∀ j ∈ db.jobs, (decide (j.outboxEventId = row.outboxEventId) &&
      decide (j.version = row.version)) = decide (j.outboxEventId = row.outboxEventId) := by
    intro j hj
    by_cases hkey : j.outboxEventId = row.outboxEventId
    · rw [hunique j hj row hrow hkey]
      simp
    · simp [hkey]
  simp only [updateJob, commits_get_bind, commits_lift_bind, commits_modify_bind, commits_pure,
    Table.update_eq_ok_iff]
  refine ⟨_, ⟨fun j hj hselected => ?_, rfl⟩, ?_, ?_⟩
  · rw [hselect j hj, decide_eq_true_eq] at hselected
    rw [hunique j hj row hrow hselected]
    exact hguard
  · rw [List.countP_congr fun j hj => by rw [hselect j hj]]
    exact (Table.countP_key hkeys hrow).symm
  · rw [Table.set_congr hselect]

theorem transitionAnchor_commits {state : VerusJobState} {evidence : TransitionEvidence}
    (hkeys : (db.anchors.map fun a => a.outboxEventId).Nodup) (ha : a ∈ db.anchors)
    (hguard : ∀ anchorState, state.anchorState = some anchorState →
      guardAnchorUpdate a (movedAnchor anchorState evidence observedAt a) = .ok ()) :
    ∃ anchors, Commits (transitionAnchor a.outboxEventId state evidence observedAt) db ()
      { db with anchors } := by
  unfold transitionAnchor
  split
  · exact ⟨db.anchors, commits_pure.2 ⟨rfl, rfl⟩⟩
  · next anchorState hstate =>
    simp only [commits_get_bind, commits_lift_bind, commits_modify_bind, commits_require,
      Table.update_eq_ok_iff]
    refine ⟨_, _, ⟨fun b hb hselected => ?_, rfl⟩, Table.countP_key hkeys ha, rfl⟩
    rw [Table.unique_of_nodup hkeys b hb a ha (of_decide_eq_true hselected)]
    exact hguard anchorState hstate

/-- The record after a transition can be read. -/
theorem toRecord_moved (hbefore : toRecord db row = .ok before)
    (hmanifest : new.toVerusManifest = row.toVerusManifest)
    (hheight : new.blockHeight = row.blockHeight ∨
      new.blockHeight.all (fun n => isSafeInteger n) = true) :
    ∃ job, toRecord db' new = .ok job := by
  unfold toRecord at hbefore ⊢
  split_ifs at hbefore with hempty hunsafe
  rw [← hmanifest] at hempty
  rw [if_neg hempty, if_neg]
  · exact ⟨_, rfl⟩
  · rcases hheight with hsame | hsafe
    · rw [hsame]
      exact hunsafe
    · cases hb : new.blockHeight with
      | none => simp
      | some m =>
        rw [hb] at hsafe
        simpa using hsafe

theorem auditTransition_commits (worker : OutboxWorkerContext) (eventId : Uuid) (db : Db)
    (before : VerusJobRecord) (command : String)
    (next : VerusJobState) (result : AuditResult) : ∃ db',
    Commits (auditTransition worker eventId before command next result) db () db' ∧
      db'.jobs = db.jobs ∧ db'.committees = db.committees := by
  have haccepted : Accepted (auditTransition worker eventId before command next result) db := by
    obtain ⟨hash, db₁, haudit⟩ := appendAudit_accepted (workerContext worker before next)
      (jobCommitteeId db eventId) command
      { type := "verus_job", reference := toString before.id
        priorState := some before.state.name, newState := some next.name } result db
    exact (get_commits db).bind_accepted (haudit.bind_accepted accepted_pure)
  obtain ⟨_, db', h⟩ := haccepted
  have hview := keeps_auditTransition (f := Db.workView) (fun _ _ _ _ => rfl) _ _ _ _ _ _ _ h
  simp only [Db.workView, Prod.mk.injEq] at hview
  exact ⟨db', h, hview.2.1, hview.2.2.2⟩

/-- The load at the end of a transition. -/
theorem load_accepted_of_mem (hkeys : UniqueJobs db) (hnew : new ∈ db.jobs)
    (hrecord : ∃ job, toRecord db new = .ok job) : Accepted (load new.outboxEventId) db := by
  obtain ⟨job, hjob⟩ := hrecord
  exact ⟨job, db, commits_load.2 ⟨new, hkeys.find?_eq hnew, hjob, rfl⟩⟩

/-- The parts of a transition after its checks. -/
theorem work_commits (worker : OutboxWorkerContext) (before : VerusJobRecord)
    {f : VerusJobRow → VerusJobRow} {sync : DbTx Unit}
    (hjobs : (db.jobs.map fun j => j.outboxEventId).Nodup) (hrow : row ∈ db.jobs)
    (hf : ∀ r, (f r).outboxEventId = r.outboxEventId)
    (hguard : guardVerusJobUpdate row (f row) = .ok ())
    (hsync : ∀ jobs, ∃ anchors, Commits sync { db with jobs } () { db with jobs, anchors })
    (hrecord : ∀ db', ∃ job, toRecord db' (f row) = .ok job) (command : String)
    (next : VerusJobState) (result : AuditResult) : ∃ db₁ db₂ db₃,
    Commits (updateJob row.outboxEventId row.version f) db 1 db₁ ∧ Commits sync db₁ () db₂ ∧
    Commits (auditTransition worker row.outboxEventId before command next result) db₂ () db₃ ∧
    Accepted (load row.outboxEventId) db₃ := by
  have hunique := Table.unique_of_nodup hjobs
  obtain ⟨jobs, hset, hupdate⟩ : ∃ jobs,
      jobs = Table.set (fun j => j.outboxEventId = row.outboxEventId) f db.jobs ∧
      Commits (updateJob row.outboxEventId row.version f) db 1 { db with jobs } :=
    ⟨_, rfl, updateJob_commits hjobs hrow hguard⟩
  obtain ⟨anchors, hsync⟩ := hsync jobs
  obtain ⟨db₃, haudit, hjobs₃, -⟩ := auditTransition_commits worker row.outboxEventId
    { db with jobs, anchors } before command next result
  have hjobs₃ : db₃.jobs = jobs := hjobs₃
  refine ⟨_, _, db₃, hupdate, hsync, haudit, ?_⟩
  rw [← hf row]
  refine load_accepted_of_mem ?_ ?_ (hrecord db₃)
  · rw [UniqueJobs, hjobs₃, hset]
    exact hunique.set hf
  · rw [hjobs₃, hset]
    exact (hunique.mem_set_iff hrow).2 (Or.inl rfl)

/-- A transition whose checks pass is committed. -/
theorem transition_accepted (hjobs : (db.jobs.map fun j => j.outboxEventId).Nodup)
    (hanchors : (db.anchors.map fun a => a.outboxEventId).Nodup) (hrow : row ∈ db.jobs)
    (ha : a ∈ db.anchors) (hkey : a.outboxEventId = row.outboxEventId)
    (hheights : a.blockHeight = row.blockHeight) (hfits : Fits row a)
    (hx : operation.transition observedAt = some x) (hvalid : ValidEvidence x.evidence)
    (hleased : Leased db row.outboxEventId worker.workerReference observedAt)
    (hbefore : toRecord db row = .ok before) (hexpected : row.state ∈ x.expected)
    (hdigest : ∀ digest, operation = .verifyReadback digest → digest = row.manifestDigest) :
    Accepted (operation.exec row.outboxEventId worker observedAt) db := by
  have hfields := toRecord_eq hbefore
  have hguard := guard_moved hfits hx hexpected hvalid hdigest
  have hsync : ∀ jobs, ∃ anchors, Commits (synchronizeAnchor x.syncAnchor row.outboxEventId x.next
      x.evidence observedAt) { db with jobs } () { db with jobs, anchors } := by
    intro jobs
    unfold synchronizeAnchor
    split_ifs with hs
    · rw [← hkey]
      exact transitionAnchor_commits hanchors ha fun state hstate =>
        guard_movedAnchor hfits hheights hx hexpected hvalid hs hstate
    · exact ⟨db.anchors, commits_pure.2 ⟨rfl, rfl⟩⟩
  have hrecord : ∀ db', ∃ job, toRecord db' (moved x.next x.evidence observedAt row) = .ok job := by
    intro db'
    refine toRecord_moved hbefore rfl ?_
    show (x.evidence.blockHeight <|> row.blockHeight) = _ ∨
      (x.evidence.blockHeight <|> row.blockHeight).all _ = true
    cases hb : x.evidence.blockHeight with
    | none => exact Or.inl rfl
    | some m =>
      have hm := hvalid.blockHeight
      rw [hb] at hm
      simp only [Option.all_some, Bool.and_eq_true] at hm
      exact Or.inr (by simpa using hm.1)
  obtain ⟨db₁, db₂, db₃, hupdate, hsync, haudit, job, db', hload⟩ := work_commits
    worker before hjobs hrow (fun _ => by rfl) hguard hsync hrecord
    ("transitionVerusJob:" ++ x.next.name) x.next (transitionResult x.next)
  rw [JobOperation.exec_of_transition hx]
  refine ⟨job, db', ?_⟩
  rw [transition, commits_validateEvidence_bind, commits_requireLease_bind, commits_load_bind]
  refine ⟨hvalid, hleased, row, before, (Table.unique_of_nodup hjobs).find?_eq hrow, hbefore, ?_⟩
  rw [commits_require_bind, hfields.2.2.1, hfields.2.2.2.2.2]
  refine ⟨hexpected, commits_bind.2 ⟨1, db₁, hupdate, ?_⟩⟩
  rw [commits_require_bind]
  exact ⟨rfl, commits_bind.2 ⟨(), db₂, hsync, commits_bind.2 ⟨(), db₃, haudit, hload⟩⟩⟩

/-- The event of a dead letter that the worker released. -/
def DeadLetterOwned (db : Db) (eventId : Uuid) (worker : String) : Prop :=
  db.outbox.any (fun o => o.id = eventId && o.eventType = verusAnchorEventType &&
    o.state = .deadLetter && db.attempts.any fun at_ => at_.outboxEventId = o.id &&
      at_.attempt = o.attemptCount && at_.worker = worker) = true

/-- A dead letter whose checks pass is committed. -/
theorem deadLetter_accepted {errorClass : String}
    (hjobs : (db.jobs.map fun j => j.outboxEventId).Nodup)
    (hanchors : (db.anchors.map fun a => a.outboxEventId).Nodup) (hrow : row ∈ db.jobs)
    (ha : a ∈ db.anchors) (hkey : a.outboxEventId = row.outboxEventId)
    (hheights : a.blockHeight = row.blockHeight) (hfits : Fits row a)
    (hvalid : ValidEvidence { errorClass := some errorClass })
    (howned : DeadLetterOwned db row.outboxEventId worker.workerReference)
    (hbefore : toRecord db row = .ok before)
    (hexpected : row.state = .retryableFailed ∨ row.state = .reorgPending) :
    Accepted (markDeadLetter row.outboxEventId worker observedAt errorClass) db := by
  have hfields := toRecord_eq hbefore
  obtain ⟨hguard, hguardAnchor⟩ := guard_deadLettered observedAt hfits hheights
    hexpected errorClass
  have hsync : ∀ jobs, ∃ anchors, Commits (transitionAnchor row.outboxEventId .terminalFailed {}
      observedAt) { db with jobs } () { db with jobs, anchors } := by
    intro jobs
    rw [← hkey]
    refine transitionAnchor_commits hanchors ha fun state hstate => ?_
    rw [← Option.some.inj hstate]
    exact hguardAnchor
  obtain ⟨db₁, db₂, db₃, hupdate, hsync, haudit, job, db', hload⟩ := work_commits
    worker before hjobs hrow (fun _ => by rfl) hguard hsync
    (fun db' => toRecord_moved hbefore rfl (Or.inl rfl)) "deadLetterVerusJob" .terminalFailed .failed
  refine ⟨job, db', ?_⟩
  rw [markDeadLetter, commits_validateEvidence_bind, commits_get_bind, commits_require_bind,
    commits_load_bind]
  refine ⟨hvalid, howned, row, before, (Table.unique_of_nodup hjobs).find?_eq hrow, hbefore, ?_⟩
  rw [commits_require_bind, hfields.2.2.1, hfields.2.2.2.2.2]
  exact ⟨hexpected, commits_bind.2 ⟨1, db₁, hupdate, commits_bind.2 ⟨(), db₂, hsync,
    commits_bind.2 ⟨(), db₃, haudit, hload⟩⟩⟩⟩

/-! ## Rejection -/

/-- The error comes from a trigger or a constraint of the database. -/
def RepositoryError.ofDatabase : RepositoryError → Bool
  | .checkViolation _ => true
  | .raised _ => true
  | _ => false

theorem toRecord_error {error : RepositoryError} (h : toRecord db row = .error error) :
    error.ofDatabase = false := by
  unfold toRecord at h
  split_ifs at h
  · rw [← Except.error.inj h]
    rfl
  · rw [← Except.error.inj h]
    rfl

theorem rejects_load {error : RepositoryError} (h : Rejects (load eventId) db error) :
    error.ofDatabase = false := by
  rw [load, rejects_get_bind, rejects_found_bind] at h
  rcases h with ⟨-, rfl⟩ | ⟨row, -, h⟩
  · rfl
  · obtain ⟨error', herror, rfl⟩ := rejects_lift.1 h
    exact toRecord_error herror

theorem rejects_validateEvidence_bind {β : Type} {evidence : TransitionEvidence}
    {k : Unit → DbTx β} {error : RepositoryError}
    (h : Rejects (validateEvidence evidence >>= k) db error) :
    error.ofDatabase = false ∨ (ValidEvidence evidence ∧ Rejects (k ()) db error) := by
  simp only [validateEvidence, bind_assoc, rejects_require_bind] at h
  rcases h with ⟨-, rfl⟩ | ⟨hhex, ⟨-, rfl⟩ | ⟨hheight, ⟨-, rfl⟩ | ⟨hclass, h⟩⟩⟩
  · exact Or.inl rfl
  · exact Or.inl rfl
  · exact Or.inl rfl
  · exact Or.inr ⟨⟨hhex, hheight, hclass⟩, h⟩

theorem rejects_requireLease_bind {β : Type} {k : Unit → DbTx β} {error : RepositoryError}
    (h : Rejects (requireLease eventId worker observedAt >>= k) db error) :
    error.ofDatabase = false ∨
      (Leased db eventId worker.workerReference observedAt ∧ Rejects (k ()) db error) := by
  rcases rejects_bind.1 h with h | ⟨_, db₁, hcommits, h⟩
  · rw [requireLease, rejects_get_bind, rejects_require] at h
    rw [h.2]
    exact Or.inl rfl
  · rw [← bind_pure (requireLease eventId worker observedAt), commits_requireLease_bind,
      commits_pure] at hcommits
    rw [hcommits.2.2] at h
    exact Or.inr ⟨hcommits.1, h⟩

theorem rejects_load_bind {β : Type} {k : VerusJobRecord → DbTx β} {error : RepositoryError}
    (h : Rejects (load eventId >>= k) db error) :
    error.ofDatabase = false ∨ ∃ row job, row ∈ db.jobs ∧ row.outboxEventId = eventId ∧
      toRecord db row = .ok job ∧ Rejects (k job) db error := by
  rcases rejects_bind.1 h with hload | ⟨job, db₁, hcommits, hk⟩
  · exact Or.inl (rejects_load hload)
  · obtain ⟨row, hfind, hrecord, rfl⟩ := commits_load.1 hcommits
    obtain ⟨hmem, hkey⟩ := mem_of_find_job hfind
    exact Or.inr ⟨row, job, hmem, hkey, hrecord, hk⟩

/-- An operation that the database rejects passed every check of the repository. -/
theorem JobOperation.rejects_cases {error : RepositoryError}
    (h : Rejects (operation.exec eventId worker observedAt) db error) :
    error.ofDatabase = false ∨ ∃ row before, row ∈ db.jobs ∧ row.outboxEventId = eventId ∧
      toRecord db row = .ok before ∧
      ((∃ x, operation.transition observedAt = some x ∧ ValidEvidence x.evidence ∧
          Leased db row.outboxEventId worker.workerReference observedAt ∧ row.state ∈ x.expected) ∨
        ∃ errorClass, operation = .markDeadLetter errorClass ∧
          ValidEvidence { errorClass := some errorClass } ∧
          DeadLetterOwned db row.outboxEventId worker.workerReference ∧
          (row.state = .retryableFailed ∨ row.state = .reorgPending)) := by
  cases hx : operation.transition observedAt with
  | some x =>
    rw [exec_of_transition hx, VerusJobRepository.transition] at h
    rcases rejects_validateEvidence_bind h with h | ⟨hvalid, h⟩
    · exact Or.inl h
    rcases rejects_requireLease_bind h with h | ⟨hleased, h⟩
    · exact Or.inl h
    rcases rejects_load_bind h with h | ⟨row, before, hrow, rfl, hbefore, h⟩
    · exact Or.inl h
    rw [rejects_require_bind, (toRecord_eq hbefore).2.2.1] at h
    rcases h with ⟨-, rfl⟩ | ⟨hexpected, -⟩
    · exact Or.inl rfl
    · exact Or.inr ⟨row, before, hrow, rfl, hbefore,
        Or.inl ⟨x, rfl, hvalid, hleased, hexpected⟩⟩
  | none =>
    cases operation with
    | loadForClaim =>
      rcases rejects_requireLease_bind h with h | ⟨-, h⟩
      · exact Or.inl h
      · exact Or.inl (rejects_load h)
    | markDeadLetter errorClass =>
      have h : Rejects (VerusJobRepository.markDeadLetter eventId worker observedAt errorClass) db
        error := h
      rw [VerusJobRepository.markDeadLetter] at h
      rcases rejects_validateEvidence_bind h with h | ⟨hvalid, h⟩
      · exact Or.inl h
      rw [rejects_get_bind, rejects_require_bind] at h
      rcases h with ⟨-, rfl⟩ | ⟨howned, h⟩
      · exact Or.inl rfl
      rcases rejects_load_bind h with h | ⟨row, before, hrow, rfl, hbefore, h⟩
      · exact Or.inl h
      rw [rejects_require_bind, (toRecord_eq hbefore).2.2.1] at h
      rcases h with ⟨-, rfl⟩ | ⟨hexpected, -⟩
      · exact Or.inl rfl
      · exact Or.inr ⟨row, before, hrow, rfl, hbefore,
          Or.inr ⟨errorClass, rfl, hvalid, howned, hexpected⟩⟩
    | _ => cases hx

end Accepted

/-! ## Committed operations -/

theorem JobTransition.anchors_eq_set (x : JobTransition) (eventId : Uuid) (observedAt : ℤ)
    (anchors : List AnchorRecord) :
    x.anchors eventId observedAt anchors =
      Table.set (fun a => a.outboxEventId = eventId) (x.anchor observedAt) anchors := by
  cases hsync : x.syncAnchor <;> cases hstate : x.next.anchorState <;>
    simp [JobTransition.anchors, JobTransition.anchor, hsync, hstate, Table.set]

/-- A committed operation keeps the job and its anchor record in step, and leaves the other
records. -/
theorem JobMove.paired {worker : String} {anchors : List AnchorRecord}
    (h : JobMove worker observedAt db row operation new anchors)
    (hunique : Table.Unique (fun a : AnchorRecord => a.outboxEventId) db.anchors)
    (ha : a ∈ db.anchors) (hstep : InStep log row a) (hfits : Fits row a) (n : ℕ) :
    (∃ a' ∈ anchors, InStep (.stored row.outboxEventId n operation :: log) new a' ∧ Fits new a') ∧
      ∀ b ∈ db.anchors, b.outboxEventId ≠ row.outboxEventId → b ∈ anchors := by
  cases h with
  | loaded =>
    have hnone : (Entry.stored row.outboxEventId n .loadForClaim).jobState row.outboxEventId = none :=
      if_pos rfl
    exact ⟨⟨a, ha, hstep.of_jobState_none hnone, hfits⟩, fun b hb _ => hb⟩
  | moved operation x hx leased expected valid allowed =>
    rw [JobTransition.anchors_eq_set, ← hstep.key]
    refine ⟨⟨x.anchor observedAt a, (hunique.mem_set_iff ha).2 (Or.inl rfl), ?_,
      hfits.moved hx expected valid⟩, fun b hb hne => (hunique.mem_set_iff ha).2 (Or.inr ⟨hb, hne⟩)⟩
    rw [hstep.key]
    exact hstep.moved hx
  | deadLettered errorClass released expected =>
    rw [← hstep.key]
    refine ⟨⟨_, (hunique.mem_set_iff ha).2 (Or.inl rfl), ?_, hfits.deadLettered errorClass⟩,
      fun b hb hne => (hunique.mem_set_iff ha).2 (Or.inr ⟨hb, hne⟩)⟩
    rw [hstep.key]
    exact hstep.deadLettered errorClass

section Keys

variable {worker : OutboxWorkerContext}

theorem keeps_updateJob {f : VerusJobRow → VerusJobRow}
    (hf : ∀ r, (f r).outboxEventId = r.outboxEventId) (version : ℕ) :
    Keeps Db.workKeys (updateJob eventId version f) := by
  intro db n db' h
  simp only [updateJob, commits_get_bind, commits_lift_bind, commits_modify_bind, commits_pure,
    Table.update_eq_ok_iff] at h
  obtain ⟨_, ⟨-, rfl⟩, -, rfl⟩ := h
  exact Prod.ext (Table.map_set _ hf _) rfl

theorem keeps_transitionAnchor (next : VerusJobState) (evidence : TransitionEvidence) :
    Keeps Db.workKeys (transitionAnchor eventId next evidence observedAt) := by
  unfold transitionAnchor
  split
  · exact keeps_pure
  · next state hstate =>
    intro db n db' h
    simp only [commits_get_bind, commits_lift_bind, commits_modify_bind, commits_require,
      Table.update_eq_ok_iff] at h
    obtain ⟨_, ⟨-, rfl⟩, -, rfl⟩ := h
    have hkey : ∀ a, (movedAnchor state evidence observedAt a).outboxEventId = a.outboxEventId :=
      fun _ => rfl
    exact Prod.ext rfl (Table.map_set _ hkey _)

theorem keeps_loadJob {τ : Type} (f : Db → τ) : Keeps f (load eventId) :=
  keeps_get.bind fun _ => keeps_found.bind fun _ => keeps_lift

theorem keeps_requireLease {τ : Type} (f : Db → τ) :
    Keeps f (requireLease eventId worker observedAt) :=
  keeps_get.bind fun _ => keeps_require

theorem keeps_validateEvidence {τ : Type} (f : Db → τ) (evidence : TransitionEvidence) :
    Keeps f (validateEvidence evidence) :=
  keeps_require.bind fun _ => keeps_require.bind fun _ => keeps_require

/-- No operation adds or drops a job or an anchor record. -/
theorem JobOperation.keeps_workKeys :
    Keeps Db.workKeys (operation.exec eventId worker observedAt) := by
  cases hx : operation.transition observedAt with
  | some x =>
    rw [exec_of_transition hx, VerusJobRepository.transition]
    refine (keeps_validateEvidence _ _).bind fun _ => (keeps_requireLease _).bind fun _ => ?_
    refine (keeps_loadJob _).bind fun _ => keeps_require.bind fun _ => ?_
    refine (keeps_updateJob (fun _ => by rfl) _).bind fun _ => keeps_require.bind fun _ => ?_
    refine Keeps.bind ?_ fun _ => (keeps_auditTransition (fun _ _ _ _ => rfl) _ _ _ _).bind fun _ =>
      keeps_loadJob _
    unfold synchronizeAnchor
    split_ifs
    · exact keeps_transitionAnchor _ _
    · exact keeps_pure
  | none =>
    cases operation with
    | loadForClaim => exact (keeps_requireLease _).bind fun _ => keeps_loadJob _
    | markDeadLetter errorClass =>
      refine (keeps_validateEvidence _ _).bind fun _ => keeps_get.bind fun _ => ?_
      refine keeps_require.bind fun _ => (keeps_loadJob _).bind fun _ => keeps_require.bind fun _ => ?_
      refine (keeps_updateJob (fun _ => by rfl) _).bind fun _ => ?_
      refine (keeps_transitionAnchor _ _).bind fun _ => ?_
      exact (keeps_auditTransition (fun _ _ _ _ => rfl) _ _ _ _).bind fun _ => keeps_loadJob _
    | _ => cases hx

theorem StoreCall.workKeys_eq {options : VerusAnchorWorkerOptions} {locked : List Uuid}
    {call : StoreCall} {result : call.Result}
    (h : Commits (call.exec options observedAt locked) db result db') :
    db'.workKeys = db.workKeys := by
  by_cases hjob : ∃ eventId operation, call = .job eventId operation
  · obtain ⟨eventId, operation, rfl⟩ := hjob
    exact JobOperation.keeps_workKeys _ _ _ h
  · have hwork := StoreCall.work_eq (fun e o he => hjob ⟨e, o, he⟩) h
    have hjobs : db'.jobs = db.jobs := congrArg Prod.fst hwork
    have hanchors : db'.anchors = db.anchors := congrArg (fun work => work.2.1) hwork
    unfold Db.workKeys
    rw [hjobs, hanchors]

end Keys

/-! ## Every run -/

namespace System

variable {W : Type} [DecidableEq W] [Host] {options : W → VerusAnchorWorkerOptions}
  {s s' : System W} {act : Act W}

/-- Every job has its anchor record, in step with it. -/
structure Paired (s : System W) : Prop where
  jobs : (s.db.jobs.map fun j => j.outboxEventId).Nodup
  anchors : (s.db.anchors.map fun a => a.outboxEventId).Nodup
  pairs : ∀ row ∈ s.db.jobs, ∃ a ∈ s.db.anchors, InStep s.log row a ∧ Fits row a

omit [DecidableEq W] [Host] in
theorem Initial.paired (h : s.Initial) : s.Paired := by
  refine ⟨?_, ?_, ?_⟩
  · rw [h.jobs]
    exact List.nodup_nil
  · rw [h.anchors]
    exact List.nodup_nil
  · intro row hrow
    rw [h.jobs] at hrow
    exact absurd hrow List.not_mem_nil

omit [DecidableEq W] [Host] in
/-- A step that only logs what is not about a state of a job. -/
theorem Paired.of_log (h : s.Paired) {threads : W → Option Thread} {entries : List Entry}
    (hentries : ∀ entry ∈ entries, ∀ eventId, entry.jobState eventId = none) :
    Paired { s with threads, log := entries ++ s.log } := by
  refine ⟨h.jobs, h.anchors, fun row hrow => ?_⟩
  obtain ⟨a, ha, hstep, hfits⟩ := h.pairs row hrow
  refine ⟨a, ha, ?_, hfits⟩
  show InStep (entries ++ s.log) row a
  clear hfits hrow
  induction entries with
  | nil => exact hstep
  | cons entry entries ih =>
    rw [List.forall_mem_cons] at hentries
    exact (ih hentries.2).of_jobState_none (hentries.1 row.outboxEventId)

omit [DecidableEq W] [Host] in
theorem Paired.enqueued (h : s.Paired) {input : EnqueueVerusAnchorInput} {db : Db} {eventId : Uuid}
    (added : Enqueued input s.db db eventId) :
    Paired { s with db, log := .enqueued eventId input :: s.log } := by
  obtain ⟨committeeId, jobId, now, hjobs⟩ := added.job
  obtain ⟨committeeId', anchorId, now', hanchors⟩ := added.anchor
  have hnew : ∀ row : VerusJobRow, row.outboxEventId = eventId →
      (Entry.enqueued eventId input).jobState row.outboxEventId = some .pending :=
    fun row hkey => if_pos hkey.symm
  refine ⟨?_, ?_, ?_⟩
  · show (db.jobs.map _).Nodup
    rw [hjobs, List.map_append, List.nodup_append]
    refine ⟨h.jobs, List.nodup_singleton _, ?_⟩
    rintro key hkey key' hkey' rfl
    obtain ⟨row, hrow, rfl⟩ := List.mem_map.1 hkey
    exact added.freshJob row hrow (List.mem_singleton.1 hkey')
  · show (db.anchors.map _).Nodup
    rw [hanchors, List.map_append, List.nodup_append]
    refine ⟨h.anchors, List.nodup_singleton _, ?_⟩
    rintro key hkey key' hkey' rfl
    obtain ⟨a, ha, rfl⟩ := List.mem_map.1 hkey
    exact added.freshAnchor a ha (List.mem_singleton.1 hkey')
  · intro row hrow
    have hrow : row ∈ db.jobs := hrow
    rw [hjobs, List.mem_append, List.mem_singleton] at hrow
    rcases hrow with hrow | rfl
    · obtain ⟨a, ha, hstep, hfits⟩ := h.pairs row hrow
      refine ⟨a, ?_, hstep.of_other (fun _ _ _ heq => by cases heq) ?_, hfits⟩
      · show a ∈ db.anchors
        rw [hanchors]
        exact List.mem_append_left _ ha
      · rintro id input' heq
        cases heq
        exact (added.freshJob row hrow).symm
    · refine ⟨newAnchor input committeeId' anchorId eventId now', ?_, ⟨rfl, ?_, ?_, rfl, rfl, rfl,
        rfl⟩, ⟨by simp [newJob], by simp [newJob], rfl, by simp [newJob], Or.inl rfl⟩⟩
      · show _ ∈ db.anchors
        rw [hanchors]
        exact List.mem_append_right _ (List.mem_singleton.2 rfl)
      · rw [jobStates_cons, hnew _ rfl]
        rfl
      · rw [settledState_cons _ (hnew _ rfl)]
        rfl

omit [DecidableEq W] in
theorem Paired.committed (h : s.Paired) (hsound : Sound options s) {w : W} {observedAt : ℤ}
    {locked : List Uuid} {thread : Thread} {call : StoreCall}
    {k : call.Result → Process VerusWorkerResult} {result : call.Result} {db : Db}
    {threads : W → Option Thread} (running : s.threads w = some thread)
    (next : thread.process = .call (.store call) k)
    (commits : Commits (call.exec (options w) observedAt locked) s.db result db) :
    Paired { db, threads, log := thread.attempt.storeEntry call ++ s.log : System W } := by
  have hkeys := StoreCall.workKeys_eq commits
  have hjobs : (db.jobs.map fun j => j.outboxEventId).Nodup := by
    rw [show (db.jobs.map fun j => j.outboxEventId) = _ from congrArg Prod.fst hkeys]
    exact h.jobs
  have hanchors : (db.anchors.map fun a => a.outboxEventId).Nodup := by
    rw [show (db.anchors.map fun a => a.outboxEventId) = _ from congrArg Prod.snd hkeys]
    exact h.anchors
  refine ⟨hjobs, hanchors, fun row hrow => ?_⟩
  by_cases hjob : ∃ eventId operation, call = .job eventId operation
  · obtain ⟨eventId, operation, rfl⟩ := hjob
    obtain ⟨old, new, hkey, hcommitted⟩ := JobOperation.exec_spec hsound.keys commits
    obtain ⟨c, hclaim, hid⟩ := (hsound.allows running next).claim_eq rfl
    obtain ⟨a, ha, hstep, hfits⟩ := h.pairs old hcommitted.changed.mem
    obtain ⟨hnew, hothers⟩ := hcommitted.move.paired (Table.unique_of_nodup h.anchors) ha hstep
      hfits c.attempt
    have hlog : thread.attempt.storeEntry (.job eventId operation) =
        [.stored old.outboxEventId c.attempt operation] := by
      simp only [Attempt.storeEntry, Attempt.entry, hclaim, hkey, hid]
    rw [hlog]
    rcases (hcommitted.changed.jobs row).1 hrow with rfl | ⟨hold, hne⟩
    · exact hnew
    · obtain ⟨b, hb, hstepb, hfitsb⟩ := h.pairs row hold
      refine ⟨b, hothers b hb (by rw [hstepb.key]; exact hne), hstepb.of_other ?_ ?_, hfitsb⟩
      · rintro id n operation' heq
        cases heq
        exact hne.symm
      · rintro id input heq
        cases heq
  · have hwork := StoreCall.work_eq (fun e o he => hjob ⟨e, o, he⟩) commits
    have hjobs : db.jobs = s.db.jobs := congrArg Prod.fst hwork
    have hanchors : db.anchors = s.db.anchors := congrArg (fun work => work.2.1) hwork
    have hlog : thread.attempt.storeEntry call = [] := by
      cases call with
      | job eventId operation => exact absurd ⟨eventId, operation, rfl⟩ hjob
      | _ => rfl
    have hrow : row ∈ db.jobs := hrow
    rw [hjobs] at hrow
    obtain ⟨a, ha, hpair⟩ := h.pairs row hrow
    rw [hlog]
    refine ⟨a, ?_, hpair⟩
    show a ∈ db.anchors
    rw [hanchors]
    exact ha

theorem Paired.step (h : s.Paired) (hsound : Sound options s) (hstep : Step options s act s') :
    s'.Paired := by
  have hentry : ∀ (attempt : Attempt) (make : Uuid → ℕ → Entry),
      (∀ eventId n id, (make eventId n).jobState id = none) →
      ∀ entry ∈ attempt.entry make, ∀ eventId, entry.jobState eventId = none := by
    intro attempt make hmake entry hmem eventId
    unfold Attempt.entry at hmem
    split at hmem
    · rw [List.mem_singleton.1 hmem]
      exact hmake _ _ _
    · exact absurd hmem List.not_mem_nil
  cases hstep with
  | enqueued input context job db added => exact h.enqueued added
  | unchanged => exact h
  | timestamp => exact ⟨h.jobs, h.anchors, h.pairs⟩
  | begun => exact ⟨h.jobs, h.anchors, h.pairs⟩
  | committed w observedAt locked thread call k result db running next commits =>
    exact h.committed hsound running next commits
  | rejected => exact ⟨h.jobs, h.anchors, h.pairs⟩
  | sent w thread => exact h.of_log (hentry _ _ fun _ _ _ => rfl)
  | received w node thread => exact h.of_log (hentry _ _ fun _ _ _ => rfl)
  | crashed => exact ⟨h.jobs, h.anchors, h.pairs⟩

/-- Every job has one anchor record, and it is in step with the job. -/
def JobsInStep (s : System W) : Prop :=
  ∀ row ∈ s.db.jobs, ∃ a ∈ s.db.anchors, InStep s.log row a ∧
    ∀ b ∈ s.db.anchors, b.outboxEventId = row.outboxEventId → b = a

/-- No operation that a worker is about to call is rejected by a trigger or a constraint of the
database. -/
def GuardsAgree (options : W → VerusAnchorWorkerOptions) (s : System W) : Prop :=
  ∀ w thread eventId operation k observedAt error, s.threads w = some thread →
    thread.process = .call (.store (.job eventId operation)) k →
    Rejects (operation.exec eventId (options w).worker observedAt) s.db error →
    error.ofDatabase = false

omit [DecidableEq W] in
/-- A worker verifies the readback of a job with the digest of its manifest. -/
theorem digest_of_verify (hsound : Sound options s) (hinformed : s.Informed) {w : W}
    {thread : Thread} {eventId : Uuid} {digest : String}
    {k : VerusJobRecord → Process VerusWorkerResult} (running : s.threads w = some thread)
    (next : thread.process = .call (.store (.job eventId (.verifyReadback digest))) k)
    {row : VerusJobRow} (hrow : row ∈ s.db.jobs) (hkey : row.outboxEventId = eventId) :
    digest = row.manifestDigest := by
  have hallows := hsound.allows running next
  cases hphase : thread.attempt with
  | working c job answers =>
    rw [hphase] at hallows
    obtain ⟨hid, -, hdigest, -⟩ := hallows
    obtain ⟨row', hrow', hkey', hmanifest⟩ := hinformed.known w thread c job answers running hphase
    rw [hsound.keys row hrow row' hrow' (hkey.trans (hid.trans hkey'.symm)), hmanifest]
    exact hdigest
  | _ =>
    rw [hphase] at hallows
    exact hallows.elim

omit [DecidableEq W] in
theorem Paired.guardsAgree (h : s.Paired) (hsound : Sound options s) (hinformed : s.Informed) :
    GuardsAgree options s := by
  intro w thread eventId operation k observedAt error running next hrejects
  rcases JobOperation.rejects_cases hrejects with herror | ⟨row, before, hrow, hkey, hbefore, hpassed⟩
  · exact herror
  · obtain ⟨a, ha, hstep, hfits⟩ := h.pairs row hrow
    subst hkey
    refine absurd hrejects (Accepted.not_rejects ?_)
    rcases hpassed with ⟨x, hx, hvalid, hleased, hexpected⟩ |
      ⟨errorClass, rfl, hvalid, howned, hexpected⟩
    · refine transition_accepted h.jobs h.anchors hrow ha hstep.key hstep.blockHeight hfits hx hvalid
        hleased hbefore hexpected ?_
      rintro digest rfl
      exact digest_of_verify hsound hinformed running next hrow rfl
    · exact deadLetter_accepted h.jobs h.anchors hrow ha hstep.key hstep.blockHeight hfits hvalid
        howned hbefore hexpected

/-- In every run the anchor records are in step with the jobs, and the guards of the database agree
with the checks of the repository. -/
theorem jobs_and_anchors_in_step {s₀ : System W} (hinit : s₀.Initial)
    (h : Reach (System.step options) (fun _ _ => True) s₀ s) :
    s.JobsInStep ∧ GuardsAgree options s := by
  have hinv : Sound options s ∧ s.Informed ∧ s.Paired := by
    refine h.invariant (I := fun s => Sound options s ∧ s.Informed ∧ s.Paired)
      ⟨hinit.sound, hinit.informed, hinit.paired⟩ ?_
    rintro s act s' ⟨hsound, hinformed, hpaired⟩ - hstep
    have hstep' := step_inv hstep
    exact ⟨hsound.step hstep', hinformed.step hsound hstep', hpaired.step hsound hstep'⟩
  obtain ⟨hsound, hinformed, hpaired⟩ := hinv
  refine ⟨fun row hrow => ?_, hpaired.guardsAgree hsound hinformed⟩
  obtain ⟨a, ha, hstep, -⟩ := hpaired.pairs row hrow
  exact ⟨a, ha, hstep, fun b hb hkey =>
    Table.unique_of_nodup hpaired.anchors b hb a ha (hkey.trans hstep.key.symm)⟩

end System

namespace WorkerSample

/-- After a failed attempt the job and its anchor record wait for a retry. -/
theorem jobs_and_anchors_in_step_after_failure : ∃ s,
    run (System.step (workers fun _ => 7)) start
      (.enqueue (input "one") (context "one") :: failedAttempt true 0) = some s ∧
      s.db.anchors.map AnchorRecord.state = [.retryableFailed] ∧ s.JobsInStep ∧
      System.GuardsAgree (workers fun _ => 7) s := by
  obtain ⟨s, hrun, hstate⟩ := exists_run_of_any (System.step (workers fun _ => 7)) start
    (.enqueue (input "one") (context "one") :: failedAttempt true 0)
    (p := fun s => s.db.anchors.map AnchorRecord.state = [.retryableFailed]) (by decide +kernel)
  exact ⟨s, hrun, of_decide_eq_true hstate, System.jobs_and_anchors_in_step start_initial
    (reach_of_run hrun (allSteps_of_mem (fun _ _ _ => trivial) _))⟩

end WorkerSample

end ChecksAndBalances
