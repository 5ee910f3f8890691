import ChecksAndBalances.Db.Idempotency
import ChecksAndBalances.Db.OutboxRepository

/-!
# What a worker command does to the outbox

A committed command of `OutboxRepository` changes at most one row: it takes the lease of a row that
is ready, extends a lease that its worker holds, or gives it up.
-/

namespace ChecksAndBalances

open Lib Lib.Tx

/-- The worker has the row under a live lease. -/
def OutboxEvent.Held (worker : String) (observedAt : ℤ) (o : OutboxEvent) : Prop :=
  o.state = .claimed ∧ o.leaseOwner = some worker ∧ ∃ t, o.leaseExpiresAt = some t ∧ observedAt < t

/-- Two rows that the single writer rule tells apart only by their identifier. -/
def OutboxEvent.SameAggregate (a b : OutboxEvent) : Prop :=
  a.eventType = b.eventType ∧ a.aggregateType = b.aggregateType ∧
    a.aggregateReference = b.aggregateReference

/-- The update gives up the lease and keeps the identity of the row and its attempts. -/
structure Releases (f : OutboxEvent → OutboxEvent) (state : OutboxState) : Prop where
  state_eq : ∀ o, (f o).state = state
  notClaimed : state ≠ .claimed
  id_eq : ∀ o, (f o).id = o.id
  aggregate : ∀ o, OutboxEvent.SameAggregate (f o) o
  attemptCount : ∀ o, (f o).attemptCount = o.attemptCount

open OutboxRepository in
/-- The changes of a worker command to the outbox. -/
inductive OutboxEffect (worker : OutboxWorkerContext) (observedAt : ℤ) (singleWriter : Bool) :
    List OutboxEvent → List OutboxEvent → Prop
  | unchanged (outbox : List OutboxEvent) :
      OutboxEffect worker observedAt singleWriter outbox outbox
  | claimed (outbox : List OutboxEvent) (o : OutboxEvent) (leaseDurationMs : ℤ)
      (mem : o ∈ outbox) (ready : isReady observedAt o = true) (positive : 0 < leaseDurationMs)
      (alone : singleWriter = true → hasActiveWriter outbox observedAt o = false) :
      OutboxEffect worker observedAt singleWriter outbox
        (Table.set (fun x => x.id = o.id) (claimedBy worker observedAt leaseDurationMs) outbox)
  | extended (outbox : List OutboxEvent) (o : OutboxEvent) (leaseDurationMs : ℤ)
      (mem : o ∈ outbox) (held : o.Held worker.workerReference observedAt)
      (positive : 0 < leaseDurationMs) :
      OutboxEffect worker observedAt singleWriter outbox
        (Table.set (fun x => x.id = o.id)
          (fun x => { x with leaseExpiresAt := some (observedAt + leaseDurationMs) }) outbox)
  | released (outbox : List OutboxEvent) (o : OutboxEvent) (f : OutboxEvent → OutboxEvent)
      (state : OutboxState) (mem : o ∈ outbox) (held : o.Held worker.workerReference observedAt)
      (releases : Releases f state) :
      OutboxEffect worker observedAt singleWriter outbox
        (Table.set (fun x => x.id = o.id) f outbox)

/-- A producer adds a pending event under a new identifier. -/
theorem insertOutboxEvent_spec {id : Uuid} {committeeId : Option Uuid}
    {eventType aggregateType aggregateReference schemaVersion payloadReference payloadDigest
      keyHash : String} {db db' : Db} {u : Unit}
    (h : Commits (insertOutboxEvent id committeeId eventType aggregateType aggregateReference
      schemaVersion payloadReference payloadDigest keyHash) db u db') :
    (∀ o ∈ db.outbox, o.id ≠ id) ∧ ∃ new : OutboxEvent, new.id = id ∧ new.state = .pending ∧
      new.attemptCount = 0 ∧ new.eventType = eventType ∧
      db' = { db with outbox := db.outbox ++ [new] } := by
  simp only [insertOutboxEvent, requireUnique, commits_get_bind, commits_require_bind,
    commits_modify] at h
  obtain ⟨hid, -, rfl⟩ := h
  refine ⟨by simpa [List.all_eq_true] using hid, _, ?_, ?_, ?_, ?_, rfl⟩ <;> rfl

/-- The tables of the anchor work, which no command on the outbox writes. -/
def Db.work (db : Db) : List VerusJobRow × List AnchorRecord × List Committee :=
  (db.jobs, db.anchors, db.committees)

/-- The current attempt of the row, which no attempt had recorded, was recorded. -/
def Recorded (o : OutboxEvent) (attempts attempts' : List OutboxAttempt) : Prop :=
  (∀ a ∈ attempts, ¬ (a.outboxEventId = o.id ∧ a.attempt = o.attemptCount)) ∧
    0 < o.attemptCount ∧
    ∃ new : OutboxAttempt, new.outboxEventId = o.id ∧ new.attempt = o.attemptCount ∧
      attempts' = attempts ++ [new]

namespace OutboxRepository

variable {worker : OutboxWorkerContext} {observedAt leaseDurationMs : ℤ} {eventId : Uuid}
  {db db' : Db} {τ : Type}

/-! ## Frames -/

/-- Everything but the audit tables, the attempts and the next identifier. -/
theorem keeps_auditChange {f : Db → τ}
    (hf : ∀ db audit heads n,
      f { db with audit := audit, auditChainHeads := heads, nextId := n } = f db)
    (o : OutboxEvent) (command reasonCategory : String) (state : OutboxState)
    (result : AuditResult) :
    Keeps f (auditChange worker o command reasonCategory state result) :=
  keeps_get.bind fun _ => (keeps_appendAudit hf _ _ _ _ _).bind fun _ => keeps_pure

theorem keeps_recordAttempt {f : Db → τ}
    (hf : ∀ (db : Db) attempts n, f { db with attempts := attempts, nextId := n } = f db)
    (o : OutboxEvent) (reference : String) (result : AuditResult) (errorClass : Option String)
    (startedAt finishedAt : ℤ) :
    Keeps f (recordAttempt o reference result errorClass startedAt finishedAt) := by
  refine keeps_get.bind fun db => (keeps_newId fun db n => hf db db.attempts n).bind fun _ => ?_
  refine keeps_require.bind fun _ => keeps_require.bind fun _ => keeps_require.bind fun _ => ?_
  exact keeps_modify fun db => hf db _ db.nextId

/-! ## Specifications -/

theorem recordAttempt_spec {o : OutboxEvent} {reference : String} {result : AuditResult}
    {errorClass : Option String} {startedAt finishedAt : ℤ} {u : Unit}
    (h : Commits (recordAttempt o reference result errorClass startedAt finishedAt) db u db') :
    Recorded o db.attempts db'.attempts ∧ db'.outbox = db.outbox ∧ db'.work = db.work := by
  have hkept := keeps_recordAttempt (f := fun db => (db.outbox, db.work)) (fun _ _ _ => rfl)
    _ _ _ _ _ _ _ _ _ h
  simp only [Prod.mk.injEq] at hkept
  refine ⟨?_, hkept⟩
  rw [recordAttempt, commits_get_bind] at h
  obtain ⟨id, db₁, hid, h⟩ := commits_bind.1 h
  have hsame := keeps_newId (f := fun db => db.attempts) (fun _ _ => rfl) _ _ _ hid
  simp only [requireUnique, commits_require_bind, commits_modify] at h
  obtain ⟨hpositive, -, hnew, rfl⟩ := h
  refine ⟨?_, hpositive, _, ?_, ?_, congrArg (· ++ _) hsame⟩
  · intro a ha hkey
    rw [List.all_eq_true] at hnew
    simpa [hkey] using hnew a ha
  · rfl
  · rfl

theorem recoverExpired_spec {o : OutboxEvent} {u : Unit}
    (h : Commits (recoverExpired worker o observedAt) db u db') :
    (if o.state = .claimed then Recorded o db.attempts db'.attempts
      else db'.attempts = db.attempts) ∧ db'.outbox = db.outbox ∧ db'.work = db.work := by
  unfold recoverExpired at h
  split_ifs at h ⊢ with hclaimed
  · obtain ⟨_, db₁, hrecord, haudit⟩ := commits_bind.1 h
    have haudit' := keeps_auditChange (f := fun db => (db.attempts, db.outbox, db.work))
      (fun _ _ _ _ => rfl) _ _ _ _ _ _ _ _ haudit
    simp only [Prod.mk.injEq] at haudit'
    obtain ⟨hrecorded, houtbox, hwork⟩ := recordAttempt_spec hrecord
    rw [haudit'.1]
    exact ⟨hrecorded, haudit'.2.1.trans houtbox, haudit'.2.2.trans hwork⟩
  · rw [(commits_pure.1 h).2]
    exact ⟨rfl, rfl, rfl⟩

theorem loadClaim_spec {workerReference : String} {β : Type} {k : OutboxEvent → DbTx β} {b : β}
    (h : Commits (loadClaim eventId workerReference observedAt >>= k) db b db') :
    ∃ o ∈ db.outbox, o.id = eventId ∧ o.Held workerReference observedAt ∧
      Commits (k o) db b db' := by
  simp only [loadClaim, bind_assoc, commits_get_bind, commits_found_bind] at h
  obtain ⟨o, hfind, h⟩ := h
  obtain ⟨hmem, hkey⟩ := Table.mem_of_find? hfind
  simp only [Bool.and_eq_true, decide_eq_true_eq, Option.any_eq_true] at hkey
  exact ⟨o, hmem, hkey.1.1.1, ⟨hkey.1.1.2, hkey.1.2, hkey.2⟩, h⟩

theorem updateOutboxEvent_spec {f : OutboxEvent → OutboxEvent} {u : Unit}
    (h : Commits (updateOutboxEvent eventId f) db u db') :
    db' = { db with outbox := Table.set (fun o => o.id = eventId) f db.outbox } := by
  simp only [updateOutboxEvent, commits_get_bind, commits_lift_bind, commits_modify,
    Table.update_eq_ok_iff] at h
  obtain ⟨_, ⟨-, rfl⟩, rfl⟩ := h
  rfl

theorem isReady_state {o : OutboxEvent} (h : isReady observedAt o = true) :
    o.state = .pending ∨ o.state = .retryableFailed ∨ o.state = .claimed := by
  simp only [isReady, Bool.or_eq_true, Bool.and_eq_true, decide_eq_true_eq, List.mem_cons,
    List.not_mem_nil, or_false] at h
  tauto

theorem firstEvent_mem {rows : List OutboxEvent} {o : OutboxEvent} (h : firstEvent rows = some o) :
    o ∈ rows := by
  induction rows generalizing o with
  | nil => cases h
  | cons first rest ih =>
    simp only [firstEvent] at h
    cases hrest : firstEvent rest with
    | none =>
      rw [hrest] at h
      rw [Option.some.inj h]
      exact List.mem_cons_self
    | some best =>
      rw [hrest] at h
      have hbest := ih hrest
      simp only [Option.some.injEq] at h
      split_ifs at h
      · rw [← h]
        exact List.mem_cons_of_mem _ hbest
      · rw [← h]
        exact List.mem_cons_self

theorem candidate_spec {outbox : List OutboxEvent} {eventTypes : Option (List String)}
    {singleWriter : Bool} {locked : List Uuid} {o : OutboxEvent}
    (h : candidate outbox observedAt eventTypes singleWriter locked = some o) :
    o ∈ outbox ∧ isReady observedAt o = true ∧
      (∀ types, eventTypes = some types → o.eventType ∈ types) ∧
      (singleWriter = true → hasActiveWriter outbox observedAt o = false) := by
  obtain ⟨hmem, hwhere⟩ := List.mem_filter.1 (firstEvent_mem h)
  simp only [isClaimable, Bool.and_eq_true, decide_eq_true_eq] at hwhere
  refine ⟨hmem, hwhere.1.1.1, ?_, ?_⟩
  · intro types htypes
    simpa [htypes] using hwhere.1.1.2
  · intro hsingle
    simpa [hsingle] using hwhere.1.2

/-- A claim takes the lease of one ready row and starts its next attempt. -/
theorem claimNext_spec {options : OutboxClaimOptions} {locked : List Uuid}
    {claim : Option OutboxClaim}
    (h : Commits (claimNext worker observedAt leaseDurationMs options locked) db claim db') :
    (claim = none ∧ db' = db) ∨
      ∃ o c, claim = some c ∧ c.id = o.id ∧ c.attempt = o.attemptCount + 1 ∧
        candidate db.outbox observedAt (options.eventTypes.map List.dedup)
          options.singleWriterByAggregate locked = some o ∧ o ∈ db.outbox ∧
        isReady observedAt o = true ∧ 0 < leaseDurationMs ∧
        (∀ types, options.eventTypes = some types → o.eventType ∈ types) ∧
        (options.singleWriterByAggregate = true →
          hasActiveWriter db.outbox observedAt o = false) ∧
        db'.outbox = Table.set (fun x => x.id = o.id)
          (claimedBy worker observedAt leaseDurationMs) db.outbox ∧
        (if o.state = .claimed then Recorded o db.attempts db'.attempts
          else db'.attempts = db.attempts) ∧ db'.work = db.work := by
  simp only [claimNext, requireOpaqueReference, validateEventTypes, bind_assoc, pure_bind,
    commits_require_bind, commits_get_bind] at h
  obtain ⟨-, hpositive, -, h⟩ := h
  split at h
  · left
    exact commits_pure.1 h
  · next o hcandidate =>
    right
    obtain ⟨hmem, hready, htypes, halone⟩ := candidate_spec hcandidate
    rw [map_eq_pure_bind] at h
    obtain ⟨c, db₁, htake, h⟩ := commits_bind.1 h
    obtain ⟨rfl, rfl⟩ := commits_pure.1 h
    obtain ⟨_, db₂, hrecover, htake⟩ := commits_bind.1 htake
    obtain ⟨_, db₃, hupdate, htake⟩ := commits_bind.1 htake
    obtain ⟨_, db₄, haudit, htake⟩ := commits_bind.1 htake
    simp only [commits_get_bind, commits_pure] at htake
    obtain ⟨rfl, rfl⟩ := htake
    obtain ⟨hrecord, houtbox, hwork⟩ := recoverExpired_spec hrecover
    have haudit' := keeps_auditChange (f := fun db => (db.outbox, db.attempts, db.work))
      (fun _ _ _ _ => rfl) _ _ _ _ _ _ _ _ haudit
    rw [updateOutboxEvent_spec hupdate, houtbox] at haudit'
    simp only [Prod.mk.injEq] at haudit'
    obtain ⟨houtbox', hattempts', hwork'⟩ := haudit'
    refine ⟨o, _, rfl, rfl, rfl, hcandidate, hmem, hready, hpositive, ?_, halone, houtbox', ?_,
      hwork'.trans hwork⟩
    · intro types hoptions
      have := htypes types.dedup (by rw [hoptions]; rfl)
      exact List.mem_dedup.1 this
    · rw [hattempts']
      exact hrecord

theorem heartbeat_spec {expiresAt : ℤ}
    (h : Commits (heartbeat eventId worker observedAt leaseDurationMs) db expiresAt db') :
    ∃ o ∈ db.outbox, o.id = eventId ∧ o.Held worker.workerReference observedAt ∧
      0 < leaseDurationMs ∧
      db'.outbox = Table.set (fun x => x.id = eventId)
        (fun x => { x with leaseExpiresAt := some (observedAt + leaseDurationMs) }) db.outbox ∧
      db'.attempts = db.attempts ∧ db'.work = db.work := by
  obtain ⟨o, hmem, hid, hheld, h⟩ := loadClaim_spec h
  rw [commits_require_bind] at h
  obtain ⟨hpositive, h⟩ := h
  obtain ⟨_, db₂, hupdate, h⟩ := commits_bind.1 h
  obtain ⟨_, db₃, haudit, h⟩ := commits_bind.1 h
  have haudit' := keeps_auditChange (f := fun db => (db.outbox, db.attempts, db.work))
    (fun _ _ _ _ => rfl) _ _ _ _ _ _ _ _ haudit
  rw [updateOutboxEvent_spec hupdate] at haudit'
  rw [(commits_pure.1 h).2]
  simp only [Prod.mk.injEq] at haudit'
  exact ⟨o, hmem, hid, hheld, by omega, haudit'⟩

/-- What a command that gives up a lease has done. -/
def GivesUp (worker : String) (observedAt : ℤ) (eventId : Uuid) (state : OutboxState)
    (db db' : Db) : Prop :=
  ∃ o ∈ db.outbox, ∃ f, o.id = eventId ∧ o.Held worker observedAt ∧ Releases f state ∧
    db'.outbox = Table.set (fun x => x.id = eventId) f db.outbox ∧
    Recorded o db.attempts db'.attempts ∧ db'.work = db.work

theorem GivesUp.effect {singleWriter : Bool} {state : OutboxState}
    (h : GivesUp worker.workerReference observedAt eventId state db db') :
    OutboxEffect worker observedAt singleWriter db.outbox db'.outbox := by
  obtain ⟨o, hmem, f, rfl, hheld, hf, houtbox, -⟩ := h
  rw [houtbox]
  exact .released _ _ _ _ hmem hheld hf

theorem closeAttempt_spec {o : OutboxEvent} {f : OutboxEvent → OutboxEvent}
    {command reasonCategory : String} {state : OutboxState} {result : AuditResult}
    {errorClass : Option String} {u : Unit} (hmem : o ∈ db.outbox) (hid : o.id = eventId)
    (hheld : o.Held worker.workerReference observedAt) (hf : Releases f state)
    (h : Commits (closeAttempt worker o observedAt f command reasonCategory state result errorClass)
      db u db') :
    GivesUp worker.workerReference observedAt eventId state db db' := by
  obtain ⟨_, db₁, hattempt, h⟩ := commits_bind.1 h
  obtain ⟨_, db₂, hupdate, haudit⟩ := commits_bind.1 h
  obtain ⟨hrecorded, houtbox, hwork⟩ := recordAttempt_spec hattempt
  have haudit' := keeps_auditChange (f := fun db => (db.outbox, db.attempts, db.work))
    (fun _ _ _ _ => rfl) _ _ _ _ _ _ _ _ haudit
  rw [updateOutboxEvent_spec hupdate, houtbox, hid] at haudit'
  simp only [Prod.mk.injEq] at haudit'
  obtain ⟨houtbox', hattempts', hwork'⟩ := haudit'
  refine ⟨o, hmem, f, hid, hheld, hf, houtbox', ?_, hwork'.trans hwork⟩
  rw [hattempts']
  exact hrecorded

theorem releases_released {state : OutboxState} {completedAt : Option ℤ}
    (hstate : state ≠ .claimed) : Releases (released state completedAt) state :=
  ⟨fun _ => rfl, hstate, fun _ => rfl, fun _ => ⟨rfl, rfl, rfl⟩, fun _ => rfl⟩

theorem succeed_spec {u : Unit} (h : Commits (succeed eventId worker observedAt) db u db') :
    GivesUp worker.workerReference observedAt eventId .succeeded db db' := by
  obtain ⟨o, hmem, hid, hheld, h⟩ := loadClaim_spec h
  exact closeAttempt_spec hmem hid hheld (releases_released (by decide)) h

theorem failTerminal_spec {errorClass : String} {u : Unit}
    (h : Commits (failTerminal eventId worker observedAt errorClass) db u db') :
    GivesUp worker.workerReference observedAt eventId .terminalFailed db db' := by
  simp only [failTerminal, requireErrorClass, commits_require_bind] at h
  obtain ⟨-, h⟩ := h
  obtain ⟨o, hmem, hid, hheld, h⟩ := loadClaim_spec h
  refine closeAttempt_spec hmem hid hheld ?_ h
  exact ⟨fun _ => rfl, by decide, fun _ => rfl, fun _ => ⟨rfl, rfl, rfl⟩, fun _ => rfl⟩

theorem failRetryable_spec {settings : RetrySettings} {errorClass : String} {state : OutboxState}
    (h : Commits (failRetryable eventId worker observedAt settings errorClass) db state db') :
    (∃ o ∈ db.outbox, o.id = eventId ∧ state = retryState settings o) ∧
      GivesUp worker.workerReference observedAt eventId state db db' := by
  simp only [failRetryable, validateFailureOptions, requireErrorClass, bind_assoc,
    commits_require_bind] at h
  obtain ⟨-, -, h⟩ := h
  obtain ⟨o, hmem, hid, hheld, h⟩ := loadClaim_spec h
  obtain ⟨_, db₁, hclose, h⟩ := commits_bind.1 h
  obtain ⟨rfl, rfl⟩ := commits_pure.1 h
  refine ⟨⟨o, hmem, hid, rfl⟩, closeAttempt_spec hmem hid hheld ?_ hclose⟩
  refine ⟨fun _ => rfl, ?_, fun _ => rfl, fun _ => ⟨rfl, rfl, rfl⟩, fun _ => rfl⟩
  unfold retryState
  split_ifs <;> decide

end OutboxRepository

end ChecksAndBalances
