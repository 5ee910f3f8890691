import ChecksAndBalances.Db.Audit

/-!
# The outbox

`OutboxRepository` of `packages/db/src/outbox-repository.ts`, over the constraints and triggers of
`outbox_event` and `outbox_attempt`.  Every method takes the time its caller observed; `claimNext`
also takes the rows that other transactions hold locked, which its query skips.
-/

namespace ChecksAndBalances

open Lib Lib.Tx

/-! ## Constraints and triggers -/

/-- `cbc_guard_outbox_identity`: the columns that never change. -/
def OutboxEvent.sameIdentity (old new : OutboxEvent) : Bool :=
  old.committeeId = new.committeeId && old.eventType = new.eventType &&
    old.aggregateType = new.aggregateType && old.aggregateReference = new.aggregateReference &&
    old.schemaVersion = new.schemaVersion && old.payloadReference = new.payloadReference &&
    old.payloadDigest = new.payloadDigest && old.idempotencyKeyHash = new.idempotencyKeyHash &&
    old.createdAt = new.createdAt

/-- `cbc_guard_outbox_transition`. -/
def outboxTransitionAllowed (old new : OutboxState) : Bool :=
  old = new || (old ∈ [.pending, .retryableFailed] && new = .claimed) ||
    (old = .claimed && new ∈ [.succeeded, .retryableFailed, .terminalFailed, .deadLetter])

/-- `outbox_lease_consistent`. -/
def OutboxEvent.leaseConsistent (o : OutboxEvent) : Bool :=
  match o.state, o.leaseOwner, o.leaseAcquiredAt, o.leaseExpiresAt with
  | .claimed, some _, some acquiredAt, some expiresAt => acquiredAt < expiresAt
  | .claimed, _, _, _ => false
  | _, none, none, none => true
  | _, _, _, _ => false

/-- `outbox_completion_consistent`. -/
def OutboxEvent.completionConsistent (o : OutboxEvent) : Bool :=
  decide (o.state ∈ [OutboxState.succeeded, .terminalFailed, .deadLetter]) = o.completedAt.isSome

/-- The triggers and constraints on an update of `outbox_event`. -/
def guardOutboxUpdate (old new : OutboxEvent) : Except RepositoryError Unit :=
  if !old.sameIdentity new then .error (.raised "outbox event identity is immutable")
  else if !outboxTransitionAllowed old.state new.state then
    .error (.raised ("invalid outbox transition: " ++ old.state.name ++ " -> " ++ new.state.name))
  else if !new.leaseConsistent then .error (.checkViolation "outbox_lease_consistent")
  else if !new.completionConsistent then .error (.checkViolation "outbox_completion_consistent")
  else .ok ()

/-- `UPDATE "outbox_event" SET … WHERE "id" = $1`. -/
def updateOutboxEvent (eventId : Uuid) (f : OutboxEvent → OutboxEvent) : DbTx Unit := do
  let db ← get
  let outbox ← lift id (Table.update (fun o => o.id = eventId) f guardOutboxUpdate db.outbox)
  modify fun db => { db with outbox }

/-- `OutboxWorkerContext`. -/
structure OutboxWorkerContext where
  workerReference : String
  softwareVersion : String
  correlationId : String
  deriving DecidableEq, Repr

namespace OutboxRepository

/-! ## Inputs and results -/

/-- `OutboxClaim`. -/
structure OutboxClaim where
  id : Uuid
  committeeReference : Option String
  eventType : String
  aggregateType : String
  aggregateReference : String
  schemaVersion : String
  payloadReference : String
  payloadDigest : String
  attempt : ℕ
  createdAt : ℤ
  leaseExpiresAt : ℤ
  deriving DecidableEq, Repr

/-- `OutboxClaimOptions`, its defaults filled in. -/
structure OutboxClaimOptions where
  eventTypes : Option (List String)
  singleWriterByAggregate : Bool
  deriving DecidableEq, Repr

/-- `OutboxQueueStats`. -/
structure OutboxQueueStats where
  readyCount : ℕ
  oldestReadyAt : Option ℤ
  deriving DecidableEq, Repr

/-- `RetryFailureOptions` without its error class. -/
structure RetrySettings where
  maxAttempts : ℤ
  baseBackoffMs : ℤ
  maxBackoffMs : ℤ
  deriving DecidableEq, Repr

/-! ## Private methods -/

/-- `requireErrorClass`. -/
def requireErrorClass (errorClass : String) : DbTx Unit :=
  require (isErrorClass errorClass = true)
    (.conflict "error class must be a non-sensitive stable code")

/-- `validateFailureOptions`. -/
def validateFailureOptions (settings : RetrySettings) (errorClass : String) : DbTx Unit := do
  requireErrorClass errorClass
  require (1 ≤ settings.maxAttempts ∧ 1 ≤ settings.baseBackoffMs ∧
    settings.baseBackoffMs ≤ settings.maxBackoffMs)
    (.conflict "retry settings must be positive and bounded")

/-- The check of an event type, `^[a-z][a-z0-9_.-]{2,127}$`. -/
def isEventType (value : String) : Bool :=
  matchesCode isLower (fun c => isLower c || isDigit c || c == '_' || c == '.' || c == '-') 2 127
    value

/-- `validateEventTypes`. -/
def validateEventTypes (eventTypes : Option (List String)) : DbTx (Option (List String)) := do
  require (eventTypes.all (fun types => !types.isEmpty && types.all isEventType) = true)
    (.conflict "event type filters must be non-empty stable codes")
  return eventTypes.map List.dedup

/-- The reference of the committee joined to a row. -/
def committeeReference (db : Db) (o : OutboxEvent) : Option String :=
  o.committeeId.bind fun id =>
    (db.committees.find? fun c => c.id = id).map Committee.externalReference

/-- `auditContext`. -/
def auditContext (worker : OutboxWorkerContext) (o : OutboxEvent)
    (committeeReference : Option String) (command reasonCategory : String) : CommandContext :=
  { actor :=
      { type := "worker", reference := worker.workerReference
        authenticationStrength := "internal_worker" }
    committeeReference := committeeReference.getD "global_synthetic_scope"
    policyVersionReference := "schema:" ++ o.schemaVersion
    softwareVersion := worker.softwareVersion
    reasonCategory
    correlationId := worker.correlationId
    idempotencyKey := toString o.id ++ ":" ++ toString o.attemptCount ++ ":" ++ command
    requestDigest := o.payloadDigest }

/-- The audit event of a change of an outbox event. -/
def auditChange (worker : OutboxWorkerContext) (o : OutboxEvent) (command reasonCategory : String)
    (newState : OutboxState) (result : AuditResult) : DbTx Unit := do
  let db ← get
  let _ ← appendAudit (auditContext worker o (committeeReference db o) command reasonCategory)
    o.committeeId command
    { type := "outbox_event", reference := toString o.id
      priorState := some o.state.name, newState := some newState.name } result

/-- `loadClaim`. -/
def loadClaim (eventId : Uuid) (workerReference : String) (observedAt : ℤ) : DbTx OutboxEvent := do
  let db ← get
  found (db.outbox.find? fun o => o.id = eventId && o.state = .claimed &&
      o.leaseOwner = some workerReference && o.leaseExpiresAt.any fun t => observedAt < t)
    (.conflict "outbox lease is missing, expired, or owned by another worker")

/-- `recordAttempt`. -/
def recordAttempt (o : OutboxEvent) (worker : String) (result : AuditResult)
    (errorClass : Option String) (startedAt finishedAt : ℤ) : DbTx Unit := do
  let db ← get
  let id ← newId
  require (0 < o.attemptCount) (.checkViolation "outbox_attempt_positive")
  require (startedAt ≤ finishedAt) (.checkViolation "outbox_attempt_time_order")
  requireUnique db.attempts (fun a => a.outboxEventId = o.id && a.attempt = o.attemptCount)
    "outbox_attempt_outbox_event_id_attempt_key"
  modify fun db => { db with
    attempts := db.attempts ++ [
      { id, outboxEventId := o.id, attempt := o.attemptCount, worker, result, errorClass
        startedAt, finishedAt }] }

/-! ## Claims -/

/-- The row waits for a worker: it is due, or its lease has expired. -/
def isReady (observedAt : ℤ) (o : OutboxEvent) : Bool :=
  (o.state ∈ [OutboxState.pending, .retryableFailed] && o.availableAt ≤ observedAt) ||
    (o.state = .claimed && o.leaseExpiresAt.any fun t => t ≤ observedAt)

/-- Another row of the same event type and aggregate is claimed under a live lease. -/
def hasActiveWriter (outbox : List OutboxEvent) (observedAt : ℤ) (o : OutboxEvent) : Bool :=
  outbox.any fun active => active.id ≠ o.id && active.eventType = o.eventType &&
    active.aggregateType = o.aggregateType && active.aggregateReference = o.aggregateReference &&
    active.state = .claimed && active.leaseExpiresAt.any fun t => observedAt < t

/-- The `WHERE` clause of `claimNext`. -/
def isClaimable (outbox : List OutboxEvent) (observedAt : ℤ) (eventTypes : Option (List String))
    (singleWriter : Bool) (o : OutboxEvent) : Bool :=
  isReady observedAt o && eventTypes.all (fun types => o.eventType ∈ types) &&
    (!singleWriter || !hasActiveWriter outbox observedAt o)

/-- `ORDER BY "available_at", "created_at", "id"`. -/
def precedes (a b : OutboxEvent) : Bool :=
  a.availableAt < b.availableAt || (a.availableAt = b.availableAt &&
    (a.createdAt < b.createdAt || (a.createdAt = b.createdAt && a.id < b.id)))

/-- `ORDER BY … LIMIT 1`. -/
def firstEvent : List OutboxEvent → Option OutboxEvent
  | [] => none
  | o :: rest =>
    match firstEvent rest with
    | none => some o
    | some best => some (if precedes best o then best else o)

/-- The part of `claimNext` that closes the attempt of an expired lease. -/
def recoverExpired (worker : OutboxWorkerContext) (o : OutboxEvent) (observedAt : ℤ) :
    DbTx Unit := do
  if o.state = .claimed then
    recordAttempt o (o.leaseOwner.getD "") .failed (some "lease_expired")
      (o.leaseAcquiredAt.getD 0) observedAt
    auditChange worker o "recoverExpiredOutboxLease" "lease_expired" .claimed .succeeded
  else pure ()

/-- The row after a claim. -/
def claimedBy (worker : OutboxWorkerContext) (observedAt leaseDurationMs : ℤ) (o : OutboxEvent) :
    OutboxEvent :=
  { o with
    state := .claimed
    leaseOwner := some worker.workerReference
    leaseAcquiredAt := some observedAt
    leaseExpiresAt := some (observedAt + leaseDurationMs)
    attemptCount := o.attemptCount + 1
    lastErrorClass := none }

/-- The part of `claimNext` that takes the candidate row. -/
def takeLease (worker : OutboxWorkerContext) (observedAt leaseDurationMs : ℤ) (o : OutboxEvent) :
    DbTx OutboxClaim := do
  recoverExpired worker o observedAt
  updateOutboxEvent o.id (claimedBy worker observedAt leaseDurationMs)
  auditChange worker o "claimOutboxEvent" "worker_claim" .claimed .succeeded
  let db ← get
  return { id := o.id
           committeeReference := (committeeReference db o).filter fun r => r != ""
           eventType := o.eventType
           aggregateType := o.aggregateType
           aggregateReference := o.aggregateReference
           schemaVersion := o.schemaVersion
           payloadReference := o.payloadReference
           payloadDigest := o.payloadDigest
           attempt := o.attemptCount + 1
           createdAt := o.createdAt
           leaseExpiresAt := observedAt + leaseDurationMs }

/-- The row that the query of `claimNext` selects. -/
def candidate (outbox : List OutboxEvent) (observedAt : ℤ) (eventTypes : Option (List String))
    (singleWriter : Bool) (locked : List Uuid) : Option OutboxEvent :=
  firstEvent (outbox.filter fun o =>
    isClaimable outbox observedAt eventTypes singleWriter o && o.id ∉ locked)

/-- `claimNext`. -/
def claimNext (worker : OutboxWorkerContext) (observedAt leaseDurationMs : ℤ)
    (options : OutboxClaimOptions) (locked : List Uuid) : DbTx (Option OutboxClaim) := do
  requireOpaqueReference worker.workerReference "worker reference"
  require (0 < leaseDurationMs) (.conflict "lease duration must be a positive integer")
  let eventTypes ← validateEventTypes options.eventTypes
  let db ← get
  match candidate db.outbox observedAt eventTypes options.singleWriterByAggregate locked with
  | none => return none
  | some o => some <$> takeLease worker observedAt leaseDurationMs o

/-- `queueStats`. -/
def queueStats (observedAt : ℤ) (eventTypes : Option (List String)) : DbTx OutboxQueueStats := do
  let eventTypes ← validateEventTypes eventTypes
  let db ← get
  let ready := db.outbox.filter fun o =>
    isReady observedAt o && eventTypes.all fun types => o.eventType ∈ types
  return { readyCount := ready.length, oldestReadyAt := (ready.map OutboxEvent.createdAt).min? }

/-! ## Work under a lease -/

/-- `heartbeat`. -/
def heartbeat (eventId : Uuid) (worker : OutboxWorkerContext) (observedAt leaseDurationMs : ℤ) :
    DbTx ℤ := do
  let o ← loadClaim eventId worker.workerReference observedAt
  require (observedAt < observedAt + leaseDurationMs) (.conflict "lease duration must be positive")
  updateOutboxEvent eventId fun o => { o with
    leaseExpiresAt := some (observedAt + leaseDurationMs) }
  auditChange worker o "heartbeatOutboxLease" "worker_heartbeat" .claimed .succeeded
  return observedAt + leaseDurationMs

/-- A row without a lease, in the given state. -/
def released (state : OutboxState) (completedAt : Option ℤ) (o : OutboxEvent) : OutboxEvent :=
  { o with
    state, completedAt
    leaseOwner := none
    leaseAcquiredAt := none
    leaseExpiresAt := none }

/-- The common end of `succeed`, `failRetryable` and `failTerminal`. -/
def closeAttempt (worker : OutboxWorkerContext) (o : OutboxEvent) (observedAt : ℤ)
    (f : OutboxEvent → OutboxEvent) (command reasonCategory : String) (state : OutboxState)
    (result : AuditResult) (errorClass : Option String) : DbTx Unit := do
  recordAttempt o worker.workerReference result errorClass (o.leaseAcquiredAt.getD 0) observedAt
  updateOutboxEvent o.id f
  auditChange worker o command reasonCategory state result

/-- `succeed`. -/
def succeed (eventId : Uuid) (worker : OutboxWorkerContext) (observedAt : ℤ) : DbTx Unit := do
  let o ← loadClaim eventId worker.workerReference observedAt
  closeAttempt worker o observedAt (released .succeeded (some observedAt)) "completeOutboxEvent"
    "worker_success" .succeeded .succeeded none

/-- The delay before the next attempt. -/
def backoff (settings : RetrySettings) (attemptCount : ℕ) : ℤ :=
  min (settings.baseBackoffMs * 2 ^ (attemptCount - 1)) settings.maxBackoffMs

/-- The attempts of the row are used up. -/
def exhausted (settings : RetrySettings) (o : OutboxEvent) : Bool :=
  settings.maxAttempts ≤ o.attemptCount

/-- The state after a retryable failure. -/
def retryState (settings : RetrySettings) (o : OutboxEvent) : OutboxState :=
  if exhausted settings o then .deadLetter else .retryableFailed

/-- `failRetryable`; the result is the new state. -/
def failRetryable (eventId : Uuid) (worker : OutboxWorkerContext) (observedAt : ℤ)
    (settings : RetrySettings) (errorClass : String) : DbTx OutboxState := do
  validateFailureOptions settings errorClass
  let o ← loadClaim eventId worker.workerReference observedAt
  closeAttempt worker o observedAt
    (fun x => { released (retryState settings o)
        (if exhausted settings o then some observedAt else none) x with
      availableAt := observedAt + backoff settings o.attemptCount
      lastErrorClass := some errorClass })
    "failOutboxEvent" errorClass (retryState settings o) .failed (some errorClass)
  return retryState settings o

/-- `failTerminal`. -/
def failTerminal (eventId : Uuid) (worker : OutboxWorkerContext) (observedAt : ℤ)
    (errorClass : String) : DbTx Unit := do
  requireErrorClass errorClass
  let o ← loadClaim eventId worker.workerReference observedAt
  closeAttempt worker o observedAt
    (fun x => { released .terminalFailed (some observedAt) x with
      lastErrorClass := some errorClass })
    "terminallyFailOutboxEvent" errorClass .terminalFailed .failed (some errorClass)

end OutboxRepository

end ChecksAndBalances
