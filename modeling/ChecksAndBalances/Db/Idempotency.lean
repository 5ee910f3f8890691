import ChecksAndBalances.Db.Audit

/-!
# Idempotency records and outbox events of a command

What every verification, attestation and lifecycle command does around its own rows: it takes an idempotency
record in the scope of its committee, adds an outbox event, and completes the record.  The private
methods `committeeId`, `beginIdempotency` and `completeIdempotency` are the same text in
`verification-repository.ts` and `attestation-repository.ts`; `lifecycle-repository.ts` takes its
keys in a scope of its own.
-/

namespace ChecksAndBalances

open Lib Lib.Tx

/-- `IdempotencyResult`. -/
structure IdempotencyResult where
  id : Uuid
  replayed : Bool
  resultReference : Option String
  resultState : Option String
  resultVersion : Option ℕ
  deriving DecidableEq, Repr

/-- `committeeId`. -/
def committeeId (reference : String) : DbTx Uuid := do
  requireOpaqueReference reference "committee reference"
  let db ← get
  let row ← found (db.committees.find? fun c => c.externalReference = reference) .tenantBoundary
  return row.id

/-- The scope of the idempotency keys of a committee. -/
def idempotencyScope (context : CommandContext) : String :=
  "committee:" ++ context.committeeReference

/-- The record that has taken a key in a scope, if any. -/
def Db.idempotencyAt (db : Db) (scope keyHash : String) : Option IdempotencyRecord :=
  db.idempotency.find? fun r => r.scope = scope && r.keyHash = keyHash

/-- The record that a context's key has taken, if any. -/
def Db.idempotencyRecord (db : Db) (context : CommandContext) : Option IdempotencyRecord :=
  db.idempotencyAt (idempotencyScope context) (sha256 context.idempotencyKey)

/-- The record that `beginIdempotency` inserts. -/
def startedRecord (id : Uuid) (scope : String) (committeeId : Option Uuid) (command : String)
    (context : CommandContext) : IdempotencyRecord :=
  { id, scope
    keyHash := sha256 context.idempotencyKey
    requestDigest := context.requestDigest
    command
    actorType := context.actor.type
    actorReference := context.actor.reference
    committeeId
    state := .started
    resultDigest := none
    resultReference := none
    resultState := none
    resultVersion := none }

/-- The statements of `beginIdempotency`.  Its copies differ in the scope they take the key in and
in the committee they store. -/
def beginIdempotencyIn (scope : String) (committeeId : Option Uuid) (command : String)
    (context : CommandContext) : DbTx IdempotencyResult := do
  let db ← get
  let id ← newId
  match db.idempotencyAt scope (sha256 context.idempotencyKey) with
  | none =>
    modify fun db => { db with
      idempotency := db.idempotency ++ [startedRecord id scope committeeId command context] }
    return { id, replayed := false
             resultReference := none, resultState := none, resultVersion := none }
  | some row =>
    require (row.requestDigest = context.requestDigest ∧ row.command = command ∧
      row.committeeId = committeeId ∧ row.state = .completed) .idempotencyConflict
    require (truthy row.resultReference = true ∧ truthy row.resultState = true ∧
      0 < row.resultVersion.getD 0) .idempotencyConflict
    return { id := row.id, replayed := true
             resultReference := row.resultReference
             resultState := row.resultState
             resultVersion := row.resultVersion }

/-- `beginIdempotency`. -/
def beginIdempotency (committeeId : Uuid) (command : String) (context : CommandContext) :
    DbTx IdempotencyResult :=
  beginIdempotencyIn (idempotencyScope context) (some committeeId) command context

/-- `completeIdempotency`. -/
def completeIdempotency (id : Uuid) (reference : String) (version : ℕ) (state : String) :
    DbTx Unit :=
  modify fun db => { db with
    idempotency := Table.set (fun r => r.id = id && r.state = .started)
      (fun r => { r with
        state := .completed
        resultDigest := some (sha256 (reference ++ "|" ++ toString version ++ "|" ++ state))
        resultReference := some reference
        resultVersion := some version
        resultState := some state })
      db.idempotency }

/-- `INSERT INTO "outbox_event"`: the columns a producer gives; the rest are defaults. -/
def insertOutboxEvent (id : Uuid) (committeeId : Option Uuid) (eventType aggregateType
    aggregateReference schemaVersion payloadReference payloadDigest idempotencyKeyHash : String) :
    DbTx Unit := do
  let db ← get
  requireUnique db.outbox (fun o => o.id = id) "outbox_event_pkey"
  requireUnique db.outbox (fun o => o.idempotencyKeyHash = idempotencyKeyHash)
    "outbox_event_idempotency_key_hash_key"
  modify fun db => { db with
    outbox := db.outbox ++ [
      { id, committeeId, eventType, aggregateType, aggregateReference, schemaVersion
        payloadReference, payloadDigest, idempotencyKeyHash
        state := .pending
        availableAt := db.currentTimestamp
        leaseOwner := none
        leaseAcquiredAt := none
        leaseExpiresAt := none
        attemptCount := 0
        lastErrorClass := none
        createdAt := db.currentTimestamp
        completedAt := none }] }

/-- The outbox key of an event a command adds. -/
def outboxKeyHash (context : CommandContext) (eventType : String) : String :=
  sha256 (context.committeeReference ++ "|" ++ context.idempotencyKey ++ "|" ++ eventType)

/-! ## Frame -/

theorem keeps_committeeId {τ : Type} (f : Db → τ) (reference : String) :
    Keeps f (committeeId reference) :=
  keeps_require.bind fun _ => keeps_get.bind fun _ => keeps_found.bind fun _ => keeps_pure

/-- Taking a key only changes the idempotency records and draws an identifier. -/
theorem keeps_beginIdempotencyIn {τ : Type} {f : Db → τ}
    (hf : ∀ db records n, f { db with idempotency := records, nextId := n } = f db)
    (scope : String) (committeeId : Option Uuid) (command : String) (context : CommandContext) :
    Keeps f (beginIdempotencyIn scope committeeId command context) := by
  refine keeps_get.bind fun db => ?_
  refine (keeps_newId fun db n => hf db db.idempotency n).bind fun id => ?_
  split
  · exact (keeps_modify fun db => hf db _ db.nextId).bind fun _ => keeps_pure
  · exact keeps_require.bind fun _ => keeps_require.bind fun _ => keeps_pure

theorem keeps_beginIdempotency {τ : Type} {f : Db → τ}
    (hf : ∀ db records n, f { db with idempotency := records, nextId := n } = f db)
    (committeeId : Uuid) (command : String) (context : CommandContext) :
    Keeps f (beginIdempotency committeeId command context) :=
  keeps_beginIdempotencyIn hf _ _ _ _

theorem grows_beginIdempotencyIn (scope : String) (committeeId : Option Uuid) (command : String)
    (context : CommandContext) :
    Grows Db.nextId (beginIdempotencyIn scope committeeId command context) := by
  refine keeps_get.grows.bind fun db => grows_newId.bind fun id => ?_
  split
  · exact ((keeps_modify fun db => by rfl).bind fun _ => keeps_pure).grows
  · exact (keeps_require.bind fun _ => keeps_require.bind fun _ => keeps_pure).grows

theorem grows_beginIdempotency (committeeId : Uuid) (command : String) (context : CommandContext) :
    Grows Db.nextId (beginIdempotency committeeId command context) :=
  grows_beginIdempotencyIn _ _ _ _

theorem keeps_completeIdempotency (id : Uuid) (reference : String) (version : ℕ)
    (state : String) : Keeps Db.toDomainTables (completeIdempotency id reference version state) :=
  keeps_modify fun _ => rfl

theorem keeps_insertOutboxEvent (id : Uuid) (committeeId : Option Uuid) (eventType aggregateType
    aggregateReference schemaVersion payloadReference payloadDigest keyHash : String) :
    Keeps Db.toDomainTables (insertOutboxEvent id committeeId eventType aggregateType
      aggregateReference schemaVersion payloadReference payloadDigest keyHash) :=
  keeps_get.bind fun _ => keeps_require.bind fun _ => keeps_require.bind fun _ =>
    keeps_modify fun _ => rfl

/-! ## Acceptance -/

/-- A committee reference resolves to the committee that has it. -/
theorem commits_committeeId {reference : String} {db db' : Db} {id : Uuid} :
    Commits (committeeId reference) db id db' ↔
      (isOpaqueReference reference = true ∧ '@' ∉ reference.toList) ∧
        (∃ c, db.committees.find? (fun c => c.externalReference = reference) = some c ∧
          id = c.id) ∧ db' = db := by
  unfold committeeId requireOpaqueReference
  simp only [commits_bind, commits_require, commits_get, commits_found, commits_pure]
  constructor
  · rintro ⟨_, _, ⟨hcode, rfl⟩, _, _, ⟨rfl, rfl⟩, c, _, ⟨hc, rfl⟩, rfl, rfl⟩
    exact ⟨hcode, ⟨c, hc, rfl⟩, rfl⟩
  · rintro ⟨hcode, ⟨c, hc, rfl⟩, rfl⟩
    exact ⟨(), db', ⟨hcode, rfl⟩, db', db', ⟨rfl, rfl⟩, c, db', ⟨hc, rfl⟩, rfl, rfl⟩

theorem commits_committeeId_bind {β : Type} {reference : String} {k : Uuid → DbTx β} {db db' : Db}
    {b : β} :
    Commits (committeeId reference >>= k) db b db' ↔
      (isOpaqueReference reference = true ∧ '@' ∉ reference.toList) ∧
        ∃ c, db.committees.find? (fun c => c.externalReference = reference) = some c ∧
          Commits (k c.id) db b db' := by
  rw [commits_bind]
  simp only [commits_committeeId]
  constructor
  · rintro ⟨_, _, ⟨hcode, ⟨c, hc, rfl⟩, rfl⟩, h⟩
    exact ⟨hcode, c, hc, h⟩
  · rintro ⟨hcode, c, hc, h⟩
    exact ⟨c.id, db, ⟨hcode, ⟨c, hc, rfl⟩, rfl⟩, h⟩

/-- Taking a key inserts a started record, or it finds the completed record of the same call. -/
theorem commits_beginIdempotencyIn {scope : String} {committeeId : Option Uuid} {command : String}
    {context : CommandContext} {db db' : Db} {result : IdempotencyResult} :
    Commits (beginIdempotencyIn scope committeeId command context) db result db' ↔
      (db.idempotencyAt scope (sha256 context.idempotencyKey) = none ∧
        result = ⟨db.nextId, false, none, none, none⟩ ∧
        db' = { db with
          nextId := db.nextId + 1
          idempotency := db.idempotency ++
            [startedRecord db.nextId scope committeeId command context] }) ∨
      ∃ row, db.idempotencyAt scope (sha256 context.idempotencyKey) = some row ∧
        (row.requestDigest = context.requestDigest ∧ row.command = command ∧
          row.committeeId = committeeId ∧ row.state = .completed) ∧
        (truthy row.resultReference = true ∧ truthy row.resultState = true ∧
          0 < row.resultVersion.getD 0) ∧
        result = ⟨row.id, true, row.resultReference, row.resultState, row.resultVersion⟩ ∧
        db' = { db with nextId := db.nextId + 1 } := by
  have hnew : ∀ {k : Uuid → DbTx IdempotencyResult}, Commits (newId >>= k) db result db' ↔
      Commits (k db.nextId) { db with nextId := db.nextId + 1 } result db' := by
    intro k
    simp only [newId, bind_assoc, pure_bind, commits_get_bind, commits_modify_bind]
  simp only [beginIdempotencyIn, commits_get_bind, hnew]
  cases hrow : db.idempotencyAt scope (sha256 context.idempotencyKey) with
  | none =>
    simp only [commits_modify_bind, commits_pure]
    simp
  | some row =>
    simp only [commits_require_bind, commits_pure]
    simp

/-- An unused key starts a new record. -/
theorem beginIdempotencyIn_of_unused {scope : String} {context : CommandContext} {db : Db}
    (hkey : db.idempotencyAt scope (sha256 context.idempotencyKey) = none)
    (committeeId : Option Uuid) (command : String) :
    ∃ result db', Commits (beginIdempotencyIn scope committeeId command context) db result db' ∧
      result.replayed = false := by
  exact ⟨_, _, commits_beginIdempotencyIn.2 (Or.inl ⟨hkey, rfl, rfl⟩), rfl⟩

theorem beginIdempotency_of_unused {context : CommandContext} {db : Db}
    (hkey : db.idempotencyRecord context = none) (committeeId : Uuid) (command : String) :
    ∃ result db', Commits (beginIdempotency committeeId command context) db result db' ∧
      result.replayed = false :=
  beginIdempotencyIn_of_unused hkey _ _

theorem insertOutboxEvent_accepted {id : Uuid} {committeeId : Option Uuid}
    {eventType aggregateType aggregateReference schemaVersion payloadReference payloadDigest
      keyHash : String} {db : Db} (hid : ∀ o ∈ db.outbox, o.id ≠ id)
    (hkey : ∀ o ∈ db.outbox, o.idempotencyKeyHash ≠ keyHash) :
    Accepted (insertOutboxEvent id committeeId eventType aggregateType aggregateReference
      schemaVersion payloadReference payloadDigest keyHash) db := by
  refine (get_commits db).bind_accepted ((require_commits ?_ _ _).bind_accepted
    ((require_commits ?_ _ _).bind_accepted ?_))
  · simpa [List.all_eq_true] using hid
  · simpa [List.all_eq_true] using hkey
  · exact (modify_commits _ _).accepted

end ChecksAndBalances
