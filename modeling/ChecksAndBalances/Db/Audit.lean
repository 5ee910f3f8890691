import ChecksAndBalances.Db.Schema
import ChecksAndBalances.Lib.Table

/-!
# The audit chain

`appendAudit` of `packages/db/src/audit.ts` over the insert trigger `cbc_enforce_audit_chain`: the
database computes the hash of an event from the head of its chain and the text of its row.
-/

namespace ChecksAndBalances

open Lib Lib.Tx

/-- `AuditTarget`. -/
structure AuditTarget where
  type : String
  reference : String
  priorState : Option String
  newState : Option String
  deriving DecidableEq, Repr

/-- A nullable text column in the text of a `jsonb` row. -/
def jsonbText : Option String → String
  | some value => Json.quote value
  | none => "null"

/-- `(to_jsonb(NEW) - 'sequence' - 'event_hash')::text`; `jsonb` orders keys by length. -/
def AuditEvent.text (e : AuditEvent) : String :=
  let member (key value : String) := Json.quote key ++ ": " ++ value
  let members := [
    member "id" (Json.quote (toString e.id)),
    member "result" (Json.quote e.result.name),
    member "command" (Json.quote e.command),
    member "chain_key" (Json.quote e.chainKey),
    member "new_state" (jsonbText e.newState),
    member "actor_type" (Json.quote e.actorType),
    member "occurred_at" (Json.quote (toString e.occurredAt)),
    member "prior_state" (jsonbText e.priorState),
    member "target_type" (Json.quote e.targetType),
    member "committee_id" (jsonbText (e.committeeId.map toString)),
    member "previous_hash" (jsonbText e.previousHash),
    member "correlation_id" (Json.quote e.correlationId),
    member "policy_version" (Json.quote e.policyVersion),
    member "actor_reference" (Json.quote e.actorReference),
    member "reason_category" (Json.quote e.reasonCategory),
    member "software_version" (Json.quote e.softwareVersion),
    member "target_reference" (Json.quote e.targetReference),
    member "idempotency_key_hash" (Json.quote e.idempotencyKeyHash),
    member "authentication_strength" (Json.quote e.authenticationStrength)]
  "\x7b" ++ ", ".intercalate members ++ "\x7d"

/-- The hash at the head of a chain. -/
def Db.chainHead (db : Db) (chainKey : String) : Option String :=
  (db.auditChainHeads.find? fun h => h.chainKey = chainKey).bind AuditChainHead.eventHash

/-- Move the head of a chain; the trigger creates the head at the first event. -/
def setChainHead (head : AuditChainHead) (heads : List AuditChainHead) : List AuditChainHead :=
  if heads.any (fun h => h.chainKey = head.chainKey) then
    Table.set (fun h => h.chainKey = head.chainKey) (fun _ => head) heads
  else heads ++ [head]

/-- The row as it is stored: the database fills in the hash it computes. -/
def AuditEvent.sealed (currentHash : Option String) (event : AuditEvent) : AuditEvent :=
  { event with eventHash := sha256 (currentHash.getD "" ++ "|" ++ event.text) }

/-- `cbc_enforce_audit_chain`: the row the insert trigger lets through. -/
def enforceAuditChain (currentHash : Option String) (event : AuditEvent) :
    Except RepositoryError AuditEvent :=
  if event.previousHash ≠ currentHash then
    .error (.raised ("audit chain mismatch for " ++ event.chainKey))
  else if event.eventHash ≠ "AUTO" ∧ event.eventHash ≠ (event.sealed currentHash).eventHash then
    .error (.raised "audit event hash mismatch")
  else .ok (event.sealed currentHash)

/-- The row that `appendAudit` inserts. -/
def auditEvent (id : Uuid) (chainKey : String) (previousHash : Option String) (occurredAt : ℤ)
    (context : CommandContext) (committeeId : Option Uuid) (command : String)
    (target : AuditTarget) (result : AuditResult) : AuditEvent :=
  { id, chainKey, previousHash
    eventHash := "AUTO"
    actorType := context.actor.type
    actorReference := context.actor.reference
    committeeId, command
    targetType := target.type
    targetReference := target.reference
    priorState := target.priorState
    newState := target.newState
    policyVersion := context.policyVersionReference
    softwareVersion := context.softwareVersion
    reasonCategory := context.reasonCategory
    authenticationStrength := context.actor.authenticationStrength
    correlationId := context.correlationId
    idempotencyKeyHash := sha256 context.idempotencyKey
    result, occurredAt }

/-- `appendAudit`.  The head is read and the row inserted in one transaction, so the trigger always
lets the row through (`enforceAuditChain_auditEvent`). -/
def appendAudit (context : CommandContext) (committeeId : Option Uuid) (command : String)
    (target : AuditTarget) (result : AuditResult := .succeeded) : DbTx String := do
  let db ← get
  let chainKey :=
    if committeeId.isSome then "committee:" ++ context.committeeReference else "global"
  let previousHash := db.chainHead chainKey
  let id ← newId
  let event := (auditEvent id chainKey previousHash db.currentTimestamp context committeeId
    command target result).sealed previousHash
  modify fun db => { db with
    audit := db.audit ++ [event]
    auditChainHeads := setChainHead
      { chainKey, eventId := some id, eventHash := some event.eventHash } db.auditChainHeads }
  return event.eventHash

theorem enforceAuditChain_auditEvent (id : Uuid) (chainKey : String) (head : Option String)
    (occurredAt : ℤ) (context : CommandContext) (committeeId : Option Uuid) (command : String)
    (target : AuditTarget) (result : AuditResult) :
    enforceAuditChain head (auditEvent id chainKey head occurredAt context committeeId command
      target result) = .ok ((auditEvent id chainKey head occurredAt context committeeId command
        target result).sealed head) := by
  simp [enforceAuditChain, auditEvent]

/-! ## Commits -/

theorem commits_newId {db db' : Db} {id : Uuid} :
    Commits newId db id db' ↔ id = db.nextId ∧ db' = { db with nextId := db.nextId + 1 } := by
  unfold newId
  simp only [commits_get_bind, commits_modify_bind, commits_pure]

/-- The chain of an event with the given committee. -/
def auditChainKey (context : CommandContext) (committeeId : Option Uuid) : String :=
  if committeeId.isSome then "committee:" ++ context.committeeReference else "global"

/-- The event that `appendAudit` leaves at the end of the table. -/
def Db.appendedEvent (db : Db) (context : CommandContext) (committeeId : Option Uuid)
    (command : String) (target : AuditTarget) (result : AuditResult) : AuditEvent :=
  (auditEvent db.nextId (auditChainKey context committeeId)
    (db.chainHead (auditChainKey context committeeId)) db.currentTimestamp context committeeId
    command target result).sealed (db.chainHead (auditChainKey context committeeId))

/-- What `appendAudit` writes. -/
theorem commits_appendAudit {db db' : Db} {context : CommandContext} {committeeId : Option Uuid}
    {command : String} {target : AuditTarget} {result : AuditResult} {hash : String} :
    Commits (appendAudit context committeeId command target result) db hash db' ↔
      hash = (db.appendedEvent context committeeId command target result).eventHash ∧
      db' = { db with
        audit := db.audit ++ [db.appendedEvent context committeeId command target result]
        auditChainHeads := setChainHead
          { chainKey := auditChainKey context committeeId, eventId := some db.nextId
            eventHash := some
              (db.appendedEvent context committeeId command target result).eventHash }
          db.auditChainHeads
        nextId := db.nextId + 1 } := by
  unfold appendAudit
  rw [commits_get_bind, commits_bind]
  simp only [commits_newId, commits_modify_bind, commits_pure]
  constructor
  · rintro ⟨_, _, ⟨rfl, rfl⟩, rfl, rfl⟩
    exact ⟨rfl, rfl⟩
  · rintro ⟨rfl, rfl⟩
    exact ⟨db.nextId, _, ⟨rfl, rfl⟩, rfl, rfl⟩

/-! ## Frame and acceptance -/

variable {τ : Type}

theorem keeps_newId {f : Db → τ} (hf : ∀ db n, f { db with nextId := n } = f db) :
    Keeps f newId :=
  keeps_get.bind fun _ => (keeps_modify fun _ => hf _ _).bind fun _ => keeps_pure

/-- The identifiers drawn only grow. -/
theorem grows_newId : Grows Db.nextId newId := by
  refine keeps_get.grows.bind fun _ => Grows.bind ?_ fun _ => keeps_pure.grows
  exact grows_modify fun db => Nat.le_succ db.nextId

theorem newId_commits (db : Db) :
    Commits newId db db.nextId { db with nextId := db.nextId + 1 } :=
  commits_bind.2 ⟨db, db, get_commits db,
    commits_bind.2 ⟨(), _, modify_commits _ db, commits_pure.2 ⟨rfl, rfl⟩⟩⟩

theorem keeps_useId {f : Db → τ} (hf : ∀ db n, f { db with nextId := n } = f db)
    (id : Option Uuid) : Keeps f (useId id) := by
  cases id with
  | none => exact keeps_newId hf
  | some id => exact (keeps_modify fun _ => hf _ _).bind fun _ => keeps_pure

/-- An audit event only changes the audit tables and draws an identifier. -/
theorem keeps_appendAudit {f : Db → τ}
    (hf : ∀ db audit heads n,
      f { db with audit := audit, auditChainHeads := heads, nextId := n } = f db)
    (context : CommandContext) (committeeId : Option Uuid) (command : String)
    (target : AuditTarget) (result : AuditResult) :
    Keeps f (appendAudit context committeeId command target result) := by
  refine keeps_get.bind fun _ => (keeps_newId fun db n => hf db db.audit _ n).bind fun _ => ?_
  exact (keeps_modify fun db => hf db _ _ db.nextId).bind fun _ => keeps_pure

theorem grows_appendAudit (context : CommandContext) (committeeId : Option Uuid) (command : String)
    (target : AuditTarget) (result : AuditResult) :
    Grows Db.nextId (appendAudit context committeeId command target result) := by
  refine keeps_get.grows.bind fun _ => grows_newId.bind fun _ => ?_
  exact ((keeps_modify fun _ => by rfl).bind fun _ => keeps_pure).grows

theorem appendAudit_accepted (context : CommandContext) (committeeId : Option Uuid)
    (command : String) (target : AuditTarget) (result : AuditResult) (db : Db) :
    Accepted (appendAudit context committeeId command target result) db := by
  refine (get_commits db).bind_accepted ((newId_commits db).bind_accepted ?_)
  exact (modify_commits _ _).bind_accepted accepted_pure

end ChecksAndBalances
