import ChecksAndBalances.Attestation.Commands
import ChecksAndBalances.Audit.Growth
import ChecksAndBalances.Audit.Stores
import ChecksAndBalances.Auth.Keys
import ChecksAndBalances.Lifecycle.Scopes
import ChecksAndBalances.Outbox.SingleWriter
import ChecksAndBalances.Verus.Equality

/-!
# The audit chains of a run

The commands of all repositories as the labels of one system over the database.  In every run from a
database without audit events each chain is one list: it starts without a previous hash, every event
names the hash of the event before it and is sealed by its own, and the chain head holds the last
hash.  No run removes or changes an event.
-/

namespace ChecksAndBalances

open Lib Lib.Tx

/-! ## The system -/

/-- A transaction of one of the repositories, or a change elsewhere. -/
inductive RepositoryCall where
  /-- A command on verification requests or attestations, or the passing of time. -/
  | command (command : Command)
  | lifecycle (call : LifecycleCall)
  | outbox (command : OutboxCommand) (observedAt : ℤ)
  | job (eventId : Uuid) (worker : OutboxWorkerContext) (observedAt : ℤ)
      (operation : JobOperation)
  | enqueueAnchor (input : EnqueueVerusAnchorInput) (context : CommandContext)
  | link (command : LinkCommand)
  | auth (call : ServiceCall)
  /-- Everything else that happens to the database. -/
  | elsewhere (db : Db)

/-- The database after a call; a rejected call leaves it as it was, and only the repositories write
the audit tables and the idempotency records. -/
def RepositoryCall.exec [Host] (config : AuthConfig) (db : Db) : RepositoryCall → Option Db
  | .command c => some (db.exec c)
  | .lifecycle c => some (commit c.run db)
  | .outbox c observedAt => some (c.exec db observedAt)
  | .job eventId worker observedAt operation =>
    some (commit (operation.exec eventId worker observedAt) db)
  | .enqueueAnchor input context =>
    some (commit (VerusJobRepository.enqueueAnchor input context) db)
  | .link c => some (commit c.exec db)
  | .auth c => some ((c.exec config).elim db fun t => commit t db)
  | .elsewhere db' => if db'.ledgers = db.ledgers then some db' else none

/-- Some run of calls of the repositories leads from one database to the other. -/
def Db.Leads [Host] (config : AuthConfig) : Db → Db → Prop :=
  Reach (RepositoryCall.exec config) fun _ _ => True

section Bounds

variable {R : Db → Db → Prop} [IsPreorder Db R] (hR : Bounds R) {db db' : Db}

include hR

theorem Bounds.exec (command : Command) : R db (db.exec command) := by
  cases command with
  | createRequest input => exact (hR.createRequest input).commit db
  | transition command input =>
    cases command <;> exact (hR.verificationTransition _ _ input).commit db
  | recordReviewDecision input => exact (hR.recordReviewDecision input).commit db
  | issue input => exact (hR.issue input).commit db
  | activate input => exact (hR.changeActiveState _ input).commit db
  | expire input => exact (hR.changeActiveState _ input).commit db
  | revoke input => exact (hR.revoke input).commit db
  | clock now => exact hR.rest _ _ rfl

theorem Bounds.outboxCommand (command : OutboxCommand) (observedAt : ℤ) :
    R db (command.exec db observedAt) := by
  cases command with
  | claimNext worker leaseDurationMs options locked =>
    exact (hR.claimNext _ _ _ _ _).commit db
  | heartbeat eventId worker leaseDurationMs => exact (hR.heartbeat _ _ _ _).commit db
  | succeed eventId worker => exact (hR.succeed _ _ _).commit db
  | failRetryable eventId worker settings errorClass =>
    exact (hR.failRetryable _ _ _ _ _).commit db
  | failTerminal eventId worker errorClass => exact (hR.failTerminal _ _ _ _).commit db
  | insert committeeId eventType aggregateType aggregateReference schemaVersion payloadReference
      payloadDigest idempotencyKeyHash =>
    refine Within.commit (hR.newId.bind fun _ => ?_) db
    exact hR.insertOutboxEvent _ _ _ _ _ _ _ _ _

/-- What bounds the ledgers bounds every call. -/
theorem Bounds.call [Host] {config : AuthConfig} {call : RepositoryCall}
    (h : call.exec config db = some db') : R db db' := by
  cases call with
  | command command =>
    obtain rfl := Option.some.inj h
    exact hR.exec command
  | lifecycle call =>
    obtain rfl := Option.some.inj h
    exact (hR.lifecycleTransition _ _ _).commit db
  | outbox command observedAt =>
    obtain rfl := Option.some.inj h
    exact hR.outboxCommand command observedAt
  | job eventId worker observedAt operation =>
    obtain rfl := Option.some.inj h
    exact (hR.jobOperation _ _ _ operation).commit db
  | enqueueAnchor input context =>
    obtain rfl := Option.some.inj h
    exact (hR.enqueueAnchor input context).commit db
  | link command =>
    obtain rfl := Option.some.inj h
    exact (hR.linkCommand command).commit db
  | auth call =>
    obtain rfl := Option.some.inj h
    cases hcall : call.exec config with
    | none => exact refl db
    | some t => exact (hR.serviceCall config hcall).commit db
  | elsewhere db₁ =>
    obtain ⟨hledgers, hdb⟩ := Option.ite_none_right_eq_some.1 h
    obtain rfl := Option.some.inj hdb
    exact hR.rest _ _ hledgers

/-- What bounds the ledgers bounds every run. -/
theorem Bounds.leads [Host] {config : AuthConfig} (h : db.Leads config db') : R db db' := by
  refine h.invariant (I := R db) (refl db) ?_
  intro db₁ call db₂ hfirst _ hcall
  exact IsTrans.trans _ _ _ hfirst (hR.call hcall)

end Bounds

/-! ## The chains -/

/-- The audit tables grow by genuine events that continue their chains. -/
theorem bounds_auditGrows : Bounds Db.AuditGrows where
  rest db db' h := by
    apply Db.auditGrows_of_tables
    unfold Db.ledgers at h
    simp only [Prod.mk.injEq] at h
    rw [Db.auditTables, h.1, h.2.1]
    rfl
  audit := auditGrows_appendAudit
  begins scope committeeId command context :=
    (keeps_beginIdempotencyIn (f := Db.auditTables) (fun _ _ _ => rfl) _ _ _ _).within
      fun _ _ h => Db.auditGrows_of_tables h
  completes id reference version state := by
    refine Keeps.within (f := Db.auditTables) (keeps_modify ?_) fun _ _ h =>
      Db.auditGrows_of_tables h
    intro db
    rfl

/-- The events of a chain. -/
def Db.auditChain (db : Db) (chainKey : String) : List AuditEvent :=
  HashChain.onChain AuditEvent.chainKey chainKey db.audit

/-- The events form one chain that ends in the hash, and each is sealed by its own hash. -/
structure IntactChain (events : List AuditEvent) (head : Option String) : Prop where
  linked : Walk AuditEvent.previousHash (fun e => some e.eventHash) none events head
  hash_eq : ∀ e ∈ events, e.eventHash = sha256 e.input

/-- The events of a run are genuine, and each chain is intact and ends in its head. -/
theorem Db.Leads.intact [Host] {config : AuthConfig} {db₀ db : Db} (h : db₀.Leads config db)
    (hevents : db₀.audit = []) (hheads : db₀.auditChainHeads = []) :
    (∀ e ∈ db.audit, e.Genuine) ∧
      ∀ chainKey, IntactChain (db.auditChain chainKey) (db.chainHead chainKey) := by
  obtain ⟨events, haudit, hgenuine, hcontinues⟩ := bounds_auditGrows.leads h
  rw [hevents, List.nil_append] at haudit
  rw [← haudit] at hgenuine hcontinues
  refine ⟨hgenuine, fun chainKey => ⟨?_, fun e he => ?_⟩⟩
  · have hstart : db₀.chainHead chainKey = none := by
      simp [Db.chainHead, hheads]
    have hwalk := hcontinues chainKey
    rwa [hstart] at hwalk
  · exact (hgenuine e (List.mem_of_mem_filter he)).hash_eq

/-- In every run of the repositories each chain is intact and ends in its head, the events without a
committee are the ones on the global chain, and later databases keep all events. -/
theorem audit_chains_intact [Host] {config : AuthConfig} {db₀ db db' : Db}
    (hevents : db₀.audit = []) (hheads : db₀.auditChainHeads = [])
    (h : db₀.Leads config db) (h' : db.Leads config db') (chainKey : String) :
    IntactChain (db.auditChain chainKey) (db.chainHead chainKey) ∧
      (∀ e ∈ db.auditChain chainKey, chainKey = "global" ↔ e.committeeId = none) ∧
      db.auditChain chainKey <+: db'.auditChain chainKey := by
  obtain ⟨hgenuine, hintact⟩ := h.intact hevents hheads
  refine ⟨hintact chainKey, fun e he => ?_, ?_⟩
  · obtain ⟨hmem, hkey⟩ := List.mem_filter.1 he
    rw [← of_decide_eq_true hkey]
    exact (hgenuine e hmem).global_iff
  · obtain ⟨added, haudit, -⟩ := bounds_auditGrows.leads h'
    unfold Db.auditChain
    rw [haudit, HashChain.onChain_append]
    exact List.prefix_append _ _

namespace AuditSample

open Json.EqualitySample

theorem leads_exec (db : Db) (command : Command) : db.Leads AuthSample.config (db.exec command) :=
  (Reach.refl db).tail (a := RepositoryCall.command command) trivial rfl

theorem leads_foldl (commands : List Command) (db : Db) :
    db.Leads AuthSample.config (commands.foldl Db.exec db) := by
  induction commands generalizing db with
  | nil => exact Reach.refl db
  | cons command commands ih => exact (leads_exec db command).trans (ih _)

theorem leads_approved : Sample.db.Leads AuthSample.config Sample.approved := leads_foldl _ _

theorem leads_offered : Sample.approved.Leads AuthSample.config Sample.offered := leads_exec _ _

/-- The chain of the sample committee, before and after an attestation is issued. -/
theorem audit_chains_intact_approved :
    IntactChain (Sample.approved.auditChain "committee:committee_one")
        (Sample.approved.chainHead "committee:committee_one") ∧
      (∀ e ∈ Sample.approved.auditChain "committee:committee_one",
        "committee:committee_one" = "global" ↔ e.committeeId = none) ∧
      Sample.approved.auditChain "committee:committee_one" <+:
        Sample.offered.auditChain "committee:committee_one" :=
  audit_chains_intact (show Sample.db.audit = [] from rfl) rfl leads_approved leads_offered _

end AuditSample

end ChecksAndBalances
