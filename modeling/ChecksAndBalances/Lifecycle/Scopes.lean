import ChecksAndBalances.Lifecycle.Transition

/-!
# Idempotency scopes

Two lifecycle commands on different targets, under keys of different scopes.  The records of the
keys keep the scopes apart.  The outbox event does not: its key is a hash of the committee
reference, the key and the command, and for a row without a committee nothing ties the committee
reference to the scope.  So the second command fails exactly when both are new and their outbox
keys meet.
-/

namespace ChecksAndBalances

open Lib Lib.Tx

namespace TableConfig

variable {Row State Command : Type} (t : TableConfig Row State Command)

/-! ## What a new transition leaves -/

/-- What the announcement has checked and what it leaves. -/
theorem commits_announce {command : Command} {row : Row} {next : State} {version : ℕ}
    {input : LifecycleTransitionInput} {db db' : Db}
    (h : Commits (t.announce command row next version input) db () db') :
    (∀ o ∈ db.outbox, o.idempotencyKeyHash ≠ outboxKeyHash input.context (t.commandName command)) ∧
      ∃ event audit heads, event.idempotencyKeyHash =
          outboxKeyHash input.context (t.commandName command) ∧
        event.id < db.nextId + 2 ∧
        db' = { db with
          outbox := db.outbox ++ [event]
          audit := audit
          auditChainHeads := heads
          nextId := db.nextId + 2 } := by
  unfold announce at h
  obtain ⟨hash, db₁, haudit, h⟩ := commits_bind.1 h
  obtain ⟨-, rfl⟩ := commits_appendAudit.1 haudit
  obtain ⟨id, db₂, hid, h⟩ := commits_bind.1 h
  obtain ⟨rfl, rfl⟩ := commits_newId.1 hid
  simp only [insertOutboxEvent, requireUnique, commits_get_bind, commits_require_bind,
    commits_modify, List.all_eq_true, Bool.not_eq_true', decide_eq_false_iff_not] at h
  obtain ⟨-, hkey, rfl⟩ := h
  exact ⟨hkey, _, _, _, rfl, Nat.lt_succ_self _, rfl⟩

/-- The database with the row advanced. -/
def advanced (db : Db) (row : Row) (next : State) (input : LifecycleTransitionInput) : Db :=
  t.withRows db (Table.set (fun r => t.id r = t.id row) (t.assign next input) (t.rows db))

/-- What a new transition leaves for other commands. -/
structure Effect (db db' : Db) (command : Command) (input : LifecycleTransitionInput) (row : Row)
    (next : State) : Prop where
  tables : ∃ db₀ : Db, db₀.toDomainTables = db.toDomainTables ∧
    db₀.toLifecycleTables = db.toLifecycleTables ∧
    db'.toDomainTables = (t.advanced db₀ row next input).toDomainTables ∧
    db'.toLifecycleTables = (t.advanced db₀ row next input).toLifecycleTables
  auth : db'.toAuthTables = db.toAuthTables
  outbox : ∃ event, event.idempotencyKeyHash = outboxKeyHash input.context (t.commandName command) ∧
    event.id < db'.nextId ∧ db'.outbox = db.outbox ++ [event]
  newIds : db.nextId ≤ db'.nextId
  records : ∀ other keyHash, other ≠ scope (t.committeeId row) input.context →
    (db.idempotencyAt other keyHash = none → db'.idempotencyAt other keyHash = none) ∧
    ∀ r, db.idempotencyAt other keyHash = some r → r.state = .completed →
      db'.idempotencyAt other keyHash = some r

/-- A new record and its completion leave the other scopes alone. -/
theorem idempotencyAt_completed {records : List IdempotencyRecord} {new : IdempotencyRecord}
    {other keyHash : String} (hother : other ≠ new.scope) (id : Uuid)
    {f : IdempotencyRecord → IdempotencyRecord} (hscope : ∀ r, (f r).scope = r.scope)
    (hkeyHash : ∀ r, (f r).keyHash = r.keyHash) :
    (Table.set (fun r => r.id = id && r.state = .started) f (records ++ [new])).find?
        (fun r => r.scope = other && r.keyHash = keyHash) =
      (records.find? fun r => r.scope = other && r.keyHash = keyHash).map
        fun r => if r.id = id && r.state = .started then f r else r := by
  rw [Table.find?_set (fun r => by rw [hscope, hkeyHash]), List.find?_append]
  have hnew : [new].find? (fun r => r.scope = other && r.keyHash = keyHash) = none := by
    simp [Ne.symm hother]
  rw [hnew, Option.or_none]

/-- A transition under an unused key has passed every check, and it advances its row, takes the
outbox key and completes its record. -/
theorem effect_of_unused {db db' : Db} {command : Command} {input : LifecycleTransitionInput}
    {record : LifecycleRecord} {row : Row} (hunique : Table.Unique t.id (t.rows db))
    (hrow : (t.rows db).find? (fun r => t.externalReference r = input.externalReference) = some row)
    (hkey : db.idempotencyAt (scope (t.committeeId row) input.context)
      (sha256 input.context.idempotencyKey) = none)
    (h : Commits (t.transition command input) db record db') :
    ∃ next, t.Prepared db command input row next ∧
      t.guard db.toAuthTables row (t.assign next input row) = .ok () ∧
      (∀ o ∈ db.outbox,
        o.idempotencyKeyHash ≠ outboxKeyHash input.context (t.commandName command)) ∧
      t.Effect db db' command input row next := by
  have hmem : row ∈ t.rows db := (Table.mem_of_find? hrow).1
  obtain ⟨hcode, row', hrow', htenant, hown, idempotency, db₁, hbegin, h⟩ :=
    t.commits_transition.1 h
  obtain rfl : row = row' := Option.some.inj (hrow.symm.trans hrow')
  rcases commits_beginIdempotencyIn.1 hbegin with ⟨-, rfl, hdb₁⟩ | ⟨taken, htaken, -⟩
  · rcases h with ⟨hreplayed, -⟩ | ⟨-, next, version, db₂, db₃, hadvance, hannounce, hcomplete, -⟩
    · cases hreplayed
    · have hrows : t.rows db₁ = t.rows db := by rw [hdb₁, rows_taken]
      rw [t.commits_advance_of_unique (by rwa [hrows]) (by rwa [hrows])] at hadvance
      obtain ⟨hversion, hdomain, hpre, hguard, -, hdb₂⟩ := hadvance
      obtain ⟨hfree, event, audit, heads, heventKey, heventId, hdb₃⟩ := t.commits_announce hannounce
      have hdb' := commits_modify.1 hcomplete
      have hbesides : db₂.besides = db₁.besides := by rw [hdb₂, t.besides_withRows]
      simp only [Db.besides, Prod.mk.injEq] at hbesides
      obtain ⟨hwork, hauth, hrecords, -, -, hnext, -⟩ := hbesides
      have houtbox : db₂.outbox = db.outbox := by
        rw [show db₂.outbox = db₁.outbox from congrArg WorkTables.outbox hwork, hdb₁]
      have hauth₁ : db₁.toAuthTables = db.toAuthTables := by rw [hdb₁]
      refine ⟨next, ⟨hcode, hrow, htenant, hown, hversion, hdomain, ?_⟩, ?_, ?_, ?_, ?_, ?_, ?_, ?_⟩
      · rw [hdb₁] at hpre
        exact hpre
      · rwa [hauth₁] at hguard
      · rwa [houtbox] at hfree
      · refine ⟨db₁, by rw [hdb₁], by rw [hdb₁], ?_, ?_⟩
        · rw [hdb', hdb₃]
          show db₂.toDomainTables = _
          rw [hdb₂]
          rfl
        · rw [hdb', hdb₃]
          show db₂.toLifecycleTables = _
          rw [hdb₂]
          rfl
      · rw [hdb', hdb₃, ← hauth₁, ← hauth]
      · refine ⟨event, heventKey, ?_, ?_⟩
        · rw [hdb', hdb₃]
          exact heventId
        · rw [hdb', hdb₃, ← houtbox]
      · rw [hdb', hdb₃]
        show db.nextId ≤ db₂.nextId + 2
        rw [hnext, hdb₁]
        exact Nat.le_add_right db.nextId 3
      · intro other keyHash hother
        obtain ⟨f, hlookup⟩ : ∃ f : IdempotencyRecord → IdempotencyRecord,
            db'.idempotencyAt other keyHash = (db.idempotencyAt other keyHash).map
              fun r => if r.id = db.nextId && r.state = .started then f r else r := by
          rw [hdb', hdb₃]
          simp only [Db.idempotencyAt, hrecords, hdb₁]
          exact ⟨_, idempotencyAt_completed hother _ (fun _ => rfl) fun _ => rfl⟩
        rw [hlookup]
        refine ⟨fun hnone => by rw [hnone]; rfl, fun r hr hcompleted => ?_⟩
        rw [hr]
        simp [hcompleted]
  · rw [hkey] at htaken
    cases htaken

/-- The stored answer of a call, for a repetition of it. -/
structure Repeated (db : Db) (command : Command) (input : LifecycleTransitionInput) (row : Row)
    (taken : IdempotencyRecord) : Prop where
  isOpaque : isOpaqueReference input.externalReference = true ∧
    '@' ∉ input.externalReference.toList
  loaded : (t.rows db).find? (fun r => t.externalReference r = input.externalReference) = some row
  tenant : truthy (t.committeeReference db.toDomainTables row) = true →
    t.committeeReference db.toDomainTables row = some input.context.committeeReference
  ownTenant : t.table = "committee" → t.externalReference row = input.context.committeeReference
  found : db.idempotencyAt (scope (t.committeeId row) input.context)
    (sha256 input.context.idempotencyKey) = some taken
  sameCall : taken.requestDigest = input.context.requestDigest ∧
    taken.command = t.commandName command ∧ taken.committeeId = t.committeeId row ∧
    taken.state = .completed
  answer : truthy taken.resultReference = true ∧ truthy taken.resultState = true ∧
    0 < taken.resultVersion.getD 0
  sameTarget : taken.resultReference = some input.externalReference

/-- A repeated call is answered from its record, and draws an identifier. -/
theorem commits_transition_of_taken {db db' : Db} {command : Command}
    {input : LifecycleTransitionInput} {record : LifecycleRecord} {row : Row}
    {taken : IdempotencyRecord}
    (hrow : (t.rows db).find? (fun r => t.externalReference r = input.externalReference) = some row)
    (hkey : db.idempotencyAt (scope (t.committeeId row) input.context)
      (sha256 input.context.idempotencyKey) = some taken)
    (h : Commits (t.transition command input) db record db') :
    t.Repeated db command input row taken ∧ db' = { db with nextId := db.nextId + 1 } := by
  obtain ⟨hcode, row', hrow', htenant, hown, idempotency, db₁, hbegin, h⟩ :=
    t.commits_transition.1 h
  obtain rfl : row = row' := Option.some.inj (hrow.symm.trans hrow')
  rcases commits_beginIdempotencyIn.1 hbegin with ⟨hnone, -, -⟩ | ⟨r, hr, hsame, hanswer, rfl, rfl⟩
  · rw [hkey] at hnone
    cases hnone
  · obtain rfl : taken = r := Option.some.inj (hkey.symm.trans hr)
    rcases h with ⟨-, ⟨htarget, -, -⟩, -, rfl⟩ | ⟨hreplayed, -⟩
    · exact ⟨⟨hcode, hrow, htenant, hown, hkey, hsame, hanswer, htarget⟩, rfl⟩
    · cases hreplayed

theorem Repeated.accepted {db : Db} {command : Command} {input : LifecycleTransitionInput}
    {row : Row} {taken : IdempotencyRecord} (h : t.Repeated db command input row taken) :
    Accepted (t.transition command input) db :=
  ⟨_, _, t.commits_transition.2 ⟨h.isOpaque, row, h.loaded, h.tenant, h.ownTenant, _, _,
    commits_beginIdempotencyIn.2 (Or.inr ⟨taken, h.found, h.sameCall, h.answer, rfl, rfl⟩),
    Or.inl ⟨rfl, ⟨h.sameTarget, h.answer.2⟩, rfl, rfl⟩⟩⟩

/-- Everything that a call on the row reads, besides the outbox, is as before. -/
structure Undisturbed (db db' : Db) (input : LifecycleTransitionInput) (row : Row) : Prop where
  loaded : (t.rows db').find? (fun r => t.externalReference r = input.externalReference) = some row
  unique : Table.Unique t.id (t.rows db')
  committee : t.committeeReference db'.toDomainTables row =
    t.committeeReference db.toDomainTables row
  artifacts : ∀ command, t.validatePreconditions db'.toLifecycleTables command row input =
    t.validatePreconditions db.toLifecycleTables command row input
  auth : db'.toAuthTables = db.toAuthTables
  unused : db.idempotencyAt (scope (t.committeeId row) input.context)
      (sha256 input.context.idempotencyKey) = none →
    db'.idempotencyAt (scope (t.committeeId row) input.context)
      (sha256 input.context.idempotencyKey) = none
  completed : ∀ r, db.idempotencyAt (scope (t.committeeId row) input.context)
      (sha256 input.context.idempotencyKey) = some r → r.state = .completed →
    db'.idempotencyAt (scope (t.committeeId row) input.context)
      (sha256 input.context.idempotencyKey) = some r

section Undisturbed

variable {t} {db db' : Db} {command : Command} {input : LifecycleTransitionInput} {row : Row}

theorem Prepared.undisturbed {next : State} (h : t.Prepared db command input row next)
    (hu : t.Undisturbed db db' input row) : t.Prepared db' command input row next where
  isOpaque := h.isOpaque
  loaded := hu.loaded
  tenant := by rw [hu.committee]; exact h.tenant
  ownTenant := h.ownTenant
  version := h.version
  domain := h.domain
  preconditions := by rw [hu.artifacts]; exact h.preconditions

theorem Repeated.undisturbed {taken : IdempotencyRecord}
    (h : t.Repeated db command input row taken) (hu : t.Undisturbed db db' input row) :
    t.Repeated db' command input row taken where
  isOpaque := h.isOpaque
  loaded := hu.loaded
  tenant := by rw [hu.committee]; exact h.tenant
  ownTenant := h.ownTenant
  found := hu.completed taken h.found h.sameCall.2.2.2
  sameCall := h.sameCall
  answer := h.answer
  sameTarget := h.sameTarget

/-- A call that would have committed still does, unless it is new and its outbox key is taken. -/
theorem Undisturbed.accepted_iff (hu : t.Undisturbed db db' input row)
    (hunique : Table.Unique t.id (t.rows db))
    (hrow : (t.rows db).find? (fun r => t.externalReference r = input.externalReference) = some row)
    (hids : ∀ o ∈ db'.outbox, o.id < db'.nextId) (h : Accepted (t.transition command input) db) :
    Accepted (t.transition command input) db' ↔
      (db.idempotencyAt (scope (t.committeeId row) input.context)
          (sha256 input.context.idempotencyKey) = none →
        ∀ o ∈ db'.outbox,
          o.idempotencyKeyHash ≠ outboxKeyHash input.context (t.commandName command)) := by
  obtain ⟨record, db₂, h⟩ := h
  cases hkey : db.idempotencyAt (scope (t.committeeId row) input.context)
      (sha256 input.context.idempotencyKey) with
  | none =>
    obtain ⟨next, hprepared, hguard, -, -⟩ := t.effect_of_unused hunique hrow hkey h
    constructor
    · rintro ⟨record', db₃, h'⟩ -
      obtain ⟨-, -, -, hfree, -⟩ := t.effect_of_unused hu.unique hu.loaded (hu.unused hkey) h'
      exact hfree
    · intro hfree
      rw [t.transition_accepted_iff (hprepared.undisturbed hu) ⟨hu.unused hkey, hfree rfl, hids⟩
        hu.unique, hu.auth]
      exact hguard
  | some taken =>
    have hrepeated := (t.commits_transition_of_taken hrow hkey h).1
    exact iff_of_true (hrepeated.undisturbed hu).accepted nofun

end Undisturbed

end TableConfig

/-! ## What another command reads -/

namespace LifecycleEntity

open LifecycleRepository TableConfig

variable {e₁ e₂ : LifecycleEntity}

theorem externalReference_assign (e : LifecycleEntity) (next : e.State)
    (input : LifecycleTransitionInput) (row : e.Row) :
    e.config.externalReference (e.config.assign next input row) = e.config.externalReference row := by
  cases e <;> rfl

/-- A table is moved by its own commands only. -/
theorem rows_advanced_of_ne (hne : e₂ ≠ e₁) (db : Db) (row : e₁.Row) (next : e₁.State)
    (input : LifecycleTransitionInput) :
    e₂.config.rows (e₁.config.advanced db row next input) = e₂.config.rows db := by
  cases e₁ <;> cases e₂ <;> first | rfl | exact absurd rfl hne

theorem rows_advanced (e : LifecycleEntity) (db : Db) (row : e.Row) (next : e.State)
    (input : LifecycleTransitionInput) :
    e.config.rows (e.config.advanced db row next input) =
      Table.set (fun r => e.config.id r = e.config.id row) (e.config.assign next input)
        (e.config.rows db) :=
  e.config.rows_withRows _ _

/-- The artifacts that a command requires are not written by a transition. -/
theorem validatePreconditions_advanced (db : Db) (row₁ : e₁.Row) (next : e₁.State)
    (input₁ : LifecycleTransitionInput) (command : e₂.Command) (row : e₂.Row)
    (input : LifecycleTransitionInput) :
    e₂.config.validatePreconditions (e₁.config.advanced db row₁ next input₁).toLifecycleTables
        command row input =
      e₂.config.validatePreconditions db.toLifecycleTables command row input := by
  cases e₁ <;> cases e₂ <;> rfl

/-- A transition keeps the reference of every committee. -/
theorem joinedReference_advanced (e : LifecycleEntity) (db : Db) (row : e.Row) (next : e.State)
    (input : LifecycleTransitionInput) (committeeId : Option Uuid) :
    joinedReference (e.config.advanced db row next input).toDomainTables committeeId =
      joinedReference db.toDomainTables committeeId := by
  cases e with
  | committee =>
    cases committeeId with
    | none => rfl
    | some id =>
      show ((Table.set _ (committeeTable.assign next input) db.committees).find? fun c =>
          c.id = id).map _ =
        (db.committees.find? fun c => c.id = id).map Committee.externalReference
      rw [Table.find?_set (f := committeeTable.assign next input) (fun _ => rfl), Option.map_map]
      congr 1
      funext c
      simp only [Function.comp_apply]
      split_ifs <;> rfl
  | _ => rfl

theorem committeeReference_advanced (db : Db) (row₁ : e₁.Row) (next : e₁.State)
    (input : LifecycleTransitionInput) (row : e₂.Row) :
    e₂.config.committeeReference (e₁.config.advanced db row₁ next input).toDomainTables row =
      e₂.config.committeeReference db.toDomainTables row := by
  cases e₂ with
  | committee | walletChallenge => rfl
  | renewalCycle =>
    exact joinedReference_advanced e₁ db row₁ next input (some (RenewalCycle.committeeId row))
  | appeal => exact joinedReference_advanced e₁ db row₁ next input (some (Appeal.committeeId row))
  | _ => exact joinedReference_advanced e₁ _ _ _ _ _

theorem unique_advanced (db : Db) (row₁ : e₁.Row) (next : e₁.State)
    (input : LifecycleTransitionInput)
    (hunique : Table.Unique e₂.config.id (e₂.config.rows db)) :
    Table.Unique e₂.config.id (e₂.config.rows (e₁.config.advanced db row₁ next input)) := by
  by_cases he : e₂ = e₁
  · subst he
    rw [rows_advanced]
    exact hunique.set fun r => e₂.config.id_assign _ _ r
  · rw [rows_advanced_of_ne he]
    exact hunique

/-- Another row is loaded as before. -/
theorem find?_advanced (db : Db) {row₁ : e₁.Row} (next : e₁.State)
    (input : LifecycleTransitionInput) {reference : String} {row : e₂.Row}
    (hunique : ∀ e : LifecycleEntity, Table.Unique e.config.id (e.config.rows db))
    (hrow₁ : row₁ ∈ e₁.config.rows db)
    (hrow : (e₂.config.rows db).find? (fun r => e₂.config.externalReference r = reference) =
      some row)
    (hother : e₁ ≠ e₂ ∨ e₁.config.externalReference row₁ ≠ reference) :
    (e₂.config.rows (e₁.config.advanced db row₁ next input)).find?
      (fun r => e₂.config.externalReference r = reference) = some row := by
  by_cases he : e₂ = e₁
  · subst he
    have hid : e₂.config.id row ≠ e₂.config.id row₁ := by
      intro hid
      obtain ⟨hmem, hreference⟩ := Table.mem_of_find? hrow
      rw [hunique e₂ row hmem row₁ hrow₁ hid, decide_eq_true_eq] at hreference
      exact (hother.resolve_left (by simp)) hreference
    rw [rows_advanced, Table.find?_set (fun r => by rw [externalReference_assign]), hrow]
    simp [hid]
  · rw [rows_advanced_of_ne he]
    exact hrow

end LifecycleEntity

/-! ## Two commands -/

/-- A call of one of the public methods of `LifecycleRepository`. -/
structure LifecycleCall where
  entity : LifecycleEntity
  command : entity.Command
  input : LifecycleTransitionInput

namespace LifecycleCall

open LifecycleEntity TableConfig

/-- The transaction of the call. -/
def run (c : LifecycleCall) : DbTx LifecycleRecord := c.entity.config.transition c.command c.input

/-- The row that the call is about, by its table and its reference. -/
def target (c : LifecycleCall) : LifecycleEntity × String := (c.entity, c.input.externalReference)

/-- The scope of the key of the call, in the committee of its row. -/
def keyScope (db : Db) (c : LifecycleCall) : Option String :=
  ((c.entity.config.rows db).find? fun r =>
    c.entity.config.externalReference r = c.input.externalReference).map
      fun row => scope (c.entity.config.committeeId row) c.input.context

/-- The key of the call is unused in its scope. -/
def KeyUnused (db : Db) (c : LifecycleCall) : Prop :=
  ∀ s ∈ c.keyScope db, db.idempotencyAt s (sha256 c.input.context.idempotencyKey) = none

/-- The outbox key of the call. -/
def outboxKey (c : LifecycleCall) : String :=
  outboxKeyHash c.input.context (c.entity.config.commandName c.command)

theorem keyScope_of_loaded {db : Db} {c : LifecycleCall} {row : c.entity.Row}
    (hrow : (c.entity.config.rows db).find? (fun r =>
      c.entity.config.externalReference r = c.input.externalReference) = some row) :
    c.keyScope db = some (scope (c.entity.config.committeeId row) c.input.context) := by
  rw [keyScope, hrow, Option.map_some]

theorem keyUnused_iff {db : Db} {c : LifecycleCall} {row : c.entity.Row}
    (hrow : (c.entity.config.rows db).find? (fun r =>
      c.entity.config.externalReference r = c.input.externalReference) = some row) :
    c.KeyUnused db ↔ db.idempotencyAt (scope (c.entity.config.committeeId row) c.input.context)
      (sha256 c.input.context.idempotencyKey) = none := by
  simp [KeyUnused, keyScope_of_loaded hrow]

/-- A call on another target, under a key of another scope, leaves alone what the second reads. -/
theorem undisturbed_of_effect {db db₁ : Db} {first second : LifecycleCall}
    {row₁ : first.entity.Row} {row₂ : second.entity.Row} {next : first.entity.State}
    (hunique : ∀ e : LifecycleEntity, Table.Unique e.config.id (e.config.rows db))
    (hrow₁ : (first.entity.config.rows db).find? (fun r =>
      first.entity.config.externalReference r = first.input.externalReference) = some row₁)
    (hrow₂ : (second.entity.config.rows db).find? (fun r =>
      second.entity.config.externalReference r = second.input.externalReference) = some row₂)
    (htarget : first.target ≠ second.target)
    (hscope : scope (second.entity.config.committeeId row₂) second.input.context ≠
      scope (first.entity.config.committeeId row₁) first.input.context)
    (h : first.entity.config.Effect db db₁ first.command first.input row₁ next) :
    second.entity.config.Undisturbed db db₁ second.input row₂ := by
  obtain ⟨db₀, hdomain₀, hlifecycle₀, hdomain, hlifecycle⟩ := h.tables
  have hrows₀ : ∀ e : LifecycleEntity, e.config.rows db₀ = e.config.rows db := fun e =>
    e.config.rows_congr _ _ hdomain₀ hlifecycle₀
  have hrows : second.entity.config.rows db₁ = second.entity.config.rows
      (first.entity.config.advanced db₀ row₁ next first.input) :=
    second.entity.config.rows_congr _ _ hdomain hlifecycle
  have hunique₀ : ∀ e : LifecycleEntity, Table.Unique e.config.id (e.config.rows db₀) := by
    intro e
    rw [hrows₀]
    exact hunique e
  obtain ⟨hmem₁, hreference₁⟩ := Table.mem_of_find? hrow₁
  have hother : first.entity ≠ second.entity ∨
      first.entity.config.externalReference row₁ ≠ second.input.externalReference := by
    by_cases he : first.entity = second.entity
    · right
      intro hreference
      rw [of_decide_eq_true hreference₁] at hreference
      exact htarget (Prod.ext he hreference)
    · exact Or.inl he
  refine ⟨?_, ?_, ?_, ?_, h.auth, ?_, ?_⟩
  · rw [hrows]
    exact find?_advanced db₀ next first.input hunique₀ (by rwa [hrows₀]) (by rwa [hrows₀]) hother
  · rw [hrows]
    exact unique_advanced db₀ row₁ next first.input (hunique₀ second.entity)
  · rw [hdomain, committeeReference_advanced, hdomain₀]
  · intro command
    rw [hlifecycle, validatePreconditions_advanced, hlifecycle₀]
  · exact (h.records _ _ hscope).1
  · exact (h.records _ _ hscope).2

/-- A repeated call only draws an identifier. -/
theorem undisturbed_of_newId {db : Db} {second : LifecycleCall} {row₂ : second.entity.Row}
    (n : Uuid) (hunique : Table.Unique second.entity.config.id (second.entity.config.rows db))
    (hrow₂ : (second.entity.config.rows db).find? (fun r =>
      second.entity.config.externalReference r = second.input.externalReference) = some row₂) :
    second.entity.config.Undisturbed db { db with nextId := n } second.input row₂ := by
  have hrows : second.entity.config.rows { db with nextId := n } = second.entity.config.rows db :=
    second.entity.config.rows_congr _ _ rfl rfl
  exact ⟨by rwa [hrows], by rwa [hrows], rfl, fun _ => rfl, rfl, id, fun _ hr _ => hr⟩

section TwoCalls

variable {db db₁ : Db} {first second : LifecycleCall} {record : LifecycleRecord}

theorem exists_loaded (h : Accepted first.run db) :
    ∃ row, (first.entity.config.rows db).find? (fun r =>
      first.entity.config.externalReference r = first.input.externalReference) = some row := by
  obtain ⟨record, db₁, h⟩ := h
  obtain ⟨-, row, hrow, -⟩ := first.entity.config.commits_transition.1 h
  exact ⟨row, hrow⟩

/-- A new call whose outbox key a new call under another scope has taken is refused. -/
theorem refused_of_same_outboxKey
    (hunique : ∀ e : LifecycleEntity, Table.Unique e.config.id (e.config.rows db))
    (htarget : first.target ≠ second.target) (hscope : first.keyScope db ≠ second.keyScope db)
    (hfirst : Commits first.run db record db₁) (hsecond : Accepted second.run db)
    (hkey₁ : first.KeyUnused db) (hkey₂ : second.KeyUnused db)
    (hsame : first.outboxKey = second.outboxKey) : ¬ Accepted second.run db₁ := by
  obtain ⟨row₁, hrow₁⟩ := exists_loaded hfirst.accepted
  obtain ⟨row₂, hrow₂⟩ := exists_loaded hsecond
  rw [keyScope_of_loaded hrow₁, keyScope_of_loaded hrow₂, ne_eq, Option.some.injEq] at hscope
  rw [keyUnused_iff hrow₁] at hkey₁
  rw [keyUnused_iff hrow₂] at hkey₂
  obtain ⟨next, -, -, -, heffect⟩ :=
    first.entity.config.effect_of_unused (hunique _) hrow₁ hkey₁ hfirst
  have hu := undisturbed_of_effect hunique hrow₁ hrow₂ htarget (Ne.symm hscope) heffect
  rintro ⟨record', db₂, h⟩
  obtain ⟨-, -, -, hfree, -⟩ :=
    second.entity.config.effect_of_unused hu.unique hu.loaded (hu.unused hkey₂) h
  obtain ⟨event, heventKey, -, houtbox⟩ := heffect.outbox
  exact hfree event (by rw [houtbox]; simp) (heventKey.trans hsame)

/-- Of two calls on different targets, under keys of different scopes, the first one's commit makes
the second fail exactly when both keys are unused and their outbox keys are the same. -/
theorem scopes_interfere_iff
    (hunique : ∀ e : LifecycleEntity, Table.Unique e.config.id (e.config.rows db))
    (hids : ∀ o ∈ db.outbox, o.id < db.nextId) (htarget : first.target ≠ second.target)
    (hscope : first.keyScope db ≠ second.keyScope db) (hfirst : Commits first.run db record db₁)
    (hsecond : Accepted second.run db) :
    Accepted second.run db₁ ↔
      ¬ (first.KeyUnused db ∧ second.KeyUnused db ∧ first.outboxKey = second.outboxKey) := by
  constructor
  · rintro haccepted ⟨hkey₁, hkey₂, hsame⟩
    exact refused_of_same_outboxKey hunique htarget hscope hfirst hsecond hkey₁ hkey₂ hsame
      haccepted
  intro hfree
  obtain ⟨row₁, hrow₁⟩ := exists_loaded hfirst.accepted
  obtain ⟨row₂, hrow₂⟩ := exists_loaded hsecond
  rw [keyScope_of_loaded hrow₁, keyScope_of_loaded hrow₂, ne_eq, Option.some.injEq] at hscope
  rw [keyUnused_iff hrow₁, keyUnused_iff hrow₂] at hfree
  have hfree₂ : db.idempotencyAt (scope (second.entity.config.committeeId row₂) second.input.context)
      (sha256 second.input.context.idempotencyKey) = none →
      ∀ o ∈ db.outbox, o.idempotencyKeyHash ≠ second.outboxKey := by
    intro hkey₂
    obtain ⟨record₂, db₂, h⟩ := hsecond
    obtain ⟨-, -, -, hfree, -⟩ := second.entity.config.effect_of_unused (hunique _) hrow₂ hkey₂ h
    exact hfree
  cases hkey₁ : db.idempotencyAt (scope (first.entity.config.committeeId row₁) first.input.context)
      (sha256 first.input.context.idempotencyKey) with
  | some taken =>
    -- the first call was a repetition
    obtain ⟨-, rfl⟩ := first.entity.config.commits_transition_of_taken hrow₁ hkey₁ hfirst
    exact ((undisturbed_of_newId (db.nextId + 1) (hunique _) hrow₂).accepted_iff (hunique _) hrow₂
      (fun o ho => (hids o ho).trans (Nat.lt_succ_self _)) hsecond).2 hfree₂
  | none =>
    obtain ⟨next, -, -, -, heffect⟩ :=
      first.entity.config.effect_of_unused (hunique _) hrow₁ hkey₁ hfirst
    have hu := undisturbed_of_effect hunique hrow₁ hrow₂ htarget (Ne.symm hscope) heffect
    obtain ⟨event, heventKey, heventId, houtbox⟩ := heffect.outbox
    refine (hu.accepted_iff (hunique _) hrow₂ ?_ hsecond).2 fun hkey₂ => ?_
    · rw [houtbox]
      intro o ho
      rcases List.mem_append.1 ho with ho | ho
      · exact (hids o ho).trans_le heffect.newIds
      · rwa [List.mem_singleton.1 ho]
    · rw [houtbox]
      intro o ho
      rcases List.mem_append.1 ho with ho | ho
      · exact hfree₂ hkey₂ o ho
      · rw [List.mem_singleton.1 ho]
        exact fun heq => hfree ⟨hkey₁, hkey₂, heventKey.symm.trans heq⟩

end TwoCalls

end LifecycleCall

namespace ScopesSample

/-- A command of an account under a key, in a reference that no committee of the row confirms. -/
def context (account key : String) : CommandContext :=
  { actor := { type := "account", reference := account, authenticationStrength := "passkey" }
    committeeReference := "global_synthetic_scope"
    policyVersionReference := "policy_one"
    softwareVersion := "0.0.0"
    reasonCategory := "routine"
    correlationId := "correlation_one"
    idempotencyKey := key
    requestDigest := "digest" }

/-- An acknowledged consent of an account, outside every committee. -/
def consent (id account : Uuid) (reference : String) : ConsentReceipt :=
  { id, externalReference := reference, participantId := none, authAccountId := account
    committeeId := none, state := .acknowledged, acknowledgedAt := some 10, withdrawnAt := none
    version := 1 }

def db : Db :=
  { Db.empty with consentReceipts := [consent 4 1 "consent_one", consent 5 2 "consent_two"] }

/-- The withdrawal of a consent. -/
def withdrawal (reference account key : String) : LifecycleCall :=
  { entity := .consentReceipt
    command := .withdrawConsent
    input := { externalReference := reference, expectedVersion := 1, observedAt := 20
               assignmentReference := none, context := context account key } }

theorem unique (e : LifecycleEntity) : Table.Unique e.config.id (e.config.rows db) := by
  cases e with
  | consentReceipt =>
    exact Table.unique_of_nodup (by decide)
  | _ => exact Table.unique_nil

theorem withdrawal_accepted {reference account key : String} {row : ConsentReceipt}
    (hp : LifecycleRepository.consentReceiptTable.Prepared db .withdrawConsent
      (withdrawal reference account key).input row .withdrawn)
    (hguard : LifecycleRepository.consentReceiptTable.guard db.toAuthTables row
      (LifecycleRepository.consentReceiptTable.assign .withdrawn
        (withdrawal reference account key).input row) = .ok ()) :
    Accepted (withdrawal reference account key).run db :=
  (LifecycleRepository.consentReceiptTable.transition_accepted_iff hp
    (LifecycleRepository.consentReceiptTable.unused_of_empty rfl rfl)
    (unique .consentReceipt)).2 hguard

theorem first_accepted : Accepted (withdrawal "consent_one" "account_one" "key_one").run db :=
  withdrawal_accepted ⟨by decide, rfl, nofun, nofun, rfl, rfl, rfl⟩ rfl

theorem second_accepted (key : String) :
    Accepted (withdrawal "consent_two" "account_two" key).run db :=
  have hcode : isOpaqueReference "consent_two" = true ∧ '@' ∉ "consent_two".toList := by decide
  withdrawal_accepted ⟨hcode, rfl, nofun, nofun, rfl, rfl, rfl⟩ rfl

theorem other_target (key : String) : (withdrawal "consent_one" "account_one" "key_one").target ≠
    (withdrawal "consent_two" "account_two" key).target := by
  simp [LifecycleCall.target, withdrawal]

theorem other_scope (key : String) : (withdrawal "consent_one" "account_one" "key_one").keyScope db ≠
    (withdrawal "consent_two" "account_two" key).keyScope db := by
  show some (TableConfig.scope none (context "account_one" "key_one")) ≠
    some (TableConfig.scope none (context "account_two" key))
  simp [TableConfig.scope, context]

theorem keyUnused (c : LifecycleCall) : c.KeyUnused db := fun _ _ => rfl

/-- Two accounts that withdraw their own consents under the same key: the later one is refused. -/
theorem same_key_refused : ∃ record db₁,
    Commits (withdrawal "consent_one" "account_one" "key_one").run db record db₁ ∧
      Accepted (withdrawal "consent_two" "account_two" "key_one").run db ∧
      (withdrawal "consent_one" "account_one" "key_one").target ≠
        (withdrawal "consent_two" "account_two" "key_one").target ∧
      (withdrawal "consent_one" "account_one" "key_one").keyScope db ≠
        (withdrawal "consent_two" "account_two" "key_one").keyScope db ∧
      ¬ Accepted (withdrawal "consent_two" "account_two" "key_one").run db₁ := by
  obtain ⟨record, db₁, h⟩ := first_accepted
  refine ⟨record, db₁, h, second_accepted _, other_target _, other_scope _, ?_⟩
  exact LifecycleCall.refused_of_same_outboxKey unique (other_target _) (other_scope _) h
    (second_accepted _) (keyUnused _) (keyUnused _) rfl

/-- Under another key the later one still commits. -/
theorem other_key_accepted : ∃ record db₁,
    Commits (withdrawal "consent_one" "account_one" "key_one").run db record db₁ ∧
      Accepted (withdrawal "consent_two" "account_two" "key_two").run db₁ := by
  obtain ⟨record, db₁, h⟩ := first_accepted
  have hids : ∀ o ∈ db.outbox, o.id < db.nextId := by simp [db, Db.empty]
  have hkeys : outboxKeyHash (context "account_one" "key_one") "withdrawConsent" ≠
      outboxKeyHash (context "account_two" "key_two") "withdrawConsent" := by decide +kernel
  exact ⟨record, db₁, h, (LifecycleCall.scopes_interfere_iff unique hids (other_target _)
    (other_scope _) h (second_accepted _)).2 fun hsame => hkeys hsame.2.2⟩

end ScopesSample

end ChecksAndBalances
