import ChecksAndBalances.Db.LifecycleRepository

/-!
# The generic lifecycle transition

What a call of `LifecycleRepository.transition` has checked, what it writes, and when it commits,
once for all eight tables.
-/

namespace ChecksAndBalances

open Lib Lib.Tx

theorem enforceChecks_eq_ok_iff {Row : Type} {checks : List (CheckConstraint Row)} {row : Row} :
    enforceChecks checks row = .ok () ↔ ∀ c ∈ checks, c.holds row = true := by
  unfold enforceChecks
  cases h : checks.find? fun c => !c.holds row with
  | none => simpa [List.find?_eq_none] using h
  | some c =>
    obtain ⟨hmem, hc⟩ := Table.mem_of_find? h
    simp only [reduceCtorEq, false_iff, not_forall]
    exact ⟨c, hmem, by simpa using hc⟩

namespace TableConfig

variable {Row State Command : Type} (t : TableConfig Row State Command)

theorem guard_eq_ok_iff {auth : AuthTables} {old new : Row} :
    t.guard auth old new = .ok () ↔
      t.trigger auth old new = .ok () ∧ ∀ c ∈ t.checks, c.holds new = true := by
  unfold guard
  cases h : t.trigger auth old new with
  | error e => simp [bind, Except.bind]
  | ok u => simp [bind, Except.bind, enforceChecks_eq_ok_iff]

/-- What a command has checked when it reaches its UPDATE statement. -/
structure Prepared (db : Db) (command : Command) (input : LifecycleTransitionInput) (row : Row)
    (next : State) : Prop where
  isOpaque : isOpaqueReference input.externalReference = true ∧
    '@' ∉ input.externalReference.toList
  loaded : (t.rows db).find? (fun r => t.externalReference r = input.externalReference) = some row
  tenant : truthy (t.committeeReference db.toDomainTables row) = true →
    t.committeeReference db.toDomainTables row = some input.context.committeeReference
  ownTenant : t.table = "committee" → t.externalReference row = input.context.committeeReference
  version : t.version row = input.expectedVersion
  domain : t.apply command (t.state row) = .ok next
  preconditions : t.validatePreconditions db.toLifecycleTables command row input = .ok ()

/-- The keys that a command takes are free, and the identifiers it draws are new. -/
structure Unused (db : Db) (command : Command) (context : CommandContext) (row : Row) : Prop where
  key : db.idempotencyAt (scope (t.committeeId row) context) (sha256 context.idempotencyKey) = none
  outboxKey : ∀ o ∈ db.outbox, o.idempotencyKeyHash ≠ outboxKeyHash context (t.commandName command)
  newIds : ∀ o ∈ db.outbox, o.id < db.nextId

theorem unused_of_empty {db : Db} {command : Command} {context : CommandContext} {row : Row}
    (hrecords : db.idempotency = []) (houtbox : db.outbox = []) :
    t.Unused db command context row where
  key := by simp [Db.idempotencyAt, hrecords]
  outboxKey := by simp [houtbox]
  newIds := by simp [houtbox]

theorem commits_updateRow {row : Row} {next : State} {input : LifecycleTransitionInput}
    {db db' : Db} {rows : List Row} :
    Commits (t.updateRow row next input) db rows db' ↔
      (∀ r ∈ t.rows db, t.id r = t.id row → t.version r = input.expectedVersion →
        t.guard db.toAuthTables r (t.assign next input r) = .ok ()) ∧
      db' = t.withRows db (Table.set
        (fun r => t.id r = t.id row && t.version r = input.expectedVersion)
        (t.assign next input) (t.rows db)) ∧
      rows = ((t.rows db).filter fun r =>
        t.id r = t.id row && t.version r = input.expectedVersion).map (t.assign next input) := by
  unfold updateRow
  simp only [commits_get_bind, commits_lift_bind, commits_modify_bind, commits_pure,
    Table.update_eq_ok_iff, Bool.and_eq_true, decide_eq_true_eq, and_imp]
  constructor
  · rintro ⟨_, ⟨hall, rfl⟩, rfl, rfl⟩
    exact ⟨hall, rfl, rfl⟩
  · rintro ⟨hall, rfl, rfl⟩
    exact ⟨_, ⟨hall, rfl⟩, rfl, rfl⟩

/-- The checked part of a transition commits when the constraints let the row through. -/
theorem commits_advance {command : Command} {row : Row} {input : LifecycleTransitionInput}
    {db db' : Db} {result : State × ℕ} :
    Commits (t.advance command row input) db result db' ↔
      t.version row = input.expectedVersion ∧ t.apply command (t.state row) = .ok result.1 ∧
      t.validatePreconditions db.toLifecycleTables command row input = .ok () ∧
      ∃ rows updated, Commits (t.updateRow row result.1 input) db rows db' ∧
        rows.head? = some updated ∧ result.2 = t.version updated := by
  unfold advance
  simp only [commits_require_bind, commits_lift_bind, commits_get_bind]
  constructor
  · rintro ⟨hversion, next, hnext, _, hpre, h⟩
    obtain ⟨rows, db₁, hupdate, h⟩ := commits_bind.1 h
    simp only [commits_found_bind, commits_pure] at h
    obtain ⟨updated, hhead, rfl, rfl⟩ := h
    exact ⟨hversion, hnext, hpre, rows, updated, hupdate, hhead, rfl⟩
  · rintro ⟨hversion, hnext, hpre, rows, updated, hupdate, hhead, hresult⟩
    refine ⟨hversion, result.1, hnext, (), hpre, commits_bind.2 ⟨rows, db', hupdate, ?_⟩⟩
    simp only [commits_found_bind, commits_pure]
    exact ⟨updated, hhead, Prod.ext rfl hresult, trivial⟩

/-- The updated row is the loaded one in its new state. -/
theorem commits_advance_of_unique {db db' : Db} {command : Command} {row : Row}
    {input : LifecycleTransitionInput} {next : State} {version : ℕ}
    (hunique : Table.Unique t.id (t.rows db)) (hrow : row ∈ t.rows db) :
    Commits (t.advance command row input) db (next, version) db' ↔
      t.version row = input.expectedVersion ∧ t.apply command (t.state row) = .ok next ∧
      t.validatePreconditions db.toLifecycleTables command row input = .ok () ∧
      t.guard db.toAuthTables row (t.assign next input row) = .ok () ∧
      version = t.version row + 1 ∧
      db' = t.withRows db
        (Table.set (fun r => t.id r = t.id row) (t.assign next input) (t.rows db)) := by
  rw [commits_advance]
  refine and_congr_right fun hversion => and_congr_right fun _ => and_congr_right fun _ => ?_
  have hselected : ∀ r ∈ t.rows db, (decide (t.id r = t.id row) &&
      decide (t.version r = input.expectedVersion)) = decide (t.id r = t.id row) := by
    intro r hr
    by_cases hid : t.id r = t.id row
    · rw [hunique r hr row hrow hid]
      simp [hversion]
    · simp [hid]
  have hhead : ((((t.rows db).filter fun r => t.id r = t.id row && t.version r =
      input.expectedVersion).map (t.assign next input)).head?) = some (t.assign next input row) := by
    rw [List.filter_congr hselected, List.head?_map, List.head?_filter, hunique.find?_eq hrow]
    rfl
  simp only [commits_updateRow]
  constructor
  · rintro ⟨rows, updated, ⟨hguard, rfl, rfl⟩, hupdated, rfl⟩
    rw [hhead] at hupdated
    cases hupdated
    exact ⟨hguard row hrow rfl hversion, t.version_assign _ _ _, by rw [Table.set_congr hselected]⟩
  · rintro ⟨hguard, rfl, rfl⟩
    refine ⟨_, _, ⟨fun r hr hid _ => ?_, by rw [Table.set_congr hselected], rfl⟩, hhead,
      (t.version_assign _ _ _).symm⟩
    rw [hunique r hr row hrow hid]
    exact hguard

/-- A committed transition is a replay, or it has advanced its row and completed its key. -/
theorem commits_transition {db db' : Db} {command : Command} {input : LifecycleTransitionInput}
    {record : LifecycleRecord} :
    Commits (t.transition command input) db record db' ↔
      (isOpaqueReference input.externalReference = true ∧ '@' ∉ input.externalReference.toList) ∧
      ∃ row, (t.rows db).find? (fun r => t.externalReference r = input.externalReference) =
          some row ∧
        (truthy (t.committeeReference db.toDomainTables row) = true →
          t.committeeReference db.toDomainTables row = some input.context.committeeReference) ∧
        (t.table = "committee" → t.externalReference row = input.context.committeeReference) ∧
        ∃ idempotency db₁, Commits (beginIdempotencyIn (scope (t.committeeId row) input.context)
            (t.committeeId row) (t.commandName command) input.context) db idempotency db₁ ∧
          ((idempotency.replayed = true ∧
              (idempotency.resultReference = some input.externalReference ∧
                truthy idempotency.resultState = true ∧
                0 < idempotency.resultVersion.getD 0) ∧
              record = ⟨input.externalReference, idempotency.resultState.getD "",
                idempotency.resultVersion.getD 0, true⟩ ∧ db' = db₁) ∨
            (idempotency.replayed = false ∧ ∃ next version db₂ db₃,
              Commits (t.advance command row input) db₁ (next, version) db₂ ∧
              Commits (t.announce command row next version input) db₂ () db₃ ∧
              Commits (completeIdempotency idempotency.id input.externalReference version
                (t.stateName next)) db₃ () db' ∧
              record = ⟨input.externalReference, t.stateName next, version, false⟩)) := by
  unfold transition load requireOpaqueReference
  simp only [commits_require_bind, commits_bind (t := (get >>= _)), commits_get_bind,
    commits_found_bind, commits_pure]
  refine and_congr_right fun _ => ?_
  constructor
  · rintro ⟨_, _, ⟨row, hrow, rfl, rfl⟩, htenant, hown, h⟩
    obtain ⟨idempotency, db₁, hbegin, h⟩ := commits_bind.1 h
    refine ⟨row, hrow, htenant, hown, idempotency, db₁, hbegin, ?_⟩
    split_ifs at h with hreplayed
    · simp only [commits_require_bind, commits_pure] at h
      exact Or.inl ⟨hreplayed, h⟩
    · refine Or.inr ⟨by simpa using hreplayed, ?_⟩
      obtain ⟨⟨next, version⟩, db₂, hadvance, h⟩ := commits_bind.1 h
      obtain ⟨_, db₃, hannounce, h⟩ := commits_bind.1 h
      obtain ⟨_, db₄, hcomplete, h⟩ := commits_bind.1 h
      obtain ⟨rfl, rfl⟩ := commits_pure.1 h
      exact ⟨next, version, db₂, db₃, hadvance, hannounce, hcomplete, rfl⟩
  · rintro ⟨row, hrow, htenant, hown, idempotency, db₁, hbegin, h⟩
    refine ⟨_, _, ⟨row, hrow, rfl, rfl⟩, htenant, hown,
      commits_bind.2 ⟨idempotency, db₁, hbegin, ?_⟩⟩
    rcases h with ⟨hreplayed, h⟩ | ⟨hreplayed, next, version, db₂, db₃, hadvance, hannounce,
      hcomplete, rfl⟩
    · rw [if_pos hreplayed]
      simp only [commits_require_bind, commits_pure]
      exact h
    · rw [if_neg (by simp [hreplayed])]
      exact commits_bind.2 ⟨(next, version), db₂, hadvance, commits_bind.2 ⟨(), db₃, hannounce,
        commits_bind.2 ⟨(), db', hcomplete, commits_pure.2 ⟨rfl, rfl⟩⟩⟩⟩

theorem announce_accepted {command : Command} {row : Row} {next : State} {version : ℕ}
    {input : LifecycleTransitionInput} {db : Db}
    (hkey : ∀ o ∈ db.outbox, o.idempotencyKeyHash ≠
      outboxKeyHash input.context (t.commandName command))
    (hids : ∀ o ∈ db.outbox, o.id < db.nextId) :
    Accepted (t.announce command row next version input) db := by
  obtain ⟨hash, db₁, haudit⟩ := appendAudit_accepted input.context (t.committeeId row)
    (t.commandName command)
    { type := t.targetType, reference := input.externalReference
      priorState := some (t.stateName (t.state row)), newState := some (t.stateName next) }
    .succeeded db
  have hsame : db₁.outbox = db.outbox :=
    keeps_appendAudit (f := fun db => db.outbox) (fun _ _ _ _ => rfl) _ _ _ _ _ _ _ _ haudit
  have hgrows : db.nextId ≤ db₁.nextId := grows_appendAudit _ _ _ _ _ _ _ _ haudit
  refine haudit.bind_accepted ((newId_commits db₁).bind_accepted ?_)
  apply insertOutboxEvent_accepted
  · show ∀ o ∈ db₁.outbox, o.id ≠ db₁.nextId
    intro o ho
    rw [hsame] at ho
    exact ((hids o ho).trans_le hgrows).ne
  · show ∀ o ∈ db₁.outbox, _
    rw [hsame]
    exact hkey

/-- Taking a key leaves the table alone. -/
theorem rows_taken (db : Db) (records : List IdempotencyRecord) (n : Uuid) :
    t.rows { db with idempotency := records, nextId := n } = t.rows db :=
  t.rows_congr db _ rfl rfl

/-- A prepared command under unused keys commits exactly when the trigger and the constraints of the
table let its row through. -/
theorem transition_accepted_iff {db : Db} {command : Command} {input : LifecycleTransitionInput}
    {row : Row} {next : State} (hp : t.Prepared db command input row next)
    (hu : t.Unused db command input.context row) (hunique : Table.Unique t.id (t.rows db)) :
    Accepted (t.transition command input) db ↔
      t.guard db.toAuthTables row (t.assign next input row) = .ok () := by
  have hrow : row ∈ t.rows db := (Table.mem_of_find? hp.loaded).1
  constructor
  · rintro ⟨record, db', h⟩
    obtain ⟨-, row', hrow', -, -, idempotency, db₁, hbegin, h⟩ := t.commits_transition.1 h
    obtain rfl : row = row' := Option.some.inj (hp.loaded.symm.trans hrow')
    rcases commits_beginIdempotencyIn.1 hbegin with ⟨-, rfl, rfl⟩ | ⟨taken, htaken, -⟩
    · rcases h with ⟨hreplayed, -⟩ | ⟨-, next', version, db₂, -, hadvance, -⟩
      · cases hreplayed
      · rw [t.commits_advance_of_unique (by rwa [rows_taken]) (by rwa [rows_taken])] at hadvance
        obtain ⟨-, hdomain, -, hguard, -⟩ := hadvance
        rw [hp.domain] at hdomain
        cases hdomain
        exact hguard
    · rw [hu.key] at htaken
      cases htaken
  · intro hguard
    let db₁ : Db := { db with
      nextId := db.nextId + 1
      idempotency := db.idempotency ++ [startedRecord db.nextId
        (scope (t.committeeId row) input.context) (t.committeeId row) (t.commandName command)
        input.context] }
    have hrows : t.rows db₁ = t.rows db := t.rows_taken _ _ _
    let db₂ := t.withRows db₁
      (Table.set (fun r => t.id r = t.id row) (t.assign next input) (t.rows db₁))
    have hadvance : Commits (t.advance command row input) db₁ (next, t.version row + 1) db₂ :=
      (t.commits_advance_of_unique (by rwa [hrows]) (by rwa [hrows])).2
        ⟨hp.version, hp.domain, hp.preconditions, hguard, rfl, rfl⟩
    have hbesides : db₂.besides = db₁.besides := t.besides_withRows _ _
    simp only [Db.besides, Prod.mk.injEq] at hbesides
    obtain ⟨hwork, -, -, -, -, hnext, -⟩ := hbesides
    have houtbox : db₂.outbox = db.outbox := congrArg WorkTables.outbox hwork
    obtain ⟨_, db₃, hannounce⟩ : Accepted
        (t.announce command row next (t.version row + 1) input) db₂ := by
      refine t.announce_accepted (by rw [houtbox]; exact hu.outboxKey) fun o ho => ?_
      rw [houtbox] at ho
      rw [hnext]
      exact (hu.newIds o ho).trans (Nat.lt_succ_self _)
    refine ⟨_, _, t.commits_transition.2 ⟨hp.isOpaque, row, hp.loaded, hp.tenant, hp.ownTenant, _,
      db₁, commits_beginIdempotencyIn.2 (Or.inl ⟨hu.key, rfl, rfl⟩), Or.inr ⟨rfl, next, _, db₂, db₃,
        hadvance, hannounce, modify_commits _ _, rfl⟩⟩⟩

end TableConfig

end ChecksAndBalances
