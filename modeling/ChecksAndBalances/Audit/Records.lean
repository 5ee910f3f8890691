import ChecksAndBalances.Audit.Chain

/-!
# Idempotency records

A key is taken by the record of one call.  What completes the record is the last thing written to it:
the records of a run are never lost, and a completed one never changes.
-/

namespace ChecksAndBalances

open Lib Lib.Tx

variable {db db' : Db}

/-! ## Records over a run -/

/-- The completed records stay as they are. -/
def Db.KeysGrow (db db' : Db) : Prop :=
  ∀ scope keyHash record, db.idempotencyAt scope keyHash = some record →
    record.state = .completed → db'.idempotencyAt scope keyHash = some record

/-- The records are the same ones. -/
def Db.SameRecords (db db' : Db) : Prop := db'.idempotency = db.idempotency

theorem Db.SameRecords.keysGrow (h : db.SameRecords db') : db.KeysGrow db' := by
  intro scope keyHash record hrecord _
  unfold Db.idempotencyAt at hrecord ⊢
  rwa [h]

instance : IsPreorder Db Db.KeysGrow where
  refl _ := Db.SameRecords.keysGrow rfl
  trans db db' db'' hfirst hrest := by
    intro scope keyHash record hrecord hstate
    exact hrest _ _ _ (hfirst _ _ _ hrecord hstate) hstate

instance : IsPreorder Db Db.SameRecords where
  refl _ := rfl
  trans _ _ _ hfirst hrest := hrest.trans hfirst

/-- Only taking and completing a key write the records. -/
theorem audits_sameRecords : Audits Db.SameRecords where
  rest db db' h := by
    unfold Db.ledgers at h
    simp only [Prod.mk.injEq] at h
    exact h.2.2
  audit context committeeId command target result :=
    keeps_appendAudit (f := fun db => db.idempotency) (fun _ _ _ _ => rfl) _ _ _ _ _

/-- The record as `completeIdempotency` leaves it. -/
def IdempotencyRecord.complete (reference : String) (version : ℕ) (state : String)
    (r : IdempotencyRecord) : IdempotencyRecord :=
  { r with
    state := .completed
    resultDigest := some (sha256 (reference ++ "|" ++ toString version ++ "|" ++ state))
    resultReference := some reference
    resultVersion := some version
    resultState := some state }

theorem idempotencyAt_completed {id : Uuid} {reference state : String} {version : ℕ} {u : Unit}
    (h : Commits (completeIdempotency id reference version state) db u db')
    (scope keyHash : String) :
    db'.idempotencyAt scope keyHash = (db.idempotencyAt scope keyHash).map fun r =>
      if r.id = id && r.state = .started then r.complete reference version state else r := by
  rw [commits_modify.1 h]
  exact Table.find?_set (f := IdempotencyRecord.complete reference version state)
    (fun _ => rfl) db.idempotency

theorem bounds_keysGrow : Bounds Db.KeysGrow where
  rest db db' h := (audits_sameRecords.rest db db' h).keysGrow
  audit context committeeId command target result := by
    intro db hash db' h
    exact (audits_sameRecords.audit _ _ _ _ _ db hash db' h).keysGrow
  begins scope committeeId command context := by
    intro db idempotency db' h scope' keyHash record hrecord _
    rcases commits_beginIdempotencyIn.1 h with ⟨-, -, rfl⟩ | ⟨row, -, -, -, -, rfl⟩
    · unfold Db.idempotencyAt at hrecord ⊢
      rw [List.find?_append, hrecord, Option.some_or]
    · exact hrecord
  completes id reference version state := by
    intro db u db' h scope keyHash record hrecord hstate
    rw [idempotencyAt_completed h, hrecord]
    simp [hstate]

/-! ## The record of a call -/

/-- The record answers the repetitions of a call. -/
structure IdempotencyRecord.Answers (record : IdempotencyRecord) (context : CommandContext)
    (command reference state : String) (version : ℕ) : Prop where
  completed : record.state = .completed
  requestDigest : record.requestDigest = context.requestDigest
  command : record.command = command
  resultReference : record.resultReference = some reference
  resultState : record.resultState = some state
  resultVersion : record.resultVersion = some version

section Key

variable {scope command : String} {committeeId : Option Uuid} {context : CommandContext}
  {db₁ : Db} {idempotency : IdempotencyResult}

theorem unused_of_new
    (hbegin : Commits (beginIdempotencyIn scope committeeId command context) db idempotency db₁)
    (hnew : idempotency.replayed = false) :
    db.idempotencyAt scope (sha256 context.idempotencyKey) = none := by
  rcases commits_beginIdempotencyIn.1 hbegin with ⟨hunused, -⟩ | ⟨row, -, -, -, rfl, -⟩
  · exact hunused
  · cases hnew

/-- Once a new key is completed its record answers the call. -/
theorem answers_of_completed
    (hbegin : Commits (beginIdempotencyIn scope committeeId command context) db idempotency db₁)
    (hnew : idempotency.replayed = false) {db₂ : Db} (hbody : db₁.SameRecords db₂)
    {reference state : String} {version : ℕ} {u : Unit}
    (hcomplete : Commits (completeIdempotency idempotency.id reference version state) db₂ u db') :
    ∃ record, db'.idempotencyAt scope (sha256 context.idempotencyKey) = some record ∧
      record.Answers context command reference state version := by
  rcases commits_beginIdempotencyIn.1 hbegin with ⟨hunused, rfl, hdb₁⟩ | ⟨row, -, -, -, rfl, -⟩
  · have hrecords : db₂.idempotency = db.idempotency ++
        [startedRecord db.nextId scope committeeId command context] := by
      rw [hbody, hdb₁]
    have hstarted : db₂.idempotencyAt scope (sha256 context.idempotencyKey) =
        some (startedRecord db.nextId scope committeeId command context) := by
      unfold Db.idempotencyAt at *
      rw [hrecords, List.find?_append, hunused, Option.none_or]
      simp [startedRecord]
    refine ⟨(startedRecord db.nextId scope committeeId command context).complete reference version
      state, ?_, rfl, rfl, rfl, rfl, rfl, rfl⟩
    rw [idempotencyAt_completed hcomplete, hstarted]
    simp [startedRecord]
  · cases hnew

/-- A used key is the one of a completed call with the same digest and command. -/
theorem answers_of_replayed
    (hbegin : Commits (beginIdempotencyIn scope committeeId command context) db idempotency db₁)
    (hreplayed : idempotency.replayed = true) :
    ∃ record, db.idempotencyAt scope (sha256 context.idempotencyKey) = some record ∧
      (record.requestDigest = context.requestDigest ∧ record.command = command) ∧
      idempotency.resultReference = record.resultReference ∧
      idempotency.resultState = record.resultState ∧
      idempotency.resultVersion = record.resultVersion ∧
      db₁ = { db with nextId := db.nextId + 1 } := by
  rcases commits_beginIdempotencyIn.1 hbegin with ⟨-, rfl, -⟩ | ⟨row, hrow, hsame, -, rfl, rfl⟩
  · cases hreplayed
  · exact ⟨row, hrow, ⟨hsame.1, hsame.2.1⟩, rfl, rfl, rfl, rfl⟩

end Key

end ChecksAndBalances
