import ChecksAndBalances.Lib.Reach
import ChecksAndBalances.Outbox.Effects

/-!
# One writer per aggregate

Any number of workers claim events, extend their leases and give them up, at observed times that
never decrease.  When they claim with `singleWriterByAggregate`, at every time at most one event of
an event type and aggregate is claimed under a live lease.
-/

namespace ChecksAndBalances

open Lib Lib.Tx OutboxRepository

/-! ## The system -/

/-- A transaction on the outbox: a command of a worker, or a producer that adds an event. -/
inductive OutboxCommand where
  | claimNext (worker : OutboxWorkerContext) (leaseDurationMs : ℤ) (options : OutboxClaimOptions)
      (locked : List Uuid)
  | heartbeat (eventId : Uuid) (worker : OutboxWorkerContext) (leaseDurationMs : ℤ)
  | succeed (eventId : Uuid) (worker : OutboxWorkerContext)
  | failRetryable (eventId : Uuid) (worker : OutboxWorkerContext) (settings : RetrySettings)
      (errorClass : String)
  | failTerminal (eventId : Uuid) (worker : OutboxWorkerContext) (errorClass : String)
  | insert (committeeId : Option Uuid) (eventType aggregateType aggregateReference schemaVersion
      payloadReference payloadDigest idempotencyKeyHash : String)

/-- The database after a command at the observed time. -/
def OutboxCommand.exec (db : Db) (observedAt : ℤ) : OutboxCommand → Db
  | claimNext worker leaseDurationMs options locked =>
    commit (OutboxRepository.claimNext worker observedAt leaseDurationMs options locked) db
  | heartbeat eventId worker leaseDurationMs =>
    commit (OutboxRepository.heartbeat eventId worker observedAt leaseDurationMs) db
  | succeed eventId worker => commit (OutboxRepository.succeed eventId worker observedAt) db
  | failRetryable eventId worker settings errorClass =>
    commit (OutboxRepository.failRetryable eventId worker observedAt settings errorClass) db
  | failTerminal eventId worker errorClass =>
    commit (OutboxRepository.failTerminal eventId worker observedAt errorClass) db
  | insert committeeId eventType aggregateType aggregateReference schemaVersion payloadReference
      payloadDigest idempotencyKeyHash =>
    commit (do
      let id ← newId
      insertOutboxEvent id committeeId eventType aggregateType aggregateReference schemaVersion
        payloadReference payloadDigest idempotencyKeyHash) db

/-- The database and the latest observed time. -/
structure Outbox where
  db : Db
  clock : ℤ

/-- A command whose observed time is not before the latest one. -/
def Outbox.step (s : Outbox) (label : OutboxCommand × ℤ) : Option Outbox :=
  if s.clock ≤ label.2 then some { db := label.1.exec s.db label.2, clock := label.2 } else none

/-- A claim is made with `singleWriterByAggregate`. -/
def OutboxCommand.SingleWriter : OutboxCommand → Prop
  | claimNext _ _ options _ => options.singleWriterByAggregate = true
  | _ => True

/-- An outbox in which nothing is claimed. -/
structure Outbox.Initial (s : Outbox) : Prop where
  ids : Table.Unique OutboxEvent.id s.db.outbox
  idle : ∀ o ∈ s.db.outbox, o.state ≠ .claimed

/-! ## The invariant -/

/-- The row is claimed and its lease is not expired at time `t`. -/
def OutboxEvent.Live (t : ℤ) (o : OutboxEvent) : Prop :=
  o.state = .claimed ∧ ∃ e, o.leaseExpiresAt = some e ∧ t < e

theorem OutboxEvent.Live.mono {o : OutboxEvent} {t t' : ℤ} (h : o.Live t') (hle : t ≤ t') :
    o.Live t := by
  obtain ⟨hstate, e, he, hlt⟩ := h
  exact ⟨hstate, e, he, by omega⟩

theorem OutboxEvent.Held.live {o : OutboxEvent} {worker : String} {t : ℤ} (h : o.Held worker t) :
    o.Live t :=
  ⟨h.1, h.2.2⟩

/-- From the time `now` on, at most one row per aggregate is live. -/
def Exclusive (outbox : List OutboxEvent) (now : ℤ) : Prop :=
  ∀ t, now ≤ t → ∀ a ∈ outbox, ∀ b ∈ outbox, a.Live t → b.Live t → a.SameAggregate b → a = b

variable {outbox : List OutboxEvent} {now observedAt : ℤ} {o : OutboxEvent}

theorem Exclusive.mono (h : Exclusive outbox now) (hle : now ≤ observedAt) :
    Exclusive outbox observedAt :=
  fun t ht => h t (hle.trans ht)

/-- A changed row that is live only where no other row of its aggregate is. -/
theorem Exclusive.set (h : Exclusive outbox now) (hle : now ≤ observedAt)
    (hids : Table.Unique OutboxEvent.id outbox) (ho : o ∈ outbox) {f : OutboxEvent → OutboxEvent}
    (hf : (f o).SameAggregate o)
    (halone : ∀ t, observedAt ≤ t → (f o).Live t → ∀ b ∈ outbox, b.id ≠ o.id → b.Live t →
      ¬ b.SameAggregate o) :
    Exclusive (Table.set (fun x => x.id = o.id) f outbox) observedAt := by
  intro t ht a ha b hb hla hlb hab
  rcases (hids.mem_set_iff ho).1 ha with rfl | ⟨ha, hane⟩
  · rcases (hids.mem_set_iff ho).1 hb with rfl | ⟨hb, hbne⟩
    · rfl
    · refine absurd ?_ (halone t ht hla b hb hbne hlb)
      exact ⟨hab.1.symm.trans hf.1, hab.2.1.symm.trans hf.2.1, hab.2.2.symm.trans hf.2.2⟩
  · rcases (hids.mem_set_iff ho).1 hb with rfl | ⟨hb, hbne⟩
    · refine absurd ?_ (halone t ht hlb a ha hane hla)
      exact ⟨hab.1.trans hf.1, hab.2.1.trans hf.2.1, hab.2.2.trans hf.2.2⟩
    · exact h t (hle.trans ht) a ha b hb hla hlb hab

/-- The test of `claimNext` finds every live row of the aggregate. -/
theorem hasActiveWriter_of_live {b : OutboxEvent} (hb : b ∈ outbox) (hne : b.id ≠ o.id)
    (hlive : b.Live observedAt) (hsame : b.SameAggregate o) :
    hasActiveWriter outbox observedAt o = true := by
  obtain ⟨hstate, e, he, hlt⟩ := hlive
  obtain ⟨htype, haggregate, hreference⟩ := hsame
  rw [hasActiveWriter, List.any_eq_true]
  refine ⟨b, hb, ?_⟩
  simp [hne, hstate, he, hlt, htype, haggregate, hreference]

theorem Exclusive.of_effect {worker : OutboxWorkerContext} {outbox' : List OutboxEvent}
    (h : Exclusive outbox now) (hle : now ≤ observedAt)
    (hids : Table.Unique OutboxEvent.id outbox)
    (e : OutboxEffect worker observedAt true outbox outbox') : Exclusive outbox' observedAt := by
  cases e with
  | unchanged => exact h.mono hle
  | claimed o leaseDurationMs mem ready positive alone =>
    refine h.set hle hids mem ⟨rfl, rfl, rfl⟩ fun t ht _ b hb hne hlive hsame => ?_
    have hactive := hasActiveWriter_of_live hb hne (hlive.mono ht) hsame
    rw [alone rfl] at hactive
    cases hactive
  | extended o leaseDurationMs mem held positive =>
    refine h.set hle hids mem ⟨rfl, rfl, rfl⟩ fun t ht _ b hb hne hlive hsame => ?_
    exact hne (congrArg OutboxEvent.id (h observedAt hle b hb o mem (hlive.mono ht) held.live hsame))
  | released o f state mem held releases =>
    refine h.set hle hids mem (releases.aggregate o) fun t _ hlive => ?_
    rw [OutboxEvent.Live, releases.state_eq o] at hlive
    exact absurd hlive.1 releases.notClaimed

theorem Exclusive.append (h : Exclusive outbox now) (hle : now ≤ observedAt)
    (hpending : o.state = .pending) : Exclusive (outbox ++ [o]) observedAt := by
  have hdead : ∀ t, ¬ o.Live t := by
    rintro t ⟨hstate, -⟩
    rw [hpending] at hstate
    cases hstate
  intro t ht a ha b hb hla hlb hab
  rcases List.mem_append.1 ha with ha | ha
  · rcases List.mem_append.1 hb with hb | hb
    · exact h t (hle.trans ht) a ha b hb hla hlb hab
    · rw [List.mem_singleton.1 hb] at hlb
      exact absurd hlb (hdead t)
  · rw [List.mem_singleton.1 ha] at hla
    exact absurd hla (hdead t)

theorem unique_of_effect {worker : OutboxWorkerContext} {singleWriter : Bool}
    {outbox' : List OutboxEvent} (h : Table.Unique OutboxEvent.id outbox)
    (e : OutboxEffect worker observedAt singleWriter outbox outbox') :
    Table.Unique OutboxEvent.id outbox' := by
  cases e with
  | unchanged => exact h
  | claimed => exact h.set fun _ => rfl
  | extended => exact h.set fun _ => rfl
  | released o f state mem held releases => exact h.set releases.id_eq

/-! ## Every command -/

/-- What a command of the system does to the outbox. -/
theorem OutboxCommand.effect (db : Db) (observedAt : ℤ) (command : OutboxCommand)
    (hsingle : command.SingleWriter) :
    (∃ worker, OutboxEffect worker observedAt true db.outbox (command.exec db observedAt).outbox) ∨
      ∃ new, (command.exec db observedAt).outbox = db.outbox ++ [new] ∧ new.state = .pending ∧
        ∀ o ∈ db.outbox, o.id ≠ new.id := by
  cases command with
  | claimNext worker leaseDurationMs options locked =>
    left
    refine ⟨worker, ?_⟩
    rcases commit_cases (OutboxRepository.claimNext worker observedAt leaseDurationMs options
      locked) db with ⟨_, h⟩ | ⟨-, h⟩
    · rcases claimNext_spec h with ⟨-, hsame⟩ | ⟨o, c, -, -, -, -, hmem, hready, hpositive, -,
        halone, houtbox, -⟩
      · rw [exec, hsame]
        exact .unchanged _
      · rw [exec, houtbox]
        exact .claimed _ _ _ hmem hready hpositive fun _ => halone hsingle
    · rw [exec, h]
      exact .unchanged _
  | heartbeat eventId worker leaseDurationMs =>
    left
    refine ⟨worker, ?_⟩
    rcases commit_cases (OutboxRepository.heartbeat eventId worker observedAt leaseDurationMs) db with
      ⟨_, h⟩ | ⟨-, h⟩
    · obtain ⟨o, hmem, rfl, hheld, hpositive, houtbox, -⟩ := heartbeat_spec h
      rw [exec, houtbox]
      exact .extended _ _ _ hmem hheld hpositive
    · rw [exec, h]
      exact .unchanged _
  | succeed eventId worker =>
    left
    refine ⟨worker, ?_⟩
    rcases commit_cases (OutboxRepository.succeed eventId worker observedAt) db with
      ⟨_, h⟩ | ⟨-, h⟩
    · exact (succeed_spec h).effect
    · rw [exec, h]
      exact .unchanged _
  | failRetryable eventId worker settings errorClass =>
    left
    refine ⟨worker, ?_⟩
    rcases commit_cases (OutboxRepository.failRetryable eventId worker observedAt settings
      errorClass) db with ⟨_, h⟩ | ⟨-, h⟩
    · exact (failRetryable_spec h).2.effect
    · rw [exec, h]
      exact .unchanged _
  | failTerminal eventId worker errorClass =>
    left
    refine ⟨worker, ?_⟩
    rcases commit_cases (OutboxRepository.failTerminal eventId worker observedAt errorClass) db with
      ⟨_, h⟩ | ⟨-, h⟩
    · exact (failTerminal_spec h).effect
    · rw [exec, h]
      exact .unchanged _
  | insert committeeId eventType aggregateType aggregateReference schemaVersion payloadReference
      payloadDigest idempotencyKeyHash =>
    rcases commit_cases (do
      let id ← newId
      insertOutboxEvent id committeeId eventType aggregateType aggregateReference schemaVersion
        payloadReference payloadDigest idempotencyKeyHash) db with ⟨_, h⟩ | ⟨-, h⟩
    · right
      obtain ⟨id, db₁, hid, hinsert⟩ := commits_bind.1 h
      have hsame : db₁.outbox = db.outbox :=
        keeps_newId (f := fun db => db.outbox) (fun _ _ => rfl) _ _ _ hid
      obtain ⟨hnew, new, hnewId, hpending, -, -, hdb⟩ := insertOutboxEvent_spec hinsert
      refine ⟨new, ?_, hpending, ?_⟩
      · rw [exec, hdb]
        exact congrArg (· ++ [new]) hsame
      · rw [hnewId, ← hsame]
        exact hnew
    · left
      rw [exec, h]
      exact ⟨⟨"", "", ""⟩, .unchanged _⟩

/-- At every time at most one event per event type and aggregate is claimed under a lease that has
not expired. -/
theorem single_writer {s₀ s : Outbox} (hinit : s₀.Initial)
    (h : Reach Outbox.step (fun _ label => label.1.SingleWriter) s₀ s) :
    Exclusive s.db.outbox s.clock := by
  have hinv : Table.Unique OutboxEvent.id s.db.outbox ∧ Exclusive s.db.outbox s.clock := by
    refine h.invariant (I := fun s => Table.Unique OutboxEvent.id s.db.outbox ∧
      Exclusive s.db.outbox s.clock) ⟨hinit.ids, ?_⟩ ?_
    · intro t _ a ha b _ hlive
      exact absurd hlive.1 (hinit.idle a ha)
    · rintro s ⟨command, observedAt⟩ s' ⟨hids, hexclusive⟩ hsingle hstep
      unfold Outbox.step at hstep
      split_ifs at hstep with hle
      rw [← Option.some.inj hstep]
      rcases OutboxCommand.effect s.db observedAt command hsingle with
        ⟨worker, e⟩ | ⟨new, houtbox, hpending, hnew⟩
      · exact ⟨unique_of_effect hids e, hexclusive.of_effect hle hids e⟩
      · show Table.Unique OutboxEvent.id (command.exec s.db observedAt).outbox ∧
          Exclusive (command.exec s.db observedAt).outbox observedAt
        rw [houtbox]
        exact ⟨hids.append hnew, hexclusive.append hle hpending⟩
  exact hinv.2

/-- Two events of one identity, claimed by two workers. -/
def Outbox.twoWorkers : List (OutboxCommand × ℤ) :=
  let insert (key : String) := OutboxCommand.insert none "verus.anchor.requested" "verus_identity"
    "identity_one" "policy_one" ("verus_job:" ++ key) "digest" key
  let claim (worker : String) :=
    OutboxCommand.claimNext ⟨worker, "0.0.0", "correlation"⟩ 60 ⟨none, true⟩ []
  [(insert "key_one", 0), (insert "key_two", 0), (claim "worker_one", 0), (claim "worker_two", 10)]

theorem single_writer_two_workers :
    ∃ s, run Outbox.step { db := .empty, clock := 0 } Outbox.twoWorkers = some s ∧
      Exclusive s.db.outbox s.clock := by
  have hinit : Outbox.Initial { db := .empty, clock := 0 } :=
    ⟨Table.unique_nil, fun o ho => absurd ho (List.not_mem_nil)⟩
  obtain ⟨s, hs⟩ : ∃ s, run Outbox.step { db := .empty, clock := 0 } Outbox.twoWorkers = some s :=
    ⟨_, rfl⟩
  have hall : AllSteps Outbox.step (fun _ label => label.1.SingleWriter) { db := .empty, clock := 0 }
      Outbox.twoWorkers := by
    refine allSteps_of_mem (fun label hlabel s => ?_) _
    simp only [Outbox.twoWorkers, List.mem_cons, List.not_mem_nil, or_false] at hlabel
    rcases hlabel with rfl | rfl | rfl | rfl
    · trivial
    · trivial
    · rfl
    · rfl
  exact ⟨s, hs, single_writer hinit (reach_of_run hs hall)⟩

end ChecksAndBalances
