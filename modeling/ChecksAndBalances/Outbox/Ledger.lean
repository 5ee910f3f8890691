import ChecksAndBalances.Outbox.SingleWriter

/-!
# The ledger of attempts

Every attempt on an event ends in one row of `outbox_attempt`: the commands that give up a lease write
it, and so does the claim that takes over an expired lease.  The row of the current attempt is
missing exactly while the event is claimed.
-/

namespace ChecksAndBalances

open Lib Lib.Tx OutboxRepository

/-- The number of rows of an attempt on an event. -/
def attemptRows (attempts : List OutboxAttempt) (eventId : Uuid) (n : ℕ) : ℕ :=
  attempts.countP fun a => a.outboxEventId = eventId && a.attempt = n

/-- The attempt `n` on the event has ended: it is one of its attempts, and not the current one of a
claimed event. -/
def OutboxEvent.Ended (o : OutboxEvent) (n : ℕ) : Prop :=
  1 ≤ n ∧ n ≤ o.attemptCount ∧ ¬ (n = o.attemptCount ∧ o.state = .claimed)

instance (o : OutboxEvent) (n : ℕ) : Decidable (o.Ended n) :=
  inferInstanceAs (Decidable (_ ∧ _ ∧ ¬ (_ ∧ _)))

/-- One row for each attempt that has ended, and no other. -/
def OutboxEvent.Accounted (attempts : List OutboxAttempt) (o : OutboxEvent) : Prop :=
  ∀ n, attemptRows attempts o.id n = if o.Ended n then 1 else 0

/-- The event is done with. -/
def OutboxState.IsFinal (state : OutboxState) : Prop :=
  state = .succeeded ∨ state = .terminalFailed ∨ state = .deadLetter

/-- The ledger of a database. -/
structure Ledger (db : Db) : Prop where
  ids : Table.Unique OutboxEvent.id db.outbox
  rows : ∀ o ∈ db.outbox, o.Accounted db.attempts
  owners : ∀ a ∈ db.attempts, ∃ o ∈ db.outbox, o.id = a.outboxEventId

/-! ## Effects on the ledger -/

variable {attempts attempts' : List OutboxAttempt} {o : OutboxEvent}

theorem attemptRows_append (attempts : List OutboxAttempt) (new : OutboxAttempt) (eventId : Uuid)
    (n : ℕ) : attemptRows (attempts ++ [new]) eventId n =
      attemptRows attempts eventId n +
        if new.outboxEventId = eventId ∧ new.attempt = n then 1 else 0 := by
  simp [attemptRows, List.countP_append, List.countP_cons]

theorem Recorded.attemptRows_eq (h : Recorded o attempts attempts') (n : ℕ) :
    attemptRows attempts' o.id n =
      attemptRows attempts o.id n + if n = o.attemptCount then 1 else 0 := by
  obtain ⟨-, -, new, hid, hattempt, rfl⟩ := h
  rw [attemptRows_append, hid, hattempt]
  simp [eq_comm]

/-- The rows of the other events stay. -/
theorem Recorded.attemptRows_of_ne (h : Recorded o attempts attempts') {eventId : Uuid}
    (hne : eventId ≠ o.id) (n : ℕ) :
    attemptRows attempts' eventId n = attemptRows attempts eventId n := by
  obtain ⟨-, -, new, hid, -, rfl⟩ := h
  rw [attemptRows_append, hid]
  simp [Ne.symm hne]

/-- The changes of a command to the outbox and the attempts. -/
inductive LedgerEffect (db db' : Db) : Prop
  | unchanged (outbox : db'.outbox = db.outbox) (attempts : db'.attempts = db.attempts)
  | claimed (o : OutboxEvent) (f : OutboxEvent → OutboxEvent) (mem : o ∈ db.outbox)
      (ready : o.state = .pending ∨ o.state = .retryableFailed ∨ o.state = .claimed)
      (id_eq : ∀ o, (f o).id = o.id) (state_eq : (f o).state = .claimed)
      (count : (f o).attemptCount = o.attemptCount + 1)
      (outbox : db'.outbox = Table.set (fun x => x.id = o.id) f db.outbox)
      (attempts : if o.state = .claimed then Recorded o db.attempts db'.attempts
        else db'.attempts = db.attempts)
  | extended (o : OutboxEvent) (f : OutboxEvent → OutboxEvent) (mem : o ∈ db.outbox)
      (claimed : o.state = .claimed) (id_eq : ∀ o, (f o).id = o.id)
      (state_eq : (f o).state = .claimed) (count : (f o).attemptCount = o.attemptCount)
      (outbox : db'.outbox = Table.set (fun x => x.id = o.id) f db.outbox)
      (attempts : db'.attempts = db.attempts)
  | released (o : OutboxEvent) (f : OutboxEvent → OutboxEvent) (mem : o ∈ db.outbox)
      (claimed : o.state = .claimed) (id_eq : ∀ o, (f o).id = o.id)
      (state_ne : (f o).state ≠ .claimed) (count : (f o).attemptCount = o.attemptCount)
      (outbox : db'.outbox = Table.set (fun x => x.id = o.id) f db.outbox)
      (attempts : Recorded o db.attempts db'.attempts)
  | inserted (new : OutboxEvent) (pending : new.state = .pending) (count : new.attemptCount = 0)
      (fresh : ∀ o ∈ db.outbox, o.id ≠ new.id) (outbox : db'.outbox = db.outbox ++ [new])
      (attempts : db'.attempts = db.attempts)

variable {db db' : Db}

theorem GivesUp.ledgerEffect {worker : String} {observedAt : ℤ} {eventId : Uuid}
    {state : OutboxState} (h : GivesUp worker observedAt eventId state db db') :
    LedgerEffect db db' := by
  obtain ⟨o, hmem, f, rfl, hheld, hf, houtbox, hrecorded, -⟩ := h
  refine .released o f hmem hheld.1 hf.id_eq ?_ (hf.attemptCount o) houtbox hrecorded
  rw [hf.state_eq o]
  exact hf.notClaimed

/-- A transaction that is rolled back changes nothing. -/
theorem ledgerEffect_commit {α : Type} {t : DbTx α}
    (h : ∀ a, Commits t db a (commit t db) → LedgerEffect db (commit t db)) :
    LedgerEffect db (commit t db) := by
  rcases commit_cases t db with ⟨a, hcommits⟩ | ⟨-, hsame⟩
  · exact h a hcommits
  · rw [hsame]
    exact .unchanged rfl rfl

theorem OutboxCommand.ledgerEffect (db : Db) (observedAt : ℤ) (command : OutboxCommand) :
    LedgerEffect db (command.exec db observedAt) := by
  cases command with
  | claimNext worker leaseDurationMs options locked =>
    refine ledgerEffect_commit fun claim h => ?_
    rcases claimNext_spec h with ⟨-, hsame⟩ | ⟨o, c, -, -, -, -, hmem, hready, -, -, -, houtbox,
      hattempts, -⟩
    · rw [hsame]
      exact .unchanged rfl rfl
    · exact .claimed o (claimedBy worker observedAt leaseDurationMs) hmem (isReady_state hready)
        (fun _ => rfl) rfl rfl houtbox hattempts
  | heartbeat eventId worker leaseDurationMs =>
    refine ledgerEffect_commit fun expiresAt h => ?_
    obtain ⟨o, hmem, rfl, hheld, -, houtbox, hattempts, -⟩ := heartbeat_spec h
    exact .extended o (fun x => { x with leaseExpiresAt := some (observedAt + leaseDurationMs) }) hmem
      hheld.1 (fun _ => rfl) hheld.1 rfl houtbox hattempts
  | succeed eventId worker =>
    exact ledgerEffect_commit fun _ h => GivesUp.ledgerEffect (succeed_spec h)
  | failRetryable eventId worker settings errorClass =>
    exact ledgerEffect_commit fun _ h => GivesUp.ledgerEffect (failRetryable_spec h).2
  | failTerminal eventId worker errorClass =>
    exact ledgerEffect_commit fun _ h => GivesUp.ledgerEffect (failTerminal_spec h)
  | insert committeeId eventType aggregateType aggregateReference schemaVersion payloadReference
      payloadDigest idempotencyKeyHash =>
    refine ledgerEffect_commit fun _ h => ?_
    obtain ⟨id, db₁, hid, hinsert⟩ := commits_bind.1 h
    have hsame := keeps_newId (f := fun db => (db.outbox, db.attempts)) (fun _ _ => rfl) _ _ _ hid
    simp only [Prod.mk.injEq] at hsame
    obtain ⟨hnew, new, hnewId, hpending, hcount, -, hdb⟩ := insertOutboxEvent_spec hinsert
    rw [hsame.1] at hnew
    refine .inserted new hpending hcount ?_ ?_ ?_
    · rw [hnewId]
      exact hnew
    · rw [hdb]
      exact congrArg (· ++ [new]) hsame.1
    · rw [hdb]
      exact hsame.2

/-! ## The invariant -/

theorem Recorded.owners (h : Recorded o attempts attempts') {a : OutboxAttempt}
    (ha : a ∈ attempts') : a ∈ attempts ∨ a.outboxEventId = o.id := by
  obtain ⟨-, -, new, hid, -, rfl⟩ := h
  rcases List.mem_append.1 ha with ha | ha
  · exact Or.inl ha
  · rw [List.mem_singleton.1 ha]
    exact Or.inr hid

/-- A changed row that is accounted for, with every other row as it was. -/
theorem Ledger.set {f : OutboxEvent → OutboxEvent} (h : Ledger db) (ho : o ∈ db.outbox)
    (hf : ∀ o, (f o).id = o.id)
    (houtbox : db'.outbox = Table.set (fun x => x.id = o.id) f db.outbox)
    (hnew : (f o).Accounted db'.attempts)
    (hothers : ∀ eventId, eventId ≠ o.id → ∀ n,
      attemptRows db'.attempts eventId n = attemptRows db.attempts eventId n)
    (howners : ∀ a ∈ db'.attempts, a ∈ db.attempts ∨ a.outboxEventId = o.id) : Ledger db' := by
  have hmem : f o ∈ db'.outbox := by
    rw [houtbox, h.ids.mem_set_iff ho]
    exact Or.inl rfl
  refine ⟨?_, ?_, ?_⟩
  · rw [houtbox]
    exact h.ids.set hf
  · intro x hx
    rw [houtbox, h.ids.mem_set_iff ho] at hx
    rcases hx with rfl | ⟨hx, hne⟩
    · exact hnew
    · intro n
      rw [hothers x.id hne n]
      exact h.rows x hx n
  · intro a ha
    rcases howners a ha with ha | ha
    · obtain ⟨x, hx, hid⟩ := h.owners a ha
      by_cases hxo : x.id = o.id
      · exact ⟨f o, hmem, by rw [hf o, ← hxo, hid]⟩
      · refine ⟨x, ?_, hid⟩
        rw [houtbox, h.ids.mem_set_iff ho]
        exact Or.inr ⟨hx, hxo⟩
    · exact ⟨f o, hmem, by rw [hf o, ha]⟩

/-- Every command keeps the ledger. -/
theorem Ledger.of_effect (h : Ledger db) (e : LedgerEffect db db') : Ledger db' := by
  cases e with
  | unchanged houtbox hattempts =>
    refine ⟨?_, ?_, ?_⟩
    · rw [houtbox]
      exact h.ids
    · rw [houtbox, hattempts]
      exact h.rows
    · rw [houtbox, hattempts]
      exact h.owners
  | claimed o f mem ready id_eq state_eq count houtbox hattempts =>
    -- The attempt that an expired lease leaves open is recorded before the next one starts.
    by_cases hclaimed : o.state = .claimed
    · rw [if_pos hclaimed] at hattempts
      refine h.set mem id_eq houtbox ?_ (fun _ hne n => hattempts.attemptRows_of_ne hne n)
        (fun _ ha => hattempts.owners ha)
      intro n
      rw [id_eq, hattempts.attemptRows_eq, h.rows o mem n]
      have hpositive := hattempts.2.1
      simp only [OutboxEvent.Ended, hclaimed, state_eq, count, and_true]
      split_ifs <;> omega
    · rw [if_neg hclaimed] at hattempts
      refine h.set mem id_eq houtbox ?_ (fun _ _ n => by rw [hattempts]) ?_
      · intro n
        rw [id_eq, hattempts, h.rows o mem n]
        simp only [OutboxEvent.Ended, hclaimed, state_eq, count, and_true, and_false,
          not_false_eq_true]
        split_ifs <;> omega
      · intro a ha
        rw [hattempts] at ha
        exact Or.inl ha
  | extended o f mem hclaimed id_eq state_eq count houtbox hattempts =>
    refine h.set mem id_eq houtbox ?_ (fun _ _ n => by rw [hattempts]) ?_
    · intro n
      rw [id_eq, hattempts, h.rows o mem n]
      simp only [OutboxEvent.Ended, hclaimed, state_eq, count]
    · intro a ha
      rw [hattempts] at ha
      exact Or.inl ha
  | released o f mem hclaimed id_eq state_ne count houtbox hattempts =>
    refine h.set mem id_eq houtbox ?_ (fun _ hne n => hattempts.attemptRows_of_ne hne n)
      (fun _ ha => hattempts.owners ha)
    intro n
    rw [id_eq, hattempts.attemptRows_eq, h.rows o mem n]
    have hpositive := hattempts.2.1
    simp only [OutboxEvent.Ended, hclaimed, state_ne, count, and_true, and_false,
      not_false_eq_true]
    split_ifs <;> omega
  | inserted new pending count fresh houtbox hattempts =>
    refine ⟨?_, ?_, ?_⟩
    · rw [houtbox]
      exact h.ids.append fresh
    · intro x hx
      rw [houtbox, List.mem_append, List.mem_singleton] at hx
      rw [hattempts]
      rcases hx with hx | rfl
      · exact h.rows x hx
      · intro n
        have hnone : attemptRows db.attempts x.id n = 0 := by
          refine List.countP_eq_zero.2 fun a ha => ?_
          obtain ⟨y, hy, hid⟩ := h.owners a ha
          have hne := fresh y hy
          rw [hid] at hne
          simp [hne]
        have hended : ¬ x.Ended n := by
          rintro ⟨hpositive, hle, -⟩
          omega
        rw [hnone, if_neg hended]
    · intro a ha
      rw [hattempts] at ha
      obtain ⟨x, hx, hid⟩ := h.owners a ha
      rw [houtbox]
      exact ⟨x, List.mem_append_left _ hx, hid⟩

/-- A final event stays as it is. -/
theorem LedgerEffect.final (h : Ledger db) (e : LedgerEffect db db') (ho : o ∈ db.outbox)
    (hfinal : o.state.IsFinal) : o ∈ db'.outbox := by
  -- The row that a command changes is ready or claimed, so it is another one.
  have hother : ∀ x ∈ db.outbox,
      (x.state = .pending ∨ x.state = .retryableFailed ∨ x.state = .claimed) → o.id ≠ x.id := by
    intro x hx hstate hid
    rw [← h.ids o ho x hx hid] at hstate
    rcases hfinal with hf | hf | hf <;> rw [hf] at hstate <;> simp at hstate
  cases e with
  | unchanged houtbox =>
    rw [houtbox]
    exact ho
  | claimed x f mem ready id_eq state_eq count houtbox =>
    rw [houtbox, h.ids.mem_set_iff mem]
    exact Or.inr ⟨ho, hother x mem ready⟩
  | extended x f mem hclaimed id_eq state_eq count houtbox =>
    rw [houtbox, h.ids.mem_set_iff mem]
    exact Or.inr ⟨ho, hother x mem (Or.inr (Or.inr hclaimed))⟩
  | released x f mem hclaimed id_eq state_ne count houtbox =>
    rw [houtbox, h.ids.mem_set_iff mem]
    exact Or.inr ⟨ho, hother x mem (Or.inr (Or.inr hclaimed))⟩
  | inserted new pending count fresh houtbox =>
    rw [houtbox]
    exact List.mem_append_left _ ho

theorem ledger_of_reach {s₀ s : Outbox} (h₀ : Ledger s₀.db)
    (h : Reach Outbox.step (fun _ _ => True) s₀ s) : Ledger s.db := by
  refine h.invariant (I := fun s => Ledger s.db) h₀ ?_
  rintro s ⟨command, observedAt⟩ s' hs - hstep
  unfold Outbox.step at hstep
  split_ifs at hstep
  rw [← Option.some.inj hstep]
  exact hs.of_effect (command.ledgerEffect s.db observedAt)

theorem final_of_reach {s₀ s : Outbox} (h₀ : Ledger s₀.db)
    (h : Reach Outbox.step (fun _ _ => True) s₀ s) (ho : o ∈ s₀.db.outbox)
    (hfinal : o.state.IsFinal) : o ∈ s.db.outbox := by
  have hinv : Ledger s.db ∧ o ∈ s.db.outbox := by
    refine h.invariant (I := fun s => Ledger s.db ∧ o ∈ s.db.outbox) ⟨h₀, ho⟩ ?_
    rintro s ⟨command, observedAt⟩ s' ⟨hs, hmem⟩ - hstep
    unfold Outbox.step at hstep
    split_ifs at hstep
    rw [← Option.some.inj hstep]
    have heffect := command.ledgerEffect s.db observedAt
    exact ⟨hs.of_effect heffect, heffect.final hs hmem hfinal⟩
  exact hinv.2

/-- An outbox without events. -/
structure Outbox.Empty (s : Outbox) : Prop where
  outbox : s.db.outbox = []
  attempts : s.db.attempts = []

theorem Outbox.Empty.ledger {s : Outbox} (h : s.Empty) : Ledger s.db := by
  refine ⟨?_, ?_, ?_⟩
  · rw [h.outbox]
    exact Table.unique_nil
  · intro o ho
    rw [h.outbox] at ho
    exact absurd ho List.not_mem_nil
  · intro a ha
    rw [h.attempts] at ha
    exact absurd ha List.not_mem_nil

/-- Each event has one row for each of its attempts, the current one of a claimed event apart, and an
event that is done with stays so. -/
theorem attempt_ledger {s₀ s : Outbox} (hempty : s₀.Empty)
    (h : Reach Outbox.step (fun _ _ => True) s₀ s) :
    (∀ o ∈ s.db.outbox, o.Accounted s.db.attempts) ∧
      ∀ s', Reach Outbox.step (fun _ _ => True) s s' →
        ∀ o ∈ s.db.outbox, o.state.IsFinal → o ∈ s'.db.outbox := by
  have hledger := ledger_of_reach hempty.ledger h
  exact ⟨hledger.rows, fun s' h' o ho hfinal => final_of_reach hledger h' ho hfinal⟩

/-- An event whose first lease expires and which the second worker completes. -/
def Outbox.takeOver : List (OutboxCommand × ℤ) :=
  let claim (worker : String) :=
    OutboxCommand.claimNext ⟨worker, "0.0.0", "correlation"⟩ 60 ⟨none, true⟩ []
  [(.insert none "verus.anchor.requested" "verus_identity" "identity_one" "policy_one" "verus_job:one"
      "digest" "key_one", 0),
    (claim "worker_one", 0), (claim "worker_two", 70),
    (.succeed 100 ⟨"worker_two", "0.0.0", "correlation"⟩, 80)]

theorem attempt_ledger_take_over :
    ∃ s, run Outbox.step { db := .empty, clock := 0 } Outbox.takeOver = some s ∧
      (∃ o ∈ s.db.outbox, o.state = .succeeded ∧ o.attemptCount = 2) ∧
      (∀ o ∈ s.db.outbox, o.Accounted s.db.attempts) := by
  obtain ⟨s, hs, hdone⟩ : ∃ s, run Outbox.step { db := .empty, clock := 0 } Outbox.takeOver = some s ∧
      ∃ o ∈ s.db.outbox, o.state = .succeeded ∧ o.attemptCount = 2 :=
    ⟨_, rfl, by decide⟩
  have hall : AllSteps Outbox.step (fun _ _ => True) { db := .empty, clock := 0 }
      Outbox.takeOver :=
    allSteps_of_mem (fun _ _ _ => trivial) _
  exact ⟨s, hs, hdone, (attempt_ledger ⟨rfl, rfl⟩ (reach_of_run hs hall)).1⟩

end ChecksAndBalances
