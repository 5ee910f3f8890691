import ChecksAndBalances.Worker.Fencing

/-!
# The number of attempts

Only `failRetryable` looks at `maxAttempts`.  An attempt that ends without it, because its worker
crashed, threw an error that is not of Verus or lost its lease, leaves the event to the next poll
whatever its number.
-/

namespace ChecksAndBalances

open Lib Lib.Tx OutboxRepository

namespace System

variable {W : Type} [DecidableEq W] [Host] {options : W → VerusAnchorWorkerOptions}
  {s s' : System W} {act : Act W}

/-! ## Events -/

/-- What a step does to the outbox: a store call moves its rows, an enqueued anchor adds one. -/
inductive EventStep (options : W → VerusAnchorWorkerOptions) (s s' : System W) (act : Act W) : Prop
  | called (w : W) (observedAt : ℤ) (locked : List Uuid) (thread : Thread) (call : StoreCall)
      (k : call.Result → Process VerusWorkerResult) (act_eq : act = .store w observedAt locked)
      (running : s.threads w = some thread) (next : thread.process = .call (.store call) k)
      (moves : List.Forall₂ (EventMove (options w) observedAt locked s.db call) s.db.outbox
        s'.db.outbox)
  | added (new : OutboxEvent) (pending : new.state = .pending) (count : new.attemptCount = 0)
      (fresh : ∀ o ∈ s.db.outbox, o.id ≠ new.id) (outbox : s'.db.outbox = s.db.outbox ++ [new])
  | same (outbox : s'.db.outbox = s.db.outbox)

theorem Step.event (hsound : Sound options s) (h : Step options s act s') :
    EventStep options s s' act := by
  cases h with
  | enqueued input context job db added =>
    obtain ⟨new, hid, hpending, hcount, -, houtbox⟩ := added.event
    refine .added new hpending hcount (fun o ho => ?_) houtbox
    rw [hid]
    exact added.fresh o ho
  | committed w observedAt locked thread call k result db running next commits =>
    exact .called w observedAt locked thread call k rfl running next
      (StoreCall.moves hsound.ids hsound.keys commits)
  | unchanged => exact .same rfl
  | timestamp => exact .same rfl
  | begun => exact .same rfl
  | rejected => exact .same rfl
  | sent => exact .same rfl
  | received => exact .same rfl
  | crashed => exact .same rfl

omit [DecidableEq W] [Host] in
/-- Every event is still there after a step, with no fewer attempts. -/
theorem EventStep.attemptCount_le (h : EventStep options s s' act) {o : OutboxEvent}
    (ho : o ∈ s.db.outbox) : ∃ o' ∈ s'.db.outbox, o'.id = o.id ∧ o'.eventType = o.eventType ∧
      o.attemptCount ≤ o'.attemptCount := by
  cases h with
  | called w observedAt locked thread call k act_eq running next moves =>
    obtain ⟨o', ho', hmove⟩ := Table.exists_of_forall₂ moves ho
    refine ⟨o', ho', ?_⟩
    cases hmove with
    | same => exact ⟨rfl, rfl, le_rfl⟩
    | claimed => exact ⟨rfl, rfl, Nat.le_succ _⟩
    | extended => exact ⟨rfl, rfl, le_rfl⟩
    | released f state event release held releases =>
      exact ⟨releases.id_eq o, (releases.aggregate o).1, (releases.attemptCount o).ge⟩
  | added new pending count fresh outbox =>
    rw [outbox]
    exact ⟨o, List.mem_append_left _ ho, rfl, rfl, le_rfl⟩
  | same outbox =>
    rw [outbox]
    exact ⟨o, ho, rfl, rfl, le_rfl⟩

/-! ## Claims of an event -/

/-- The act is a poll that takes the event. -/
def claims (options : W → VerusAnchorWorkerOptions) (eventId : Uuid) (s : System W) : Act W → Bool
  | .store w observedAt locked =>
    match s.threads w with
    | some { process := .call (.store .claimNext) _, .. } =>
      match StoreCall.claimNext.exec (options w) observedAt locked s.db with
      | .ok (some c, _) => c.id = eventId
      | _ => false
    | _ => false
  | _ => false

/-- How often the event is taken when the acts are executed. -/
def claimCount (options : W → VerusAnchorWorkerOptions) (eventId : Uuid) :
    System W → List (Act W) → ℕ
  | _, [] => 0
  | s, act :: acts => (if s.claims options eventId act then 1 else 0) +
      match s.step options act with
      | some s' => claimCount options eventId s' acts
      | none => 0

/-- An anchor event under the identifier has at least `n` attempts. -/
def Taken (eventId : Uuid) (n : ℕ) (s : System W) : Prop :=
  ∃ o ∈ s.db.outbox, o.id = eventId ∧ o.eventType = verusAnchorEventType ∧ n ≤ o.attemptCount

omit [DecidableEq W] [Host] in
theorem claims_spec {eventId : Uuid} (h : s.claims options eventId act = true) :
    ∃ w observedAt locked thread k c db, act = .store w observedAt locked ∧
      s.threads w = some thread ∧ thread.process = .call (.store .claimNext) k ∧
      Commits (StoreCall.claimNext.exec (options w) observedAt locked) s.db (some c) db ∧
      c.id = eventId := by
  unfold claims at h
  split at h
  · next w observedAt locked =>
    split at h
    · next k inFlight attempt hthread =>
      split at h
      · next c db hexec =>
        exact ⟨w, observedAt, locked, _, k, c, db, rfl, hthread, rfl, hexec, of_decide_eq_true h⟩
      · cases h
    · cases h
  · cases h

/-- A poll that takes the event adds an attempt to it. -/
theorem Taken.claimed {eventId : Uuid} {n : ℕ} (hsound : Sound options s)
    (h : n = 0 ∨ s.Taken eventId n) (hclaims : s.claims options eventId act = true)
    (hstep : s.step options act = some s') : s'.Taken eventId (n + 1) := by
  obtain ⟨w, observedAt, locked, thread, k, c, db, rfl, hrunning, hnext, hcommits, hc⟩ :=
    claims_spec hclaims
  have hdb : s'.db = db := by
    simp only [step, hrunning, Option.bind_some, storeStep, hnext] at hstep
    rw [show StoreCall.claimNext.exec (options w) observedAt locked s.db = .ok (some c, db) from
      hcommits] at hstep
    rw [← Option.some.inj hstep]
  rcases claimNext_spec hcommits with ⟨hnone, -⟩ | ⟨o, c', hsome, hid, -, -, ho, -, -, htypes, -,
    houtbox, -⟩
  · cases hnone
  · cases hsome
    have hcount : n ≤ o.attemptCount := by
      rcases h with rfl | ⟨x, hx, hxid, -, hle⟩
      · exact Nat.zero_le _
      · rw [← hsound.ids x hx o ho (by rw [hxid, ← hc, hid])]
        exact hle
    refine ⟨claimedBy (options w).worker observedAt (options w).leaseDurationMs o, ?_,
      hid.symm.trans hc, List.mem_singleton.1 (htypes _ rfl), Nat.succ_le_succ hcount⟩
    rw [hdb, houtbox, hsound.ids.mem_set_iff ho]
    exact Or.inl rfl

/-- The attempts of an event count the polls that took it. -/
theorem taken_of_run (eventId : Uuid) {acts : List (Act W)} {n : ℕ} (hsound : Sound options s)
    (h : n = 0 ∨ s.Taken eventId n) (hrun : run (System.step options) s acts = some s') :
    n + s.claimCount options eventId acts = 0 ∨
      s'.Taken eventId (n + s.claimCount options eventId acts) := by
  induction acts generalizing s n with
  | nil =>
    rw [← Option.some.inj hrun]
    exact h
  | cons act acts ih =>
    simp only [run, Option.bind_eq_some_iff] at hrun
    obtain ⟨s₁, hstep, hrest⟩ := hrun
    have hsound₁ := hsound.step (step_inv hstep)
    simp only [claimCount, hstep, ← Nat.add_assoc]
    refine ih hsound₁ ?_ hrest
    cases hclaims : s.claims options eventId act with
    | true => exact Or.inr (Taken.claimed hsound h hclaims hstep)
    | false =>
      rcases h with rfl | ⟨o, ho, hid, htype, hle⟩
      · exact Or.inl rfl
      · obtain ⟨o', ho', hid', htype', hle'⟩ := ((step_inv hstep).event hsound).attemptCount_le ho
        exact Or.inr ⟨o', ho', hid'.trans hid, htype'.trans htype, hle.trans hle'⟩

/-! ## The bound -/

/-- No poll selects an event whose attempts are used up, unless it failed retryably. -/
def Unexhausted (m : ℕ) (s : System W) : Act W → Prop
  | .store w observedAt locked => s.Polls w → ∀ o,
      candidate s.db.outbox observedAt (some [verusAnchorEventType]) true locked = some o →
      o.state ≠ .retryableFailed → o.attemptCount < m
  | _ => True

/-- An anchor event has at most `m` attempts, and one that waits for the next has fewer. -/
def Within (m : ℕ) (s : System W) : Prop :=
  ∀ o ∈ s.db.outbox, o.eventType = verusAnchorEventType →
    o.attemptCount ≤ m ∧ (o.state = .retryableFailed → o.attemptCount < m)

omit [DecidableEq W] [Host] in
theorem Initial.within (m : ℕ) (h : s.Initial) : s.Within m :=
  fun o ho htype => absurd htype (h.events o ho)

omit [DecidableEq W] [Host] in
theorem Within.step {m : ℕ} (h : s.Within m) (hretry : ∀ w, (options w).retry.maxAttempts = m)
    (hunexhausted : s.Unexhausted m act) (hevent : EventStep options s s' act) : s'.Within m := by
  cases hevent with
  | called w observedAt locked thread call k act_eq running next moves =>
    intro o' ho' htype
    obtain ⟨o, ho, hmove⟩ := Table.exists_of_forall₂ moves.flip ho'
    cases hmove with
    | same => exact h _ ho htype
    | claimed poll selected =>
      have hcount : o.attemptCount < m := by
        by_cases hfailed : o.state = .retryableFailed
        · exact (h o ho htype).2 hfailed
        · rw [act_eq] at hunexhausted
          subst poll
          exact hunexhausted ⟨thread, k, running, next⟩ o selected hfailed
      exact ⟨hcount, fun hfailed => by cases hfailed⟩
    | extended => exact h o ho htype
    | released f state event release held releases =>
      rw [(releases.aggregate o).1] at htype
      obtain ⟨hle, -⟩ := h o ho htype
      rw [releases.attemptCount o, releases.state_eq o]
      refine ⟨hle, fun hfailed => ?_⟩
      cases call with
      | failRetryable eventId errorClass =>
        have hstate := Option.some.inj release
        rw [hfailed, retryState] at hstate
        split_ifs at hstate with hexhausted
        simp only [exhausted, hretry, decide_eq_true_eq, not_le] at hexhausted
        exact_mod_cast hexhausted
      | succeed =>
        rw [hfailed] at release
        cases release
      | failTerminal =>
        rw [hfailed] at release
        cases release
      | _ => cases release
  | added new pending count fresh outbox =>
    intro o ho htype
    rw [outbox, List.mem_append, List.mem_singleton] at ho
    rcases ho with ho | rfl
    · exact h o ho htype
    · rw [count, pending]
      exact ⟨Nat.zero_le _, fun hfailed => by cases hfailed⟩
  | same outbox =>
    intro o ho
    rw [outbox] at ho
    exact h o ho

/-- Under the condition every event is claimed at most `m` times. -/
theorem bounded_attempts {m : ℕ} {s₀ : System W} {acts : List (Act W)} (hinit : s₀.Initial)
    (hretry : ∀ w, (options w).retry.maxAttempts = m)
    (hrun : run (System.step options) s₀ acts = some s)
    (hall : AllSteps (System.step options) (Unexhausted m) s₀ acts) (eventId : Uuid) :
    s₀.claimCount options eventId acts ≤ m := by
  have hinv : Sound options s ∧ s.Within m := by
    refine (reach_of_run hrun hall).invariant (I := fun s => Sound options s ∧ s.Within m)
      ⟨hinit.sound, hinit.within m⟩ ?_
    rintro s act s' ⟨hsound, hwithin⟩ hunexhausted hstep
    have hstep' := step_inv hstep
    exact ⟨hsound.step hstep', hwithin.step hretry hunexhausted (hstep'.event hsound)⟩
  rcases taken_of_run eventId (n := 0) hinit.sound (Or.inl rfl) hrun with hzero | ⟨o, ho, -, htype, hle⟩
  · omega
  · have hwithin := (hinv.2 o ho htype).1
    omega

end System

namespace WorkerSample

/-- A worker claims the event and crashes, again and again, each time after its lease expired. -/
def crashes (n : ℕ) : List (Act Bool) :=
  .enqueue (input "one") (context "one") :: (List.range n).flatMap fun i =>
    .begin true :: calls true (60000 * i) 2 ++ [.crash true]

/-- No event has used up its attempts. -/
def hasAttempts (m : ℕ) (s : System Bool) (_ : Act Bool) : Bool :=
  s.db.outbox.all fun o => o.attemptCount < m

theorem unexhausted_of_hasAttempts {m : ℕ} (s : System Bool) (act : Act Bool)
    (h : hasAttempts m s act = true) : s.Unexhausted m act := by
  cases act with
  | store w observedAt locked =>
    intro _ o hcandidate _
    have ho := (candidate_spec hcandidate).1
    simpa using List.all_eq_true.1 h o ho
  | _ => trivial

theorem bounded_attempts_two_crashes :
    start.claimCount (workers fun _ => 7) 100 (crashes 2) = 2 ∧
      start.claimCount (workers fun _ => 7) 100 (crashes 2) ≤ 8 := by
  have hcheck : (run (System.step (workers fun _ => 7)) start (crashes 2)).isSome = true ∧
      checkSteps (System.step (workers fun _ => 7)) (hasAttempts 8) start (crashes 2) = true ∧
      start.claimCount (workers fun _ => 7) 100 (crashes 2) = 2 := by
    decide +kernel
  obtain ⟨s, hrun⟩ := Option.isSome_iff_exists.1 hcheck.1
  exact ⟨hcheck.2.2, System.bounded_attempts start_initial (fun _ => rfl) hrun
    (allSteps_of_check unexhausted_of_hasAttempts hcheck.2.1) 100⟩

/-- With the settings of `main.ts` an event is claimed for the ninth time. -/
theorem claimed_nine_times : ∃ s,
    run (System.step (workers fun _ => 7)) start (crashes 9) = some s ∧
      (∀ w, (workers (fun _ => 7) w).retry.maxAttempts = 8) ∧
      8 < start.claimCount (workers fun _ => 7) 100 (crashes 9) := by
  have hcheck : (run (System.step (workers fun _ => 7)) start (crashes 9)).isSome = true ∧
      start.claimCount (workers fun _ => 7) 100 (crashes 9) = 9 := by
    decide +kernel
  obtain ⟨s, hrun⟩ := Option.isSome_iff_exists.1 hcheck.1
  refine ⟨s, hrun, fun _ => rfl, ?_⟩
  rw [hcheck.2]
  decide

end WorkerSample

end ChecksAndBalances
