import ChecksAndBalances.Worker.Current

/-!
# The workers and the chain

The updates of identities that took effect, beside the system of workers.  A write may take effect as
it is sent or at any later time, whether or not its worker gets to know.
-/

namespace ChecksAndBalances

open Lib Lib.Tx OutboxRepository

/-- An update of an identity that took effect: the call that made it, its transaction, and the length
of the log by then. -/
structure ChainUpdate where
  eventId : Uuid
  attempt : ℕ
  update : PreparedIdentityUpdate
  transactionId : String
  time : ℕ

/-- The workers, and the updates that took effect, latest first. -/
structure Chain (W : Type) where
  system : System W
  updates : List ChainUpdate

/-- What can happen next: a step of the workers, the sending of a write that takes effect at once, or
the effect of the write that the entry `i` of the log tells of. -/
inductive ChainAct (W : Type) where
  | act (act : Act W)
  | write (w : W) (transactionId : String)
  | create (i : ℕ) (transactionId : String)

/-- The most recent update of the identity. -/
def latestUpdate (updates : List ChainUpdate) (identity : String) : Option ChainUpdate :=
  updates.find? fun u => u.update.identity.identityAddress = identity

/-- The claim and the update of a worker that is about to write. -/
def System.writing {W : Type} (s : System W) (w : W) : Option (OutboxClaim × PreparedIdentityUpdate) :=
  match s.threads w with
  | some { process := .call (.rpc (.updateIdentity update)) _, attempt, .. } =>
    attempt.claim.map fun c => (c, update)
  | _ => none

theorem System.writing_spec {W : Type} {s : System W} {w : W} {c : OutboxClaim}
    {update : PreparedIdentityUpdate} (h : s.writing w = some (c, update)) :
    ∃ thread k, s.threads w = some thread ∧
      thread.process = .call (.rpc (.updateIdentity update)) k ∧ thread.attempt.claim = some c := by
  unfold System.writing at h
  split at h
  · next update' k inFlight attempt hthread =>
    obtain ⟨c', hclaim, heq⟩ := Option.map_eq_some_iff.1 h
    cases heq
    exact ⟨_, k, hthread, rfl, hclaim⟩
  · cases h

namespace Chain

variable {W : Type} [DecidableEq W] [Host] {options : W → VerusAnchorWorkerOptions}
  {s s' : Chain W} {act : ChainAct W}

/-- One step of the workers or of the chain. -/
def step (options : W → VerusAnchorWorkerOptions) (s : Chain W) : ChainAct W → Option (Chain W)
  | .act act => (s.system.step options act).map fun system => { s with system }
  | .write w transactionId => do
    let (c, update) ← s.system.writing w
    let system ← s.system.step options (.send w)
    return { system
             updates := ⟨c.id, c.attempt, update, transactionId, system.log.length⟩ :: s.updates }
  | .create i transactionId =>
    match s.system.log[i]? with
    | some (.sent eventId n (.updateIdentity update)) =>
      some
        { s with
          updates := ⟨eventId, n, update, transactionId, s.system.log.length⟩ :: s.updates }
    | _ => none

/-- The effect of each act. -/
inductive Step (options : W → VerusAnchorWorkerOptions) (s : Chain W) :
    ChainAct W → Chain W → Prop
  | acted (act : Act W) (system : System W) (step : System.Step options s.system act system) :
      Step options s (.act act) { s with system }
  | wrote (w : W) (transactionId : String) (thread : Thread) (update : PreparedIdentityUpdate)
      (k : (Rpc.updateIdentity update).Result → Process VerusWorkerResult) (c : OutboxClaim)
      (system : System W) (running : s.system.threads w = some thread)
      (next : thread.process = .call (.rpc (.updateIdentity update)) k)
      (claim : thread.attempt.claim = some c)
      (step : System.Step options s.system (.send w) system)
      (sent : Entry.sent c.id c.attempt (.updateIdentity update) ∈ system.log) :
      Step options s (.write w transactionId)
        { system
          updates := ⟨c.id, c.attempt, update, transactionId, system.log.length⟩ :: s.updates }
  | created (i : ℕ) (transactionId : String) (eventId : Uuid) (n : ℕ)
      (update : PreparedIdentityUpdate)
      (sent : Entry.sent eventId n (.updateIdentity update) ∈ s.system.log) :
      Step options s (.create i transactionId)
        { s with
          updates := ⟨eventId, n, update, transactionId, s.system.log.length⟩ :: s.updates }

/-- Every step is one of the cases. -/
theorem step_inv (h : s.step options act = some s') : Step options s act s' := by
  cases act with
  | act act =>
    obtain ⟨system, hstep, rfl⟩ := Option.map_eq_some_iff.1 h
    exact .acted act system (System.step_inv hstep)
  | write w transactionId =>
    simp only [step, Option.bind_eq_bind, Option.bind_eq_some_iff, Option.pure_def,
      Option.some.injEq] at h
    obtain ⟨⟨c, update⟩, hwriting, system, hstep, rfl⟩ := h
    obtain ⟨thread, k, running, next, claim⟩ := System.writing_spec hwriting
    have hstep := System.step_inv hstep
    refine .wrote w transactionId thread update k c system running next claim hstep ?_
    cases hstep with
    | sent _ thread' request k' running' next' ready =>
      rw [running] at running'
      cases running'
      rw [next] at next'
      cases next'
      simp [Attempt.entry, claim]
  | create i transactionId =>
    simp only [step] at h
    split at h
    · next eventId n update hentry =>
      rw [← Option.some.inj h]
      exact .created i transactionId eventId n update (List.mem_of_getElem? hentry)
    · cases h

/-- No job is enqueued yet, no worker runs and nothing was written. -/
structure Initial (s : Chain W) : Prop where
  system : s.system.Initial
  updates : s.updates = []

end Chain

end ChecksAndBalances
