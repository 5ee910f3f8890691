import ChecksAndBalances.Auth.Keys

/-!
# The states of an account

Recovery, lock and email change look at the state of the account first; `activateCommittee` looks at
the access of one committee and sets the account to `active` whatever its state.  Every operation is
one transaction, so a run is a sequence of operations.
-/

namespace ChecksAndBalances

open Lib Lib.Tx AuthRepository

variable {db db' : Db}

/-! ## The system -/

/-- A committed operation of `AuthRepository`. -/
structure AccountEntry where
  call : ServiceCall
  answer : call.Answer
  before : Db
  after : Db

/-- The database and the committed operations, latest first. -/
structure AccountSystem where
  db : Db
  log : List AccountEntry

/-- What can happen next. -/
inductive AccountAct where
  | execute (call : ServiceCall)
  /-- Everything else that happens to the database. -/
  | elsewhere (db : Db)

/-- One step of the system: only `AuthRepository` writes accounts. -/
def AccountSystem.step (config : AuthConfig) (s : AccountSystem) :
    AccountAct → Option AccountSystem
  | .execute call => (call.exec config).map fun transaction =>
    match transaction s.db with
    | .ok (answer, db) => { db, log := { call, answer, before := s.db, after := db } :: s.log }
    | .error _ => s
  | .elsewhere db => if db.authAccounts = s.db.authAccounts then some { s with db } else none

/-! ## What an operation does to the accounts -/

/-- The accounts. -/
def Db.accountRows (db : Db) : List AuthAccount := db.authAccounts

/-- The operations that write accounts. -/
def ServiceCall.writesAccounts : ServiceCall → Bool
  | email (.store (.recoverAndRevokeSessions _)) => true
  | email (.store (.lockAndRevokeSessions _)) => true
  | account (.createAccount _) => true
  | account (.activateCommittee _) => true
  | _ => false

/-- The accounts after an operation. -/
inductive AccountEffect (accounts : List AuthAccount) : ServiceCall → List AuthAccount → Prop where
  | kept {call : ServiceCall} (hcall : call.writesAccounts = false) :
      AccountEffect accounts call accounts
  | created {input : CreateAuthAccountInput} (a : AuthAccount)
      (hfresh : ∀ b ∈ accounts, b.id ≠ a.id ∧ b.externalReference ≠ a.externalReference) :
      AccountEffect accounts (.account (.createAccount input)) (accounts ++ [a])
  | recovered {input : RecoverInput} (a : AuthAccount) (f : AuthAccount → AuthAccount)
      (ha : a ∈ accounts) (hreference : a.externalReference = input.accountReference)
      (hdomain : a.trustDomain = input.trustDomain) (hstate : a.state = .active ∨ a.state = .locked)
      (hidentity : ∀ b, (f b).identity = b.identity)
      (hf : ∀ b, (f b).state = if input.committeeReviewRequired then .suspended else .active) :
      AccountEffect accounts (.email (.store (.recoverAndRevokeSessions input)))
        (Table.set (fun b => b.id = a.id) f accounts)
  | locked {input : LockInput} (accountId : Uuid) (f : AuthAccount → AuthAccount)
      (hidentity : ∀ b, (f b).identity = b.identity) (hf : ∀ b, (f b).state = .locked) :
      AccountEffect accounts (.email (.store (.lockAndRevokeSessions input)))
        (Table.set (fun b => b.id = accountId) f accounts)
  | activated {input : CommitteeActivationInput} (f : AuthAccount → AuthAccount)
      (hidentity : ∀ b, (f b).identity = b.identity) (hf : ∀ b, (f b).state = .active) :
      AccountEffect accounts (.account (.activateCommittee input))
        (Table.set
          (fun b => b.externalReference = input.accountReference && b.trustDomain = .committee) f
          accounts)

theorem keeps_updateSessions {τ : Type} {f : Db → τ}
    (hf : ∀ db rows, f { db with authSessions := rows } = f db) (selected : AuthSession → Bool)
    (g : AuthSession → AuthSession) : Keeps f (updateSessions selected g) :=
  keeps_get.bind fun _ => keeps_lift.bind fun _ => keeps_modify fun _ => hf _ _

theorem keeps_updatePasskey {τ : Type} {f : Db → τ}
    (hf : ∀ db rows, f { db with passkeys := rows } = f db) (selected : PasskeyMetadata → Bool)
    (g : PasskeyMetadata → PasskeyMetadata) (message : String) :
    Keeps f (updatePasskey selected g message) :=
  keeps_get.bind fun _ => keeps_lift.bind fun _ => keeps_require.bind fun _ =>
    keeps_modify fun _ => hf _ _

/-- The operations on sessions leave accounts alone. -/
theorem keepsAccounts_session (sessionKeyVersions : TrustDomain → String)
    (call : SessionStoreCall) : Keeps Db.accountRows (call.exec sessionKeyVersions) := by
  cases call with
  | create record =>
    refine (keeps_account _ _).bind fun a => keeps_require.bind fun _ => keeps_get.bind fun _ => ?_
    refine keeps_lift.bind fun _ => keeps_require.bind fun _ => keeps_require.bind fun _ => ?_
    exact keeps_modify fun _ => rfl
  | findByTokenDigest trustDomain tokenDigest => exact keeps_get.bind fun _ => keeps_pure
  | revoke sessionId reason atTime => exact keeps_updateSessions (fun _ _ => rfl) _ _
  | revokeAll reference trustDomain reason atTime =>
    exact keeps_get.bind fun _ => (keeps_updateSessions (fun _ _ => rfl) _ _).bind fun _ => keeps_pure
  | touch sessionId idleExpiresAt atTime => exact keeps_updateSessions (fun _ _ => rfl) _ _

/-- The operations on passkeys leave accounts alone. -/
theorem keepsAccounts_passkey (call : PasskeyStoreCall) : Keeps Db.accountRows call.exec := by
  cases call with
  | listActive reference trustDomain => exact keeps_get.bind fun _ => keeps_pure
  | findActive reference trustDomain => exact keeps_get.bind fun _ => keeps_pure
  | save credential createdAt =>
    refine (keeps_account _ _).bind fun a => keeps_require.bind fun _ => ?_
    refine Keeps.bind (keeps_newId fun _ _ => rfl) fun _ => keeps_get.bind fun _ => ?_
    refine keeps_lift.bind fun _ => keeps_require.bind fun _ => keeps_require.bind fun _ => ?_
    exact keeps_modify fun _ => rfl
  | updateUsage input => exact keeps_updatePasskey (fun _ _ => rfl) _ _ _
  | revokeCredential credentialReference accountReference revokedAt =>
    exact keeps_get.bind fun _ => keeps_updatePasskey (fun _ _ => rfl) _ _ _

/-- The operations on challenges, buckets and contacts leave accounts alone. -/
theorem keepsAccounts_email {call : AuthStoreCall}
    (hcall : (ServiceCall.email (.store call)).writesAccounts = false) :
    Keeps Db.accountRows call.exec := by
  cases call with
  | increment input =>
    refine keeps_get.bind fun db => ?_
    split
    · exact Keeps.bind (keeps_modify fun _ => by rfl) fun _ => keeps_pure
    · exact keeps_require.bind fun _ =>
        Keeps.bind (keeps_modify fun _ => by rfl) fun _ => keeps_pure
  | findByLookupDigest trustDomain lookupDigest => exact keeps_get.bind fun _ => keeps_pure
  | createChallenge record =>
    intro db answer db' h
    obtain ⟨challenge, -, rfl⟩ := commits_newChallenge h
    rfl
  | consume input =>
    intro db answer db' h
    obtain ⟨-, rfl⟩ := commits_consume h
    rfl
  | recoverAndRevokeSessions input => cases hcall
  | lockAndRevokeSessions input => cases hcall
  | changeVerifiedEmail input =>
    refine keeps_require.bind fun _ => (keeps_account _ _).bind fun a => ?_
    refine keeps_require.bind fun _ => keeps_get.bind fun _ => keeps_lift.bind fun _ => ?_
    refine Keeps.bind (keeps_modify fun _ => by rfl) fun _ => ?_
    refine Keeps.bind ?_ fun _ => ?_
    · refine Keeps.bind (keeps_newId fun _ _ => rfl) fun id => keeps_get.bind fun _ => ?_
      refine keeps_lift.bind fun _ => keeps_require.bind fun _ => keeps_require.bind fun _ => ?_
      exact keeps_modify fun _ => rfl
    · refine Keeps.bind (keeps_get.bind fun _ => Keeps.bind (keeps_modify fun _ => by rfl)
        fun _ => keeps_pure) fun _ => ?_
      exact (keeps_appendSecurityAudit (fun _ _ _ _ => rfl) _ _ _ _ _).bind fun _ => keeps_pure

/-- Invitations, approvals and contacts leave accounts alone. -/
theorem keepsAccounts_account {call : AccountStoreCall}
    (hcall : (ServiceCall.account call).writesAccounts = false) :
    Keeps Db.accountRows call.exec := by
  cases call with
  | createAccount input => cases hcall
  | registerVerifiedEmail input =>
    refine keeps_require.bind fun _ => keeps_require.bind fun _ => (keeps_account _ _).bind fun _ => ?_
    refine (keeps_participantId _).bind fun _ => ?_
    refine Keeps.bind (keeps_newId fun _ _ => rfl) fun id => keeps_get.bind fun _ => ?_
    refine keeps_lift.bind fun _ => keeps_require.bind fun _ => keeps_require.bind fun _ => ?_
    exact keeps_modify fun _ => rfl
  | inviteCommittee input =>
    refine (keeps_account _ _).bind fun a => ?_
    refine Keeps.bind (keeps_get.bind fun _ => keeps_found) fun c => ?_
    refine Keeps.bind (keeps_newId fun _ _ => rfl) fun id => keeps_get.bind fun _ => ?_
    refine keeps_lift.bind fun _ => keeps_require.bind fun _ => keeps_require.bind fun _ => ?_
    exact keeps_modify fun _ => rfl
  | approveCommittee input =>
    exact keeps_get.bind fun _ => keeps_updateAccess (fun _ _ => rfl) _ _ _
  | activateCommittee input => cases hcall

theorem accounts_recover {input : RecoverInput} {count : ℕ}
    (h : Commits (recoverAndRevokeSessions input) db count db') :
    AccountEffect db.authAccounts (.email (.store (.recoverAndRevokeSessions input)))
      db'.authAccounts := by
  obtain ⟨a, db₁, haccount, hbody⟩ := commits_bind.1 h
  obtain ⟨rfl, ha, hreference, hdomain⟩ := commits_domainAccount haccount
  rw [commits_require_bind] at hbody
  obtain ⟨_, db₂, hrevoke, hrest⟩ := commits_bind.1 hbody.2
  obtain rfl := commits_revokeSessions hrevoke
  obtain ⟨_, db₃, hupdate, haudit⟩ := commits_bind.1 hrest
  obtain rfl := commits_modify.1 hupdate
  have hrows : db'.accountRows = _ := ((keeps_appendAudit (f := Db.accountRows)
    (fun _ _ _ _ => rfl) _ _ _ _ _).bind fun _ => keeps_pure) _ _ _ haudit
  rw [show db'.authAccounts = _ from hrows]
  exact .recovered a _ ha hreference hdomain hbody.1 (fun _ => rfl) fun _ => rfl

theorem accounts_lock {input : LockInput} {count : ℕ}
    (h : Commits (lockAndRevokeSessions input) db count db') :
    AccountEffect db.authAccounts (.email (.store (.lockAndRevokeSessions input)))
      db'.authAccounts := by
  obtain ⟨a, db₁, haccount, hbody⟩ := commits_bind.1 h
  obtain ⟨rfl, -⟩ := commits_domainAccount haccount
  rw [commits_require_bind] at hbody
  obtain ⟨_, db₂, hrevoke, hrest⟩ := commits_bind.1 hbody.2
  obtain rfl := commits_revokeSessions hrevoke
  obtain ⟨_, db₃, hupdate, haudit⟩ := commits_bind.1 hrest
  obtain rfl := commits_modify.1 hupdate
  have hrows : db'.accountRows = _ := ((keeps_appendSecurityAudit (f := Db.accountRows)
    (fun _ _ _ _ => rfl) _ _ _ _ _).bind fun _ => keeps_pure) _ _ _ haudit
  rw [show db'.authAccounts = _ from hrows]
  exact .locked a.id _ (fun _ => rfl) fun _ => rfl

theorem accounts_create {input : CreateAuthAccountInput} {u : Unit}
    (h : Commits (createAccount input) db u db') :
    AccountEffect db.authAccounts (.account (.createAccount input)) db'.authAccounts := by
  unfold createAccount requireOpaqueReference at h
  rw [commits_require_bind] at h
  obtain ⟨_, db₁, hparticipant, hbody⟩ := commits_bind.1 h.2
  obtain rfl : db = db₁ := (keeps_participantId (f := fun db => db) _ _ _ _ hparticipant).symm
  obtain ⟨accountId, db₂, hid, hrow⟩ := commits_bind.1 hbody
  obtain ⟨rfl, rfl⟩ := commits_newId.1 hid
  simp only [requireUnique, commits_require_bind, commits_get_bind, commits_modify] at hrow
  obtain ⟨-, -, hfreshId, hfreshReference, -, rfl⟩ := hrow
  refine .created _ fun b hb => ?_
  simp only [List.all_eq_true, Bool.not_eq_true', decide_eq_false_iff_not] at *
  exact ⟨hfreshId b hb, hfreshReference b hb⟩

theorem accounts_activate {input : CommitteeActivationInput} {u : Unit}
    (h : Commits (AuthRepository.activateCommittee input) db u db') :
    AccountEffect db.authAccounts (.account (.activateCommittee input)) db'.authAccounts := by
  unfold AuthRepository.activateCommittee at h
  rw [commits_get_bind] at h
  obtain ⟨_, db₁, haccess, hupdate⟩ := commits_bind.1 h
  obtain rfl := commits_modify.1 hupdate
  have hrows : db₁.accountRows = db.accountRows :=
    keeps_updateAccess (fun _ _ => rfl) _ _ _ _ _ _ haccess
  show AccountEffect _ _ (Table.set _ _ db₁.accountRows)
  rw [hrows]
  exact .activated _ (fun _ => rfl) fun _ => rfl

/-- The operations that write accounts. -/
theorem writesAccounts_cases {call : ServiceCall} (h : call.writesAccounts = true) :
    (∃ input, call = .email (.store (.recoverAndRevokeSessions input))) ∨
    (∃ input, call = .email (.store (.lockAndRevokeSessions input))) ∨
    (∃ input, call = .account (.createAccount input)) ∨
    (∃ input, call = .account (.activateCommittee input)) := by
  unfold ServiceCall.writesAccounts at h
  split at h
  · exact Or.inl ⟨_, rfl⟩
  · exact Or.inr (Or.inl ⟨_, rfl⟩)
  · exact Or.inr (Or.inr (Or.inl ⟨_, rfl⟩))
  · exact Or.inr (Or.inr (Or.inr ⟨_, rfl⟩))
  · cases h

/-- What every operation does to the accounts. -/
theorem ServiceCall.accounts {config : AuthConfig} {call : ServiceCall} {answer : call.Answer}
    {transaction : DbTx call.Answer} (hexec : call.exec config = some transaction)
    (h : Commits transaction db answer db') :
    AccountEffect db.authAccounts call db'.authAccounts := by
  by_cases hcall : call.writesAccounts = true
  · rcases writesAccounts_cases hcall with ⟨input, rfl⟩ | ⟨input, rfl⟩ | ⟨input, rfl⟩ | ⟨input, rfl⟩
    · obtain rfl := Option.some.inj hexec
      exact accounts_recover h
    · obtain rfl := Option.some.inj hexec
      exact accounts_lock h
    · obtain rfl := Option.some.inj hexec
      exact accounts_create h
    · obtain rfl := Option.some.inj hexec
      exact accounts_activate h
  · rw [Bool.not_eq_true] at hcall
    have hkept : Keeps Db.accountRows transaction := by
      cases call with
      | email call =>
        cases call with
        | store call =>
          obtain rfl := Option.some.inj hexec
          exact keepsAccounts_email hcall
        | host call => cases hexec
      | session call =>
        obtain rfl := Option.some.inj hexec
        exact keepsAccounts_session _ call
      | passkey call =>
        obtain rfl := Option.some.inj hexec
        exact keepsAccounts_passkey call
      | account call =>
        obtain rfl := Option.some.inj hexec
        exact keepsAccounts_account hcall
      | webAuthn call => cases hexec
    rw [show db'.authAccounts = db.authAccounts from hkept _ _ _ h]
    exact .kept hcall

/-! ## Keys -/

/-- The accounts as their unique indexes leave them. -/
structure KeyedAccounts (accounts : List AuthAccount) : Prop where
  ids : (accounts.map AuthAccount.id).Nodup
  references : (accounts.map AuthAccount.externalReference).Nodup

theorem KeyedAccounts.set {accounts : List AuthAccount} (h : KeyedAccounts accounts)
    (p : AuthAccount → Bool) {f : AuthAccount → AuthAccount}
    (hf : ∀ a, (f a).identity = a.identity) : KeyedAccounts (Table.set p f accounts) where
  ids := Table.nodup_set h.ids fun a => congrArg Prod.fst (hf a)
  references := Table.nodup_set h.references fun a => congrArg (fun i => i.2.1) (hf a)

theorem KeyedAccounts.effect {accounts accounts' : List AuthAccount} (h : KeyedAccounts accounts)
    {call : ServiceCall} (heffect : AccountEffect accounts call accounts') :
    KeyedAccounts accounts' := by
  cases heffect with
  | kept hcall => exact h
  | created a hfresh =>
    exact ⟨Table.nodup_append h.ids fun b hb => (hfresh b hb).1,
      Table.nodup_append h.references fun b hb => (hfresh b hb).2⟩
  | recovered a f ha hreference hdomain hstate hidentity hf => exact h.set _ hidentity
  | locked accountId f hidentity hf => exact h.set _ hidentity
  | activated f hidentity hf => exact h.set _ hidentity

/-! ## The properties -/

/-- The entry is a recovery of the account in the participant domain. -/
def AccountEntry.recoversParticipant (e : AccountEntry) (reference : String) : Prop :=
  ∃ input, e.call = .email (.store (.recoverAndRevokeSessions input)) ∧
    input.trustDomain = .participant ∧ input.accountReference = reference

/-- No suspended or closed account becomes active, and a locked one only by participant recovery. -/
def Sticky (e : AccountEntry) : Prop :=
  ∀ a ∈ e.before.authAccounts, ∀ a' ∈ e.after.authAccounts, a'.id = a.id → a'.state = .active →
    a.state ≠ .suspended ∧ a.state ≠ .closed ∧
      (a.state = .locked → e.recoversParticipant a.externalReference)

/-- Committee access is activated for invited and active accounts only, and no locked account of the
committee domain is recovered without review. -/
structure Orderly (e : AccountEntry) : Prop where
  activation : ∀ input, e.call = .account (.activateCommittee input) →
    ∀ a ∈ e.before.authAccounts, a.externalReference = input.accountReference →
      a.trustDomain = .committee → a.state = .invited ∨ a.state = .active
  recovery : ∀ input, e.call = .email (.store (.recoverAndRevokeSessions input)) →
    input.trustDomain = .committee → input.committeeReviewRequired = false →
      ∀ a ∈ e.before.authAccounts, a.externalReference = input.accountReference →
        a.trustDomain = .committee → a.state ≠ .locked

/-- The account after an update is the one before it, updated or not. -/
theorem KeyedAccounts.eq_of_mem_set {accounts : List AuthAccount} (h : KeyedAccounts accounts)
    {p : AuthAccount → Bool} {f : AuthAccount → AuthAccount}
    (hf : ∀ a, (f a).identity = a.identity) {a a' : AuthAccount} (ha : a ∈ accounts)
    (ha' : a' ∈ Table.set p f accounts) (hid : a'.id = a.id) : a' = if p a then f a else a := by
  obtain ⟨b, hb, rfl⟩ := Table.exists_of_mem_set ha'
  have hsame : b.id = a.id := by
    split_ifs at hid
    · exact (congrArg Prod.fst (hf b)).symm.trans hid
    · exact hid
  rw [Table.unique_of_nodup h.ids b hb a ha hsame]

/-- A selected account is in the updated table. -/
theorem mem_set_of_selected {accounts : List AuthAccount} {p : AuthAccount → Bool}
    {f : AuthAccount → AuthAccount} {a : AuthAccount} (ha : a ∈ accounts) (hp : p a = true) :
    f a ∈ Table.set p f accounts := by
  simpa [hp] using Table.mem_set_of_mem (p := p) (f := f) ha

/-- The two agree at every operation. -/
theorem sticky_iff_of_effect {e : AccountEntry} (hkeys : KeyedAccounts e.before.authAccounts)
    (heffect : AccountEffect e.before.authAccounts e.call e.after.authAccounts) :
    Sticky e ↔ Orderly e := by
  have hkept : ∀ {a a' : AuthAccount}, a' = a → a'.state = .active →
      a.state ≠ .suspended ∧ a.state ≠ .closed ∧
        (a.state = .locked → e.recoversParticipant a.externalReference) := by
    rintro a _ rfl hactive
    simp [hactive]
  unfold Sticky
  generalize hcall : e.call = call at heffect
  generalize e.after.authAccounts = after at heffect
  cases heffect with
  | kept hwrites =>
    refine iff_of_true (fun a ha a' ha' hid hactive => ?_) ⟨?_, ?_⟩
    · exact hkept (Table.unique_of_nodup hkeys.ids a' ha' a ha hid) hactive
    · rintro input hinput
      rw [← hcall, hinput] at hwrites
      cases hwrites
    · rintro input hinput
      rw [← hcall, hinput] at hwrites
      cases hwrites
  | created new hfresh =>
    refine iff_of_true (fun a ha a' ha' hid hactive => ?_) ⟨?_, ?_⟩
    · obtain ha' | ha' := List.mem_append.1 ha'
      · exact hkept (Table.unique_of_nodup hkeys.ids a' ha' a ha hid) hactive
      · obtain rfl := List.mem_singleton.1 ha'
        exact absurd hid.symm (hfresh a ha).1
    · rintro input hinput
      simp [hcall] at hinput
    · rintro input hinput
      simp [hcall] at hinput
  | locked accountId f hidentity hf =>
    refine iff_of_true (fun a ha a' ha' hid hactive => ?_) ⟨?_, ?_⟩
    · have hrow := hkeys.eq_of_mem_set hidentity ha ha' hid
      split_ifs at hrow
      · rw [hrow, hf] at hactive
        cases hactive
      · exact hkept hrow hactive
    · rintro input hinput
      simp [hcall] at hinput
    · rintro input hinput
      simp [hcall] at hinput
  | @recovered input b f hb hreference hdomain hstate hidentity hf =>
    constructor
    · intro hsticky
      refine ⟨fun input' hinput => by simp [hcall] at hinput, ?_⟩
      intro input' hinput hcommittee hreview a ha hreference' hdomain' hlocked
      obtain rfl : input = input' := by simpa [hcall] using hinput
      obtain rfl := Table.unique_of_nodup hkeys.references a ha b hb
        (hreference'.trans hreference.symm)
      obtain ⟨-, -, hrecovers⟩ := hsticky a ha (f a)
        (mem_set_of_selected ha (decide_eq_true rfl)) (congrArg Prod.fst (hidentity a))
        (by simp [hf, hreview])
      obtain ⟨input', hinput, hparticipant, -⟩ := hrecovers hlocked
      obtain rfl : input = input' := by simpa [hcall] using hinput
      rw [hcommittee] at hparticipant
      cases hparticipant
    · intro horderly a ha a' ha' hid hactive
      have hrow := hkeys.eq_of_mem_set hidentity ha ha' hid
      split_ifs at hrow with hsame
      · obtain rfl := Table.unique_of_nodup hkeys.ids a ha b hb (of_decide_eq_true hsame)
        have hreview : input.committeeReviewRequired = false := by
          rw [hrow, hf] at hactive
          by_contra hreview
          simp [hreview] at hactive
        refine ⟨?_, ?_, fun hlocked => ⟨input, hcall, ?_, hreference.symm⟩⟩
        · rcases hstate with h | h <;> simp [h]
        · rcases hstate with h | h <;> simp [h]
        · by_contra hother
          have hcommittee : input.trustDomain = .committee := by
            cases hinput : input.trustDomain with
            | participant => exact absurd hinput hother
            | committee => rfl
          exact horderly.recovery input hcall hcommittee hreview a ha hreference
            (hdomain.trans hcommittee) hlocked
      · exact hkept hrow hactive
  | @activated input f hidentity hf =>
    constructor
    · intro hsticky
      refine ⟨?_, fun input' hinput => by simp [hcall] at hinput⟩
      intro input' hinput a ha hreference hdomain
      obtain rfl : input = input' := by simpa [hcall] using hinput
      obtain ⟨hsuspended, hclosed, hrecovers⟩ := hsticky a ha (f a)
        (mem_set_of_selected ha (by simp [hreference, hdomain]))
        (congrArg Prod.fst (hidentity a)) (hf a)
      cases hstate : a.state with
      | invited => exact Or.inl rfl
      | active => exact Or.inr rfl
      | suspended => exact absurd hstate hsuspended
      | closed => exact absurd hstate hclosed
      | locked =>
        obtain ⟨input', hinput', -⟩ := hrecovers hstate
        simp [hcall] at hinput'
    · intro horderly a ha a' ha' hid hactive
      have hrow := hkeys.eq_of_mem_set hidentity ha ha' hid
      split_ifs at hrow with hselected
      · rw [Bool.and_eq_true, decide_eq_true_eq, decide_eq_true_eq] at hselected
        rcases horderly.activation input hcall a ha hselected.1 hselected.2 with h | h <;> simp [h]
      · exact hkept hrow hactive

/-! ## Runs -/

/-- The keys hold, and every logged operation has its effect on keyed accounts. -/
structure AccountsKeyed (s : AccountSystem) : Prop where
  now : KeyedAccounts s.db.authAccounts
  log : ∀ e ∈ s.log, KeyedAccounts e.before.authAccounts ∧
    AccountEffect e.before.authAccounts e.call e.after.authAccounts

theorem accountsKeyed_of_reach {config : AuthConfig} {s₀ s : AccountSystem} (hlog : s₀.log = [])
    (hkeys : KeyedAccounts s₀.db.authAccounts)
    (hrun : Reach (AccountSystem.step config) (fun _ _ => True) s₀ s) : AccountsKeyed s := by
  refine hrun.invariant ⟨hkeys, by simp [hlog]⟩ fun s act s' h _ hstep => ?_
  cases act with
  | execute call =>
    obtain ⟨transaction, hexec, rfl⟩ := Option.map_eq_some_iff.1 hstep
    split
    · next answer db hcommits =>
      have heffect := ServiceCall.accounts hexec hcommits
      refine ⟨h.now.effect heffect, ?_⟩
      rintro e (_ | ⟨_, he⟩)
      · exact ⟨h.now, heffect⟩
      · exact h.log e he
    · exact h
  | elsewhere db =>
    simp only [AccountSystem.step] at hstep
    split_ifs at hstep with hrows
    obtain rfl := Option.some.inj hstep
    exact ⟨by rw [hrows]; exact h.now, h.log⟩

/-- In every run of operations, states are sticky exactly when no access is activated for a
suspended, closed or locked account and no locked account of a committee is recovered without
review. -/
theorem account_states_sticky_iff {config : AuthConfig} {s₀ s : AccountSystem}
    (hlog : s₀.log = []) (hkeys : KeyedAccounts s₀.db.authAccounts)
    (hrun : Reach (AccountSystem.step config) (fun _ _ => True) s₀ s) :
    (∀ e ∈ s.log, Sticky e) ↔ ∀ e ∈ s.log, Orderly e :=
  forall₂_congr fun e he =>
    have h := (accountsKeyed_of_reach hlog hkeys hrun).log e he
    sticky_iff_of_effect h.1 h.2

namespace AuthSample

/-- The committee account is active, and a second committee has approved its access. -/
def approvedAccess : AccountSystem :=
  { db := { Db.empty with
      authAccounts := accounts
      committees := [{ id := 30, externalReference := "committee_two" }]
      members := [{ id := 31, externalReference := "member_two", committeeId := 30
                    actorReference := "account:two", state := .active }]
      committeeAccesses := [{ id := 32, accountId := 2, committeeId := 30, memberId := none
                              state := .approved, invitedByReference := "account:inviter"
                              approvedByReference := some "account:approver"
                              approvedAt := some 0, activatedAt := none }] }
    log := [] }

/-- A recovery suspends the account, and then its second access is activated. -/
def recoveredAndActivated : List AccountAct := [
  .execute (.email (.store (.recoverAndRevokeSessions
    { accountReference := "account:two", trustDomain := .committee, committeeReviewRequired := true
      destinationReference := "contact:two", policyVersionReference := "policy:one"
      softwareVersion := "0.0.0", correlationId := "correlation:one", atTime := 1000 }))),
  .execute (.account (.activateCommittee
    { accountReference := "account:two", committeeReference := "committee_two"
      memberReference := "member_two", activatedAt := 2000 }))]

/-- The last operation makes a suspended account active. -/
def unsuspends (s : AccountSystem) : Bool :=
  s.log.head?.any fun e => e.before.authAccounts.any fun a => a.state = .suspended &&
    e.after.authAccounts.any fun a' => a'.id = a.id && a'.state = .active

theorem not_sticky {s : AccountSystem} (h : unsuspends s = true) : ¬ ∀ e ∈ s.log, Sticky e := by
  intro hsticky
  obtain ⟨e, hhead, htest⟩ := (Option.any_eq_true _ _).1 h
  simp only [List.any_eq_true, Bool.and_eq_true, decide_eq_true_eq] at htest
  obtain ⟨a, ha, hsuspended, a', ha', hid, hactive⟩ := htest
  exact (hsticky e (List.mem_of_head? hhead) a ha a' ha' hid hactive).1 hsuspended

theorem recoveredAndActivated_run : ∃ s : AccountSystem,
    Reach (AccountSystem.step config) (fun _ _ => True) approvedAccess s ∧
      unsuspends s = true := by
  obtain ⟨s, hrun, htest⟩ := exists_run_of_any (AccountSystem.step config) approvedAccess
    recoveredAndActivated (p := unsuspends) (by decide +kernel)
  exact ⟨s, reach_of_run hrun (allSteps_of_mem (fun _ _ _ => trivial) _), htest⟩

theorem suspended_account_activated : ∃ s : AccountSystem, approvedAccess.log = [] ∧
    KeyedAccounts approvedAccess.db.authAccounts ∧
    Reach (AccountSystem.step config) (fun _ _ => True) approvedAccess s ∧
    ¬ ∀ e ∈ s.log, Sticky e := by
  obtain ⟨s, hrun, htest⟩ := recoveredAndActivated_run
  exact ⟨s, rfl, ⟨by decide, by decide⟩, hrun, not_sticky htest⟩

theorem suspended_account_activated_iff : ∃ s : AccountSystem, unsuspends s = true ∧
    ((∀ e ∈ s.log, Sticky e) ↔ ∀ e ∈ s.log, Orderly e) := by
  obtain ⟨s, hrun, htest⟩ := recoveredAndActivated_run
  exact ⟨s, htest, account_states_sticky_iff rfl ⟨by decide, by decide⟩ hrun⟩

end AuthSample

end ChecksAndBalances
