import ChecksAndBalances.Auth.EmailSystem

/-!
# What the calls of the email services write

The accounts, contacts and challenges that a committed call leaves, as far as signing in by email
depends on them.
-/

namespace ChecksAndBalances

open Lib Lib.Tx

variable {db db' : Db}

/-! ## References and destinations -/

/-- The identifiers of the accounts with their references. -/
def Db.accountKeys (db : Db) : List (Uuid × String) :=
  db.authAccounts.map fun a => (a.id, a.externalReference)

/-- An account without its state. -/
structure AccountSubject where
  id : Uuid
  externalReference : String
  trustDomain : TrustDomain
  participantId : Option Uuid
  deriving DecidableEq

def AuthAccount.subject (a : AuthAccount) : AccountSubject :=
  { id := a.id
    externalReference := a.externalReference
    trustDomain := a.trustDomain
    participantId := a.participantId }

/-- Whose the accounts, the contacts and the challenges are. -/
def Db.ownership (db : Db) :
    List AccountSubject × List ContactPreference × List AuthChallenge :=
  (db.authAccounts.map AuthAccount.subject, db.contactPreferences, db.authChallenges)

/-- What signing in by email depends on. -/
def Db.emailTables (db : Db) : List (Uuid × String) × List ContactPreference × List AuthChallenge :=
  (db.accountKeys, db.contactPreferences, db.authChallenges)

theorem emailTables_eq_of_ownership (h : db'.ownership = db.ownership) :
    db'.emailTables = db.emailTables := by
  have hkeys : ∀ db : Db, db.accountKeys =
      (db.authAccounts.map AuthAccount.subject).map fun a => (a.id, a.externalReference) := by
    intro db
    rw [List.map_map]
    rfl
  simp only [Db.ownership, Prod.mk.injEq] at h
  rw [Db.emailTables, Db.emailTables, hkeys, hkeys, h.1, h.2.1, h.2.2]

theorem Db.accountReference_eq (db : Db) (accountId : Uuid) :
    db.accountReference accountId =
      (db.accountKeys.find? fun key => key.1 = accountId).map Prod.snd := by
  unfold Db.accountReference Db.accountKeys
  rw [List.find?_map, Option.map_map]
  rfl

theorem Db.ids_eq (db : Db) : db.authAccounts.map AuthAccount.id = db.accountKeys.map Prod.fst := by
  rw [Db.accountKeys, List.map_map]
  rfl

theorem accountReference_congr (h : db'.accountKeys = db.accountKeys) :
    db'.accountReference = db.accountReference := by
  funext accountId
  rw [Db.accountReference_eq, Db.accountReference_eq, h]

/-- Under unique identifiers the reference of an account is its own. -/
theorem accountReference_of_mem (hids : (db.authAccounts.map AuthAccount.id).Nodup)
    {account : AuthAccount} (h : account ∈ db.authAccounts) :
    db.accountReference account.id = some account.externalReference := by
  unfold Db.accountReference
  rw [(Table.unique_of_nodup hids).find?_eq h]
  rfl

/-- A new account changes no reference, unless nothing had its identifier. -/
theorem accountReference_append {key : Uuid × String} (h : db'.accountKeys = db.accountKeys ++ [key])
    (accountId : Uuid) :
    db'.accountReference accountId = db.accountReference accountId ∨
      (db.accountReference accountId = none ∧
        ∀ reference, db'.accountReference accountId = some reference → reference = key.2) := by
  rw [Db.accountReference_eq, Db.accountReference_eq, h, List.find?_append]
  cases db.accountKeys.find? fun key => key.1 = accountId with
  | some found => exact Or.inl rfl
  | none =>
    right
    refine ⟨rfl, fun reference hreference => ?_⟩
    obtain ⟨found, hfound, rfl⟩ := Option.map_eq_some_iff.1 hreference
    rw [Option.none_or] at hfound
    rw [List.mem_singleton.1 (List.mem_of_find?_eq_some hfound)]

theorem mem_destinations {reference destination : String} :
    destination ∈ db.destinations reference ↔
      ∃ c ∈ db.contactPreferences, c.disabledAt = none ∧
        db.accountReference c.authAccountId = some reference ∧
        c.destinationReference = destination := by
  simp only [Db.destinations, List.mem_map, List.mem_filter, Bool.and_eq_true,
    Option.isNone_iff_eq_none, decide_eq_true_eq]
  constructor
  · rintro ⟨c, ⟨hc, henabled, hreference⟩, hdestination⟩
    exact ⟨c, hc, henabled, hreference, hdestination⟩
  · rintro ⟨c, hc, henabled, hreference, hdestination⟩
    exact ⟨c, ⟨hc, henabled, hreference⟩, hdestination⟩

/-! ## Statements -/

variable {τ : Type}

open AuthRepository

theorem commits_account {reference : String} {trustDomain : Option TrustDomain}
    {a : AuthAccount} (h : Commits (account reference trustDomain) db a db') :
    db' = db ∧ a ∈ db.authAccounts ∧ a.externalReference = reference := by
  unfold account at h
  simp only [commits_get_bind, commits_found] at h
  obtain ⟨hfound, rfl⟩ := h
  obtain ⟨ha, htest⟩ := Table.mem_of_find? hfound
  simp only [Bool.and_eq_true, decide_eq_true_eq] at htest
  exact ⟨rfl, ha, htest.1⟩

theorem keeps_account {f : Db → τ} (reference : String) (trustDomain : Option TrustDomain) :
    Keeps f (account reference trustDomain) := by
  intro db a db' h
  rw [(commits_account h).1]

theorem keeps_participantId {f : Db → τ} (reference : Option String) :
    Keeps f (participantId reference) := by
  unfold participantId
  split_ifs
  · exact keeps_get.bind fun _ => keeps_found.bind fun _ => keeps_pure
  · exact keeps_pure

theorem keeps_challengeAccount {f : Db → τ} (reference : Option String)
    (trustDomain : TrustDomain) : Keeps f (challengeAccount reference trustDomain) := by
  unfold challengeAccount
  split_ifs
  · exact (keeps_account _ _).bind fun _ => keeps_pure
  · exact keeps_pure

theorem keeps_checkAuthChallenge {f : Db → τ} (c : AuthChallenge) :
    Keeps f (checkAuthChallenge c) :=
  keeps_require.bind fun _ => keeps_require.bind fun _ => keeps_require.bind fun _ => keeps_require

theorem keeps_revokeSessions {f : Db → τ} (hf : ∀ db rows, f { db with authSessions := rows } = f db)
    (accountId : Uuid) (reason : String) (atTime : ℤ) :
    Keeps f (revokeSessions accountId reason atTime) :=
  keeps_get.bind fun _ => (keeps_modify fun _ => hf _ _).bind fun _ => keeps_pure

theorem keeps_appendSecurityAudit {f : Db → τ}
    (hf : ∀ db audit heads n,
      f { db with audit := audit, auditChainHeads := heads, nextId := n } = f db)
    (accountReference command : String) (newState : Option String) (reasonCategory : String)
    (context : SecurityMutationContext) :
    Keeps f (appendSecurityAudit accountReference command newState reasonCategory context) :=
  (keeps_appendAudit hf _ _ _ _ _).bind fun _ => keeps_pure

/-- An update of accounts that changes their states only. -/
theorem keeps_updateAccount (accountId : Uuid) {f : AuthAccount → AuthAccount}
    (hf : ∀ a, (f a).subject = a.subject) : Keeps Db.ownership (updateAccount accountId f) := by
  refine keeps_modify fun db => ?_
  simp only [Db.ownership, Table.map_set AuthAccount.subject hf db.authAccounts]

/-! ## Calls -/

/-- A new contact of the account, and nothing else. -/
theorem commits_insertContact {participantId : Option Uuid} {accountId : Uuid}
    {destinationReference lookupDigest : String} {verifiedAt : ℤ}
    (h : Commits (insertContact participantId accountId destinationReference lookupDigest verifiedAt)
      db () db') :
    ∃ contact : ContactPreference, contact.authAccountId = accountId ∧
      contact.destinationReference = destinationReference ∧ contact.disabledAt = none ∧
      enforceAuthSubjectMatch db.authAccounts contact = .ok () ∧
      db'.contactPreferences = db.contactPreferences ++ [contact] ∧
      db'.authAccounts = db.authAccounts ∧ db'.authChallenges = db.authChallenges := by
  obtain ⟨id, db₁, hid, h⟩ := commits_bind.1 h
  obtain ⟨rfl, rfl⟩ := commits_newId.1 hid
  simp only [requireUnique, commits_get_bind, commits_lift_bind, commits_require_bind,
    commits_modify] at h
  obtain ⟨_, hsubject, -, -, rfl⟩ := h
  exact ⟨_, rfl, rfl, rfl, hsubject, rfl, rfl, rfl⟩

/-- A new pending challenge under a fresh identifier, and nothing else. -/
theorem commits_createChallenge {record : AuthChallengeRecord}
    (h : Commits (createChallenge record) db () db') :
    (∀ c ∈ db.authChallenges, c.id ≠ record.id) ∧
    ∃ challenge : AuthChallenge, challenge.id = record.id ∧
      enforceAuthTrustDomainMatch db.authAccounts challenge = .ok () ∧
      db'.authChallenges = db.authChallenges ++ [challenge] ∧
      db'.authAccounts = db.authAccounts ∧ db'.contactPreferences = db.contactPreferences := by
  obtain ⟨accountId, db₁, haccount, hinsert⟩ := commits_bind.1 h
  obtain rfl := keeps_challengeAccount (f := id) _ _ _ _ _ haccount
  simp only [commits_get_bind, commits_lift_bind] at hinsert
  obtain ⟨_, hdomain, hinsert⟩ := hinsert
  obtain ⟨_, db₂, hcheck, hrow⟩ := commits_bind.1 hinsert
  obtain rfl := keeps_checkAuthChallenge (f := id) _ _ _ _ hcheck
  simp only [requireUnique, commits_require_bind, commits_modify] at hrow
  obtain ⟨hfresh, -, rfl⟩ := hrow
  refine ⟨fun c hc hid => ?_, _, rfl, hdomain, rfl, rfl, rfl⟩
  simpa [hid] using List.all_eq_true.1 hfresh c hc

/-- The selected challenges are consumed, and the first of them is returned. -/
theorem commits_consume {input : ConsumeInput} {result : Option ConsumedAuthChallenge}
    (h : Commits (consume input) db result db') :
    result = (db.authChallenges.find? (AuthRepository.ConsumeInput.selects input)).map
      (toConsumed db.authAccounts input.atTime) ∧
    db' = { db with
      authChallenges := Table.set (AuthRepository.ConsumeInput.selects input) (consumedRow input.atTime) db.authChallenges } := by
  unfold consume at h
  simp only [commits_get_bind, commits_lift_bind, commits_modify_bind, commits_pure,
    Table.update_eq_ok_iff] at h
  obtain ⟨_, ⟨-, rfl⟩, rfl, rfl⟩ := h
  exact ⟨rfl, rfl⟩

/-- The enabled contacts of the account are disabled, and it gets the new one. -/
theorem commits_changeVerifiedEmail {input : ChangeEmailInput} {result : ChangedEmail}
    (h : Commits (changeVerifiedEmail input) db result db') :
    ∃ account ∈ db.authAccounts, account.externalReference = input.accountReference ∧
      ∃ contact : ContactPreference, contact.authAccountId = account.id ∧
        contact.destinationReference = input.newDestinationReference ∧ contact.disabledAt = none ∧
        enforceAuthSubjectMatch db.authAccounts contact = .ok () ∧
        db'.contactPreferences =
          Table.set (ofAccount account.id) (fun c => { c with disabledAt := some input.atTime })
            db.contactPreferences ++ [contact] ∧
        db'.authAccounts = db.authAccounts ∧ db'.authChallenges = db.authChallenges := by
  unfold changeVerifiedEmail requireOpaqueReference at h
  rw [commits_require_bind] at h
  obtain ⟨-, h⟩ := h
  obtain ⟨account, db₁, haccount, hbody⟩ := commits_bind.1 h
  obtain ⟨rfl, hmem, hreference⟩ := commits_account haccount
  simp only [commits_require_bind, commits_get_bind, commits_lift_bind, commits_modify_bind,
    Table.update_eq_ok_iff] at hbody
  obtain ⟨-, _, ⟨-, rfl⟩, hbody⟩ := hbody
  obtain ⟨_, db₂, hinsert, htail⟩ := commits_bind.1 hbody
  obtain ⟨contact, hid, hdestination, henabled, hsubject, hcontacts, haccounts, hchallenges⟩ :=
    commits_insertContact hinsert
  have hrest : Keeps (fun db : Db => (db.contactPreferences, db.authAccounts, db.authChallenges))
      (do
        let revokedSessions ← revokeSessions account.id "verified_email_changed" input.atTime
        appendSecurityAudit input.accountReference "changeVerifiedEmail" none
          "verified_email_changed" input.context
        return { oldDestinationReferences := (db₁.contactPreferences.filter
                   (ofAccount account.id)).map ContactPreference.destinationReference
                 revokedSessions } : DbTx ChangedEmail) :=
    (keeps_revokeSessions (fun _ _ => rfl) _ _ _).bind fun _ =>
      (keeps_appendSecurityAudit (fun _ _ _ _ => rfl) _ _ _ _ _).bind fun _ => keeps_pure
  have hkept := hrest db₂ result db' htail
  simp only [Prod.mk.injEq] at hkept
  obtain ⟨hcontacts', haccounts', hchallenges'⟩ := hkept
  exact ⟨account, hmem, hreference, contact, hid, hdestination, henabled, hsubject,
    hcontacts'.trans hcontacts, haccounts'.trans haccounts, hchallenges'.trans hchallenges⟩

/-- A new account under a fresh identifier and a fresh reference. -/
theorem commits_createAccount_row {input : CreateAuthAccountInput}
    (h : Commits (createAccount input) db () db') :
    ∃ account : AuthAccount,
      (∀ a ∈ db.authAccounts, a.id ≠ account.id ∧
        a.externalReference ≠ account.externalReference) ∧
      db'.authAccounts = db.authAccounts ++ [account] ∧
      db'.contactPreferences = db.contactPreferences ∧
      db'.authChallenges = db.authChallenges := by
  unfold createAccount requireOpaqueReference at h
  rw [commits_require_bind] at h
  obtain ⟨-, h⟩ := h
  obtain ⟨_, db₁, hparticipant, hbody⟩ := commits_bind.1 h
  obtain rfl := keeps_participantId (f := id) _ _ _ _ hparticipant
  obtain ⟨accountId, db₂, hid, hrow⟩ := commits_bind.1 hbody
  obtain ⟨rfl, rfl⟩ := commits_newId.1 hid
  simp only [requireUnique, commits_require_bind, commits_get_bind, commits_modify] at hrow
  obtain ⟨-, -, hfreshId, hfreshReference, -, rfl⟩ := hrow
  rw [List.all_eq_true] at hfreshId hfreshReference
  refine ⟨_, fun a ha => ⟨?_, ?_⟩, rfl, rfl, rfl⟩
  · simpa using hfreshId a ha
  · simpa using hfreshReference a ha

theorem commits_createAccount {input : CreateAuthAccountInput}
    (h : Commits (createAccount input) db () db') :
    ∃ key : Uuid × String, (∀ k ∈ db.accountKeys, k.1 ≠ key.1 ∧ k.2 ≠ key.2) ∧
      db'.accountKeys = db.accountKeys ++ [key] ∧
      db'.contactPreferences = db.contactPreferences ∧
      db'.authChallenges = db.authChallenges := by
  obtain ⟨account, hfresh, haccounts, hcontacts, hchallenges⟩ := commits_createAccount_row h
  refine ⟨(account.id, account.externalReference), ?_, ?_, hcontacts, hchallenges⟩
  · intro k hk
    obtain ⟨a, ha, rfl⟩ := List.mem_map.1 hk
    exact hfresh a ha
  · simp [Db.accountKeys, haccounts]

/-- A new contact of an account, and nothing else. -/
theorem commits_registerVerifiedEmail {input : RegisterVerifiedEmailInput}
    (h : Commits (registerVerifiedEmail input) db () db') :
    ∃ contact : ContactPreference,
      (∃ account ∈ db.authAccounts, account.id = contact.authAccountId) ∧
      enforceAuthSubjectMatch db.authAccounts contact = .ok () ∧
      db'.contactPreferences = db.contactPreferences ++ [contact] ∧
      db'.authAccounts = db.authAccounts ∧ db'.authChallenges = db.authChallenges := by
  unfold registerVerifiedEmail requireOpaqueReference at h
  simp only [commits_require_bind] at h
  obtain ⟨-, -, h⟩ := h
  obtain ⟨account, db₁, haccount, hbody⟩ := commits_bind.1 h
  obtain ⟨rfl, hmem, -⟩ := commits_account haccount
  obtain ⟨_, db₂, hparticipant, hinsert⟩ := commits_bind.1 hbody
  obtain rfl := keeps_participantId (f := id) _ _ _ _ hparticipant
  obtain ⟨contact, hid, -, -, hsubject, hkept⟩ := commits_insertContact hinsert
  exact ⟨contact, ⟨account, hmem, hid.symm⟩, hsubject, hkept⟩

theorem keeps_increment (input : IncrementInput) :
    Keeps Db.ownership (increment input) := by
  refine keeps_get.bind fun db => ?_
  split
  · refine Keeps.bind (keeps_modify ?_) fun _ => keeps_pure
    exact fun _ => rfl
  · refine keeps_require.bind fun _ => Keeps.bind (keeps_modify ?_) fun _ => keeps_pure
    exact fun _ => rfl

theorem keeps_recoverAndRevokeSessions (input : RecoverInput) :
    Keeps Db.ownership (recoverAndRevokeSessions input) := by
  refine (keeps_account _ _).bind fun account => keeps_require.bind fun _ => ?_
  refine (keeps_revokeSessions (fun _ _ => rfl) _ _ _).bind fun _ => ?_
  refine Keeps.bind (keeps_updateAccount _ fun _ => rfl) fun _ => ?_
  exact (keeps_appendAudit (fun _ _ _ _ => rfl) _ _ _ _ _).bind fun _ => keeps_pure

theorem keeps_lockAndRevokeSessions (input : LockInput) :
    Keeps Db.ownership (lockAndRevokeSessions input) := by
  refine (keeps_account _ _).bind fun account => keeps_require.bind fun _ => ?_
  refine (keeps_revokeSessions (fun _ _ => rfl) _ _ _).bind fun _ => ?_
  refine Keeps.bind (keeps_updateAccount _ fun _ => rfl) fun _ => ?_
  exact (keeps_appendSecurityAudit (fun _ _ _ _ => rfl) _ _ _ _ _).bind fun _ => keeps_pure

end ChecksAndBalances
