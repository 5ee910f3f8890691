import ChecksAndBalances.Auth.Contacts
import ChecksAndBalances.Auth.Contract

/-!
# What the calls of the services write

The accounts, sessions, challenges and passkeys that a committed call leaves.  `ServiceCall.effect`
says once what a call can do to them; every invariant of a run is derived from it.
-/

namespace ChecksAndBalances

open Lib Lib.Tx AuthRepository

variable {db db' : Db}

/-! ## Statements -/

theorem commits_domainAccount {reference : String} {trustDomain : TrustDomain} {a : AuthAccount}
    (h : Commits (account reference (some trustDomain)) db a db') :
    db' = db ∧ a ∈ db.authAccounts ∧ a.externalReference = reference ∧
      a.trustDomain = trustDomain := by
  unfold account at h
  simp only [commits_get_bind, commits_found] at h
  obtain ⟨hfound, rfl⟩ := h
  obtain ⟨ha, htest⟩ := Table.mem_of_find? hfound
  simp only [Bool.and_eq_true, decide_eq_true_eq, Option.all_some] at htest
  exact ⟨rfl, ha, htest.1, htest.2⟩

/-- A new challenge: pending, under an unused identifier and an unused digest. -/
structure NewChallenge (db : Db) (record : AuthChallengeRecord) (challenge : AuthChallenge) :
    Prop where
  id : challenge.id = record.id
  kind : challenge.kind = record.kind
  domain : challenge.trustDomain = record.trustDomain
  digest : challenge.secretDigest = record.secretDigest
  state : challenge.state = .pending
  expiry : challenge.expiresAt = record.expiresAt
  account : ∀ accountId, challenge.accountId = some accountId →
    ∃ a ∈ db.authAccounts, a.id = accountId ∧ record.accountReference = some a.externalReference ∧
      a.trustDomain = record.trustDomain
  fresh : ∀ c ∈ db.authChallenges, c.id ≠ record.id ∧ c.secretDigest ≠ record.secretDigest

theorem commits_challengeAccount {reference : Option String} {trustDomain : TrustDomain}
    {accountId : Option Uuid}
    (h : Commits (challengeAccount reference trustDomain) db accountId db') :
    db' = db ∧ ∀ id, accountId = some id → ∃ a ∈ db.authAccounts, a.id = id ∧
      reference = some a.externalReference ∧ a.trustDomain = trustDomain := by
  unfold challengeAccount at h
  split_ifs at h with htruthy
  · obtain ⟨a, db₁, haccount, hpure⟩ := commits_bind.1 h
    obtain ⟨rfl, rfl⟩ := commits_pure.1 hpure
    obtain ⟨rfl, ha, hreference, hdomain⟩ := commits_domainAccount haccount
    refine ⟨rfl, ?_⟩
    rintro _ ⟨⟩
    cases reference with
    | none => cases htruthy
    | some text => exact ⟨a, ha, rfl, by rw [hreference]; rfl, hdomain⟩
  · obtain ⟨rfl, rfl⟩ := commits_pure.1 h
    exact ⟨rfl, nofun⟩

theorem commits_newChallenge {record : AuthChallengeRecord} {u : Unit}
    (h : Commits (createChallenge record) db u db') :
    ∃ challenge, NewChallenge db record challenge ∧
      db' = { db with authChallenges := db.authChallenges ++ [challenge] } := by
  obtain ⟨accountId, db₁, haccount, hinsert⟩ := commits_bind.1 h
  obtain ⟨rfl, haccount⟩ := commits_challengeAccount haccount
  simp only [commits_get_bind, commits_lift_bind] at hinsert
  obtain ⟨_, -, hinsert⟩ := hinsert
  obtain ⟨_, db₂, hcheck, hrow⟩ := commits_bind.1 hinsert
  obtain rfl := keeps_checkAuthChallenge (f := id) _ _ _ _ hcheck
  simp only [requireUnique, commits_require_bind, commits_modify] at hrow
  obtain ⟨hid, hdigest, rfl⟩ := hrow
  refine ⟨_, ⟨rfl, rfl, rfl, rfl, rfl, rfl, haccount, fun c hc => ?_⟩, rfl⟩
  simp only [List.all_eq_true, Bool.not_eq_true', decide_eq_false_iff_not] at hid hdigest
  exact ⟨hid c hc, hdigest c hc⟩

/-- The sessions after a revocation. -/
def revokedSessions (selected : AuthSession → Bool) (reason : String) (atTime : ℤ) (db : Db) :
    List AuthSession :=
  Table.set selected (revokedRow reason atTime) db.authSessions

theorem commits_revokeSessions {accountId : Uuid} {reason : String} {atTime : ℤ} {count : ℕ}
    (h : Commits (revokeSessions accountId reason atTime) db count db') :
    db' = { db with
      authSessions := revokedSessions (fun s => s.accountId = accountId && s.state = .active) reason
        atTime db } := by
  unfold revokeSessions at h
  simp only [commits_get_bind, commits_modify_bind, commits_pure] at h
  exact h.2

theorem commits_updateSessions {selected : AuthSession → Bool} {f : AuthSession → AuthSession}
    {u : Unit} (h : Commits (updateSessions selected f) db u db') :
    db' = { db with authSessions := Table.set selected f db.authSessions } := by
  unfold updateSessions at h
  simp only [commits_get_bind, commits_lift_bind, commits_modify] at h
  obtain ⟨rows, hrows, rfl⟩ := h
  rw [(Table.update_eq_ok_iff.1 hrows).2]

theorem commits_updatePasskey {selected : PasskeyMetadata → Bool}
    {f : PasskeyMetadata → PasskeyMetadata} {message : String} {u : Unit}
    (h : Commits (updatePasskey selected f message) db u db') :
    db.passkeys.countP selected = 1 ∧
      db' = { db with passkeys := Table.set selected f db.passkeys } := by
  unfold updatePasskey at h
  simp only [commits_get_bind, commits_lift_bind, commits_require_bind, commits_modify] at h
  obtain ⟨rows, hrows, hcount, rfl⟩ := h
  rw [(Table.update_eq_ok_iff.1 hrows).2]
  exact ⟨hcount, rfl⟩

theorem keeps_updateAccess {τ : Type} {f : Db → τ}
    (hf : ∀ db rows, f { db with committeeAccesses := rows } = f db)
    (selected : AuthCommitteeAccess → Bool) (g : AuthCommitteeAccess → AuthCommitteeAccess)
    (message : String) : Keeps f (updateAccess selected g message) :=
  keeps_get.bind fun _ => keeps_lift.bind fun _ => keeps_require.bind fun _ =>
    keeps_modify fun _ => hf _ _

/-! ## What identifies an account -/

/-- What no statement changes of an account. -/
def AuthAccount.identity (a : AuthAccount) : Uuid × String × TrustDomain :=
  (a.id, a.externalReference, a.trustDomain)

/-- The identities of the accounts. -/
def Db.identities (db : Db) : List (Uuid × String × TrustDomain) :=
  db.authAccounts.map AuthAccount.identity

/-- What the services depend on. -/
structure AuthFacts where
  accounts : List (Uuid × String × TrustDomain)
  sessions : List AuthSession
  challenges : List AuthChallenge
  passkeys : List PasskeyMetadata

/-- What the services depend on in the database. -/
def Db.authFacts (db : Db) : AuthFacts :=
  ⟨db.identities, db.authSessions, db.authChallenges, db.passkeys⟩

@[simp] theorem Db.authFacts_accounts (db : Db) : db.authFacts.accounts = db.identities := rfl

@[simp] theorem Db.authFacts_sessions (db : Db) : db.authFacts.sessions = db.authSessions := rfl

@[simp] theorem Db.authFacts_challenges (db : Db) : db.authFacts.challenges = db.authChallenges :=
  rfl

@[simp] theorem Db.authFacts_passkeys (db : Db) : db.authFacts.passkeys = db.passkeys := rfl

theorem keeps_updateAccountFacts (accountId : Uuid) {f : AuthAccount → AuthAccount}
    (hf : ∀ a, (f a).identity = a.identity) : Keeps Db.authFacts (updateAccount accountId f) := by
  refine keeps_modify fun db => ?_
  have hidentities := Table.map_set (p := fun a : AuthAccount => a.id = accountId) (f := f)
    AuthAccount.identity hf db.authAccounts
  simp only [Db.authFacts, Db.identities, hidentities]

theorem authFacts_appendAudit {context : CommandContext} {committeeId : Option Uuid}
    {command : String} {target : AuditTarget} :
    Keeps Db.authFacts (appendAudit context committeeId command target) :=
  keeps_appendAudit (fun _ _ _ _ => rfl) _ _ _ _ _

theorem keeps_insertContact (participantId : Option Uuid) (accountId : Uuid)
    (destinationReference lookupDigest : String) (verifiedAt : ℤ) :
    Keeps Db.authFacts
      (insertContact participantId accountId destinationReference lookupDigest verifiedAt) := by
  refine Keeps.bind (keeps_newId fun _ _ => rfl) fun id => keeps_get.bind fun _ => ?_
  refine keeps_lift.bind fun _ => keeps_require.bind fun _ => keeps_require.bind fun _ => ?_
  exact keeps_modify fun _ => rfl

/-! ## Calls -/

namespace ServiceCall

/-- The calls that revoke sessions. -/
def revokesSessions : ServiceCall → Bool
  | email (.store (.recoverAndRevokeSessions _)) => true
  | email (.store (.lockAndRevokeSessions _)) => true
  | email (.store (.changeVerifiedEmail _)) => true
  | session (.revoke _ _ _) => true
  | session (.revokeAll _ _ _ _) => true
  | _ => false

/-- The calls that change what the services depend on. -/
def writes : ServiceCall → Bool
  | email (.store (.createChallenge _)) => true
  | email (.store (.consume _)) => true
  | session (.create _) => true
  | session (.touch _ _ _) => true
  | passkey (.save _ _) => true
  | passkey (.updateUsage _) => true
  | passkey (.revokeCredential _ _ _) => true
  | account (.createAccount _) => true
  | call => call.revokesSessions

end ServiceCall

/-- A new session of an active account, under an unused identifier and an unused digest. -/
structure NewSession (db : Db) (record : SessionRecord) (session : AuthSession) : Prop where
  row : ∃ keyVersion, ∃ a ∈ db.authAccounts, a.externalReference = record.accountReference ∧
    a.trustDomain = record.trustDomain ∧ session = sessionRow keyVersion a.id record
  fresh : ∀ s ∈ db.authSessions, s.id ≠ record.id ∧ s.tokenDigest ≠ record.tokenDigest

/-- A new passkey of an active account, under an unused reference. -/
structure NewPasskey (db : Db) (credential : StoredPasskeyCredential) (passkey : PasskeyMetadata) :
    Prop where
  row : ∃ id createdAt, ∃ a ∈ db.authAccounts,
    a.externalReference = credential.accountReference ∧ a.trustDomain = credential.trustDomain ∧
      passkey = passkeyRow id a credential createdAt
  fresh : ∀ p ∈ db.passkeys, p.credentialReference ≠ credential.credentialReference

/-- The passkeys that `revokeCredential` selects. -/
def revocable (db : Db) (credentialReference accountReference : String) (p : PasskeyMetadata) :
    Bool :=
  p.credentialReference = credentialReference && p.state = .active &&
    db.authAccounts.any fun a => a.id = p.authAccountId && a.externalReference = accountReference

/-- The passkeys that `updateUsage` selects. -/
def usable (input : PasskeyUsage) (p : PasskeyMetadata) : Bool :=
  p.credentialReference = input.credentialReference && p.state = .active &&
    p.signCount ≤ input.counter

/-- The row that `updateUsage` writes. -/
def usedRow (input : PasskeyUsage) (p : PasskeyMetadata) : PasskeyMetadata :=
  { p with
    signCount := input.counter
    credentialDeviceType := input.deviceType
    backedUp := input.backedUp
    lastUsedAt := some input.usedAt }

/-- What a committed call leaves of accounts, sessions, challenges and passkeys. -/
inductive AuthEffect (db : Db) : (call : ServiceCall) → call.Answer → Db → Prop where
  | kept {call : ServiceCall} {answer : call.Answer} {db' : Db} (hcall : call.writes = false)
      (hfacts : db'.authFacts = db.authFacts) : AuthEffect db call answer db'
  | accountCreated {input : CreateAuthAccountInput} {u : Unit} {db' : Db} (id : Uuid)
      (hfresh : ∀ a ∈ db.authAccounts,
        a.id ≠ id ∧ a.externalReference ≠ input.externalReference)
      (hfacts : db'.authFacts = { db.authFacts with
        accounts := db.identities ++ [(id, input.externalReference, input.trustDomain)] }) :
      AuthEffect db (.account (.createAccount input)) u db'
  | challengeCreated {record : AuthChallengeRecord} {u : Unit} {db' : Db}
      (challenge : AuthChallenge) (hnew : NewChallenge db record challenge)
      (hfacts : db'.authFacts =
        { db.authFacts with challenges := db.authChallenges ++ [challenge] }) :
      AuthEffect db (.email (.store (.createChallenge record))) u db'
  | consumed {input : ConsumeInput} {answer : Option ConsumedAuthChallenge} {db' : Db}
      (hanswer : answer = (db.authChallenges.find? (ConsumeInput.selects input)).map
        (toConsumed db.authAccounts input.atTime))
      (hfacts : db'.authFacts = { db.authFacts with
        challenges :=
          Table.set (ConsumeInput.selects input) (consumedRow input.atTime) db.authChallenges }) :
      AuthEffect db (.email (.store (.consume input))) answer db'
  | sessionCreated {record : SessionRecord} {u : Unit} {db' : Db} (session : AuthSession)
      (hnew : NewSession db record session)
      (hfacts : db'.authFacts = { db.authFacts with sessions := db.authSessions ++ [session] }) :
      AuthEffect db (.session (.create record)) u db'
  | sessionsRevoked {call : ServiceCall} {answer : call.Answer} {db' : Db}
      (hcall : call.revokesSessions = true) (selected : AuthSession → Bool) (reason : String)
      (atTime : ℤ)
      (hfacts : db'.authFacts =
        { db.authFacts with sessions := revokedSessions selected reason atTime db }) :
      AuthEffect db call answer db'
  | touched {sessionId : Uuid} {idleExpiresAt atTime : ℤ} {u : Unit} {db' : Db}
      (hfacts : db'.authFacts = { db.authFacts with
        sessions := Table.set (fun s => s.id = sessionId && s.state = .active)
          (fun s => { s with idleExpiresAt, lastSeenAt := atTime }) db.authSessions }) :
      AuthEffect db (.session (.touch sessionId idleExpiresAt atTime)) u db'
  | passkeySaved {credential : StoredPasskeyCredential} {createdAt : ℤ} {u : Unit} {db' : Db}
      (passkey : PasskeyMetadata) (hnew : NewPasskey db credential passkey)
      (hfacts : db'.authFacts = { db.authFacts with passkeys := db.passkeys ++ [passkey] }) :
      AuthEffect db (.passkey (.save credential createdAt)) u db'
  | passkeyUsed {input : PasskeyUsage} {u : Unit} {db' : Db}
      (hcount : db.passkeys.countP (usable input) = 1)
      (hfacts : db'.authFacts = { db.authFacts with
        passkeys := Table.set (usable input) (usedRow input) db.passkeys }) :
      AuthEffect db (.passkey (.updateUsage input)) u db'
  | passkeyRevoked {credentialReference accountReference : String} {revokedAt : ℤ} {u : Unit}
      {db' : Db}
      (hcount : db.passkeys.countP (revocable db credentialReference accountReference) = 1)
      (hfacts : db'.authFacts = { db.authFacts with
        passkeys := Table.set (revocable db credentialReference accountReference)
          (fun p => { p with state := .revoked, revokedAt := some revokedAt }) db.passkeys }) :
      AuthEffect db (.passkey (.revokeCredential credentialReference accountReference revokedAt)) u
        db'

/-! ## What each call leaves -/

theorem effect_recover {input : RecoverInput} {count : ℕ}
    (h : Commits (recoverAndRevokeSessions input) db count db') :
    AuthEffect db (.email (.store (.recoverAndRevokeSessions input))) count db' := by
  obtain ⟨a, db₁, haccount, hbody⟩ := commits_bind.1 h
  obtain ⟨rfl, -⟩ := commits_domainAccount haccount
  rw [commits_require_bind] at hbody
  obtain ⟨_, db₂, hrevoke, hrest⟩ := commits_bind.1 hbody.2
  obtain rfl := commits_revokeSessions hrevoke
  refine .sessionsRevoked rfl _ _ _ (Eq.trans (Keeps.bind (f := Db.authFacts) ?_ ?_ _ _ _ hrest) rfl)
  · exact keeps_updateAccountFacts _ fun _ => rfl
  · exact fun _ => authFacts_appendAudit.bind fun _ => keeps_pure

theorem effect_lock {input : LockInput} {count : ℕ}
    (h : Commits (lockAndRevokeSessions input) db count db') :
    AuthEffect db (.email (.store (.lockAndRevokeSessions input))) count db' := by
  obtain ⟨a, db₁, haccount, hbody⟩ := commits_bind.1 h
  obtain ⟨rfl, -⟩ := commits_domainAccount haccount
  rw [commits_require_bind] at hbody
  obtain ⟨_, db₂, hrevoke, hrest⟩ := commits_bind.1 hbody.2
  obtain rfl := commits_revokeSessions hrevoke
  refine .sessionsRevoked rfl _ _ _ (Eq.trans (Keeps.bind (f := Db.authFacts) ?_ ?_ _ _ _ hrest) rfl)
  · exact keeps_updateAccountFacts _ fun _ => rfl
  · exact fun _ => (keeps_appendSecurityAudit (fun _ _ _ _ => rfl) _ _ _ _ _).bind fun _ => keeps_pure

theorem effect_changeEmail {input : ChangeEmailInput} {result : ChangedEmail}
    (h : Commits (changeVerifiedEmail input) db result db') :
    AuthEffect db (.email (.store (.changeVerifiedEmail input))) result db' := by
  unfold changeVerifiedEmail requireOpaqueReference at h
  rw [commits_require_bind] at h
  obtain ⟨a, db₁, haccount, hbody⟩ := commits_bind.1 h.2
  obtain ⟨rfl, -⟩ := commits_domainAccount haccount
  simp only [commits_require_bind, commits_get_bind, commits_lift_bind,
    commits_modify_bind] at hbody
  obtain ⟨-, contacts, -, hbody⟩ := hbody
  obtain ⟨_, db₂, hinsert, hrest⟩ := commits_bind.1 hbody
  obtain ⟨_, db₃, hrevoke, hrest⟩ := commits_bind.1 hrest
  obtain rfl := commits_revokeSessions hrevoke
  have hkept := keeps_insertContact _ _ _ _ _ _ _ _ hinsert
  refine .sessionsRevoked rfl (fun s => s.accountId = a.id && s.state = .active)
    "verified_email_changed" input.atTime ?_
  have hrest := ((keeps_appendSecurityAudit (f := Db.authFacts) (fun _ _ _ _ => rfl) _ _ _ _ _).bind
    fun _ => keeps_pure) _ _ _ hrest
  simp only [Db.authFacts, AuthFacts.mk.injEq] at hkept hrest ⊢
  obtain ⟨hidentities, hsessions, hchallenges, hpasskeys⟩ := hkept
  obtain ⟨hidentities', hsessions', hchallenges', hpasskeys'⟩ := hrest
  refine ⟨hidentities'.trans hidentities, hsessions'.trans ?_, hchallenges'.trans hchallenges,
    hpasskeys'.trans hpasskeys⟩
  simp only [revokedSessions, hsessions]

theorem effect_createAccount {input : CreateAuthAccountInput} {u : Unit}
    (h : Commits (createAccount input) db u db') :
    AuthEffect db (.account (.createAccount input)) u db' := by
  unfold createAccount requireOpaqueReference at h
  rw [commits_require_bind] at h
  obtain ⟨_, db₁, hparticipant, hbody⟩ := commits_bind.1 h.2
  obtain rfl : db = db₁ := (keeps_participantId (f := fun db => db) _ _ _ _ hparticipant).symm
  obtain ⟨accountId, db₂, hid, hrow⟩ := commits_bind.1 hbody
  obtain ⟨rfl, rfl⟩ := commits_newId.1 hid
  simp only [requireUnique, commits_require_bind, commits_get_bind, commits_modify] at hrow
  obtain ⟨-, -, hfreshId, hfreshReference, -, rfl⟩ := hrow
  refine .accountCreated db.nextId (fun a ha => ?_) ?_
  · simp only [List.all_eq_true, Bool.not_eq_true', decide_eq_false_iff_not] at *
    exact ⟨hfreshId a ha, hfreshReference a ha⟩
  · simp [Db.authFacts, Db.identities, AuthAccount.identity]

theorem effect_createSession {sessionKeyVersions : TrustDomain → String} {record : SessionRecord}
    {u : Unit} (h : Commits (createSession sessionKeyVersions record) db u db') :
    AuthEffect db (.session (.create record)) u db' := by
  obtain ⟨a, db₁, haccount, hbody⟩ := commits_bind.1 h
  obtain ⟨rfl, ha, hreference, hdomain⟩ := commits_domainAccount haccount
  simp only [requireUnique, commits_require_bind, commits_get_bind, commits_lift_bind,
    commits_modify] at hbody
  obtain ⟨-, _, -, hid, hdigest, rfl⟩ := hbody
  simp only [List.all_eq_true, Bool.not_eq_true', decide_eq_false_iff_not] at hid hdigest
  exact .sessionCreated _ ⟨⟨_, a, ha, hreference, hdomain, rfl⟩, fun s hs =>
    ⟨hid s hs, hdigest s hs⟩⟩ rfl

theorem effect_revokeAll {reference reason : String} {trustDomain : TrustDomain} {atTime : ℤ}
    {count : ℕ} (h : Commits (revokeAll reference trustDomain reason atTime) db count db') :
    AuthEffect db (.session (.revokeAll reference trustDomain reason atTime)) count db' := by
  unfold revokeAll at h
  rw [commits_get_bind] at h
  obtain ⟨_, db₁, hupdate, hpure⟩ := commits_bind.1 h
  obtain ⟨-, rfl⟩ := commits_pure.1 hpure
  rw [commits_updateSessions hupdate]
  exact .sessionsRevoked rfl _ _ _ rfl

theorem effect_session {sessionKeyVersions : TrustDomain → String} {call : SessionStoreCall}
    {answer : call.Result} (h : Commits (call.exec sessionKeyVersions) db answer db') :
    AuthEffect db (.session call) answer db' := by
  cases call with
  | create record => exact effect_createSession h
  | findByTokenDigest trustDomain tokenDigest =>
    exact .kept rfl (keeps_get.bind (fun _ => keeps_pure) _ _ _ h)
  | revoke sessionId reason atTime =>
    rw [commits_updateSessions h]
    exact .sessionsRevoked rfl _ _ _ rfl
  | revokeAll reference trustDomain reason atTime => exact effect_revokeAll h
  | touch sessionId idleExpiresAt atTime =>
    rw [commits_updateSessions h]
    exact .touched rfl

theorem effect_save {credential : StoredPasskeyCredential} {createdAt : ℤ} {u : Unit}
    (h : Commits (save credential createdAt) db u db') :
    AuthEffect db (.passkey (.save credential createdAt)) u db' := by
  obtain ⟨a, db₁, haccount, hbody⟩ := commits_bind.1 h
  obtain ⟨rfl, ha, hreference, hdomain⟩ := commits_domainAccount haccount
  rw [commits_require_bind] at hbody
  obtain ⟨id, db₂, hid, hrow⟩ := commits_bind.1 hbody.2
  obtain ⟨rfl, rfl⟩ := commits_newId.1 hid
  simp only [requireUnique, commits_require_bind, commits_get_bind, commits_lift_bind,
    commits_modify] at hrow
  obtain ⟨_, -, -, hfresh, rfl⟩ := hrow
  simp only [List.all_eq_true, Bool.not_eq_true', decide_eq_false_iff_not] at hfresh
  exact .passkeySaved _ ⟨⟨_, createdAt, a, ha, hreference, hdomain, rfl⟩, hfresh⟩ rfl

theorem effect_passkey {call : PasskeyStoreCall} {answer : call.Result}
    (h : Commits call.exec db answer db') : AuthEffect db (.passkey call) answer db' := by
  cases call with
  | listActive reference trustDomain =>
    exact .kept rfl (keeps_get.bind (fun _ => keeps_pure) _ _ _ h)
  | findActive reference trustDomain =>
    exact .kept rfl (keeps_get.bind (fun _ => keeps_pure) _ _ _ h)
  | save credential createdAt => exact effect_save h
  | updateUsage input =>
    obtain ⟨hcount, rfl⟩ := commits_updatePasskey h
    exact .passkeyUsed hcount rfl
  | revokeCredential credentialReference accountReference revokedAt =>
    have h : Commits (AuthRepository.revokeCredential credentialReference accountReference revokedAt)
      db answer db' := h
    unfold AuthRepository.revokeCredential at h
    obtain ⟨hcount, rfl⟩ := commits_updatePasskey (commits_get_bind.1 h)
    exact .passkeyRevoked hcount rfl

theorem keeps_inviteCommittee (input : CommitteeInvitationInput) :
    Keeps Db.authFacts (inviteCommittee input) := by
  refine (keeps_account _ _).bind fun a => ?_
  refine Keeps.bind (keeps_get.bind fun _ => keeps_found) fun c => ?_
  refine Keeps.bind (keeps_newId fun _ _ => rfl) fun id => keeps_get.bind fun _ => ?_
  refine keeps_lift.bind fun _ => keeps_require.bind fun _ => keeps_require.bind fun _ => ?_
  exact keeps_modify fun _ => rfl

theorem keeps_activateCommittee (input : CommitteeActivationInput) :
    Keeps Db.authFacts (AuthRepository.activateCommittee input) := by
  refine keeps_get.bind fun _ => (keeps_updateAccess (fun _ _ => rfl) _ _ _).bind fun _ => ?_
  refine keeps_modify fun db => ?_
  have hidentities := Table.map_set
    (p := fun a : AuthAccount => a.externalReference = input.accountReference &&
      a.trustDomain = .committee)
    (f := fun a => { a with state := .active, version := a.version + 1 }) AuthAccount.identity
    (fun _ => rfl) db.authAccounts
  simp only [Db.authFacts, Db.identities, hidentities]

theorem effect_account {call : AccountStoreCall} {u : Unit} (h : Commits call.exec db u db') :
    AuthEffect db (.account call) u db' := by
  cases call with
  | createAccount input => exact effect_createAccount h
  | registerVerifiedEmail input =>
    refine .kept rfl (Keeps.bind (f := Db.authFacts) keeps_require ?_ _ _ _ h)
    refine fun _ => keeps_require.bind fun _ => (keeps_account _ _).bind fun _ => ?_
    exact (keeps_participantId _).bind fun _ => keeps_insertContact _ _ _ _ _
  | inviteCommittee input => exact .kept rfl (keeps_inviteCommittee input _ _ _ h)
  | approveCommittee input =>
    refine .kept rfl (Keeps.bind (f := Db.authFacts) keeps_get ?_ _ _ _ h)
    exact fun _ => keeps_updateAccess (fun _ _ => rfl) _ _ _
  | activateCommittee input => exact .kept rfl (keeps_activateCommittee input _ _ _ h)

theorem effect_increment {input : IncrementInput} {count : ℕ}
    (h : Commits (increment input) db count db') :
    AuthEffect db (.email (.store (.increment input))) count db' := by
  refine .kept rfl (Keeps.bind (f := Db.authFacts) keeps_get (fun db => ?_) _ _ _ h)
  split
  · exact Keeps.bind (keeps_modify fun _ => by rfl) fun _ => keeps_pure
  · exact keeps_require.bind fun _ => Keeps.bind (keeps_modify fun _ => by rfl) fun _ => keeps_pure

theorem effect_email {call : AuthStoreCall} {answer : call.Result}
    (h : Commits call.exec db answer db') : AuthEffect db (.email (.store call)) answer db' := by
  cases call with
  | increment input => exact effect_increment h
  | findByLookupDigest trustDomain lookupDigest =>
    exact .kept rfl (keeps_get.bind (fun _ => keeps_pure) _ _ _ h)
  | createChallenge record =>
    obtain ⟨challenge, hnew, rfl⟩ := commits_newChallenge h
    exact .challengeCreated challenge hnew rfl
  | consume input =>
    obtain ⟨hanswer, rfl⟩ := commits_consume h
    exact .consumed hanswer rfl
  | recoverAndRevokeSessions input => exact effect_recover h
  | lockAndRevokeSessions input => exact effect_lock h
  | changeVerifiedEmail input => exact effect_changeEmail h

/-- What a committed call leaves. -/
theorem ServiceCall.effect {config : AuthConfig} {call : ServiceCall} {answer : call.Answer}
    {transaction : DbTx call.Answer} (hexec : call.exec config = some transaction)
    (h : Commits transaction db answer db') : AuthEffect db call answer db' := by
  cases call with
  | email call =>
    cases call with
    | store call =>
      obtain rfl := Option.some.inj hexec
      exact effect_email h
    | host call => cases hexec
  | session call =>
    obtain rfl := Option.some.inj hexec
    exact effect_session h
  | passkey call =>
    obtain rfl := Option.some.inj hexec
    exact effect_passkey h
  | account call =>
    obtain rfl := Option.some.inj hexec
    exact effect_account h
  | webAuthn call => cases hexec

end ChecksAndBalances
