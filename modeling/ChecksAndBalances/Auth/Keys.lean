import ChecksAndBalances.Auth.Effects

/-!
# Runs of the authentication services

In a run every committed call is one that the contract allows, with the effect of its call, and the
tables keep their keys.
-/

namespace ChecksAndBalances

open Lib Lib.Tx Threads

variable {db db' : Db}

/-! ## Keys -/

/-- The tables as their unique indexes and foreign keys leave them. -/
structure AuthKeys (facts : AuthFacts) : Prop where
  accounts : (facts.accounts.map Prod.fst).Nodup
  references : (facts.accounts.map fun i => i.2.1).Nodup
  sessions : (facts.sessions.map AuthSession.id).Nodup
  tokens : (facts.sessions.map AuthSession.tokenDigest).Nodup
  challenges : (facts.challenges.map AuthChallenge.id).Nodup
  secrets : (facts.challenges.map AuthChallenge.secretDigest).Nodup
  passkeys : (facts.passkeys.map PasskeyMetadata.credentialReference).Nodup
  owners : ∀ p ∈ facts.passkeys, p.authAccountId ∈ facts.accounts.map Prod.fst

theorem authFacts_of_rows (h : db'.authRows = db.authRows) : db'.authFacts = db.authFacts := by
  simp only [Db.authRows, Prod.mk.injEq] at h
  simp only [Db.authFacts, Db.identities, h.1, h.2.1, h.2.2.1, h.2.2.2]

theorem mem_identities {a : AuthAccount} (ha : a ∈ db.authAccounts) :
    (a.id, a.externalReference, a.trustDomain) ∈ db.identities :=
  List.mem_map_of_mem ha

theorem exists_account_of_identity {i : Uuid × String × TrustDomain} (hi : i ∈ db.identities) :
    ∃ a ∈ db.authAccounts, (a.id, a.externalReference, a.trustDomain) = i :=
  List.mem_map.1 hi

theorem mem_identities_fst {a : AuthAccount} (ha : a ∈ db.authAccounts) :
    a.id ∈ db.identities.map Prod.fst :=
  List.mem_map.2 ⟨_, mem_identities ha, rfl⟩

/-- An update of passkeys that keeps their references and accounts. -/
theorem AuthKeys.set_passkeys {facts : AuthFacts} (h : AuthKeys facts) (p : PasskeyMetadata → Bool)
    {f : PasskeyMetadata → PasskeyMetadata}
    (hreference : ∀ k, (f k).credentialReference = k.credentialReference)
    (haccount : ∀ k, (f k).authAccountId = k.authAccountId) :
    AuthKeys { facts with passkeys := Table.set p f facts.passkeys } :=
  { h with
    passkeys := Table.nodup_set h.passkeys hreference
    owners := by
      intro k hk
      obtain ⟨k₀, hk₀, rfl⟩ := Table.exists_of_mem_set hk
      split_ifs
      · rw [haccount]
        exact h.owners k₀ hk₀
      · exact h.owners k₀ hk₀ }

/-- Every call keeps the keys. -/
theorem AuthKeys.effect (h : AuthKeys db.authFacts) {call : ServiceCall} {answer : call.Answer}
    (heffect : AuthEffect db call answer db') : AuthKeys db'.authFacts := by
  cases heffect with
  | kept hcall hfacts => exact hfacts ▸ h
  | accountCreated id hfresh hfacts =>
    rw [hfacts]
    have hid : ∀ i ∈ db.identities, i.1 ≠ id := by
      intro i hi
      obtain ⟨a, ha, rfl⟩ := exists_account_of_identity hi
      exact (hfresh a ha).1
    refine { h with
      accounts := Table.nodup_append h.accounts hid
      references := Table.nodup_append h.references fun i hi => ?_
      owners := fun p hp => ?_ }
    · obtain ⟨a, ha, rfl⟩ := exists_account_of_identity hi
      exact (hfresh a ha).2
    · rw [List.map_append]
      exact List.mem_append_left _ (h.owners p hp)
  | challengeCreated challenge hnew hfacts =>
    rw [hfacts]
    exact { h with
      challenges := Table.nodup_append h.challenges fun c hc => hnew.id ▸ (hnew.fresh c hc).1
      secrets := Table.nodup_append h.secrets fun c hc => hnew.digest ▸ (hnew.fresh c hc).2 }
  | consumed hanswer hfacts =>
    rw [hfacts]
    exact { h with
      challenges := Table.nodup_set h.challenges fun _ => rfl
      secrets := Table.nodup_set h.secrets fun _ => rfl }
  | sessionCreated session hnew hfacts =>
    obtain ⟨keyVersion, a, -, -, -, rfl⟩ := hnew.row
    rw [hfacts]
    exact { h with
      sessions := Table.nodup_append h.sessions fun s hs => (hnew.fresh s hs).1
      tokens := Table.nodup_append h.tokens fun s hs => (hnew.fresh s hs).2 }
  | sessionsRevoked hcall selected reason atTime hfacts =>
    rw [hfacts]
    exact { h with
      sessions := Table.nodup_set h.sessions fun _ => rfl
      tokens := Table.nodup_set h.tokens fun _ => rfl }
  | touched hfacts =>
    rw [hfacts]
    exact { h with
      sessions := Table.nodup_set h.sessions fun _ => rfl
      tokens := Table.nodup_set h.tokens fun _ => rfl }
  | passkeySaved passkey hnew hfacts =>
    obtain ⟨id, createdAt, a, ha, -, -, rfl⟩ := hnew.row
    rw [hfacts]
    refine { h with
      passkeys := Table.nodup_append h.passkeys hnew.fresh
      owners := fun p hp => ?_ }
    obtain hp | hp := List.mem_append.1 hp
    · exact h.owners p hp
    · obtain rfl := List.mem_singleton.1 hp
      exact mem_identities_fst ha
  | passkeyUsed hcount hfacts =>
    rw [hfacts]
    exact h.set_passkeys _ (fun _ => rfl) fun _ => rfl
  | passkeyRevoked hcount hfacts =>
    rw [hfacts]
    exact h.set_passkeys _ (fun _ => rfl) fun _ => rfl

/-! ## Runs -/

section Runs

variable {W : Type} [DecidableEq W] {config : AuthConfig}
  {admits : (call : ServiceCall) → call.Answer → Prop}

/-- The log leads from one database to the other. -/
abbrev AuthChronicle (config : AuthConfig) (admits : (call : ServiceCall) → call.Answer → Prop)
    (start : Db) (log : List (AuthEntry W)) (db : Db) : Prop :=
  Chronicle (ServiceCall.exec config) (authContract config admits) Db.authRows start log db

/-- The call of the entry is allowed after the past of its thread. -/
abbrev AuthValid (config : AuthConfig) (admits : (call : ServiceCall) → call.Answer → Prop)
    (earlier : List (AuthEntry W)) (e : AuthEntry W) : Prop :=
  e.Valid (ServiceCall.exec config) (authContract config admits) earlier

/-- The log leads to the database, and every method that runs is tracked by it. -/
abbrev AuthTraced (config : AuthConfig) (admits : (call : ServiceCall) → call.Answer → Prop)
    (start : Db) (s : AuthSystem W) : Prop :=
  s.Traced (ServiceCall.exec config) (authContract config admits) Db.authRows start

theorem authTraced_of_reach {C : AuthSystem W → AuthAct W → Prop}
    (hstore : ∀ call answer, (call.exec config).isSome = true → admits call answer)
    (hC : ∀ s act, C s act → act.Answers (authContract config admits)) {s₀ s : AuthSystem W}
    (hs₀ : s₀.Initial) (hrun : Reach (AuthSystem.step config) C s₀ s) :
    AuthTraced config admits s₀.store s :=
  traced_of_reach contract_honoured
    (fun call _ _ answer _ hexec _ => hstore call answer (by rw [hexec]; rfl)) hC hs₀ hrun

/-- In every run, whatever the host answers. -/
theorem authTraced_of_run {s₀ s : AuthSystem W} (hs₀ : s₀.Initial)
    (hrun : Reach (AuthSystem.step config) (fun _ _ => True) s₀ s) :
    AuthTraced config (fun _ _ => True) s₀.store s := by
  refine authTraced_of_reach (fun _ _ _ => trivial) (fun _ act _ => ?_) hs₀ hrun
  cases act with
  | host w answer => exact fun _ => trivial
  | _ => trivial

theorem authEffect_of_valid {earlier : List (AuthEntry W)} {e : AuthEntry W}
    (h : AuthValid config admits earlier e) : AuthEffect e.before e.call e.answer e.after := by
  obtain ⟨transaction, hexec, hcommits⟩ := h.commits
  exact ServiceCall.effect hexec hcommits

theorem authKeys_of_chronicle {start db : Db} {log : List (AuthEntry W)}
    (h : AuthChronicle config admits start log db) (hstart : AuthKeys start.authFacts) :
    AuthKeys db.authFacts :=
  h.invariant (I := fun _ db => AuthKeys db.authFacts)
    (fun _ _ _ hview hkeys => authFacts_of_rows hview ▸ hkeys) hstart
    fun _ _ hvalid _ hkeys => hkeys.effect (authEffect_of_valid hvalid)

/-- What holds at the start and is kept by the effect of every entry holds of the log and of what the
services depend on. -/
theorem auth_invariant {I : List (AuthEntry W) → AuthFacts → Prop} {start db : Db}
    {log : List (AuthEntry W)} (h : AuthChronicle config admits start log db)
    (hkeys : AuthKeys start.authFacts) (hstart : I [] start.authFacts)
    (hstep : ∀ earlier (e : AuthEntry W), AuthValid config admits earlier e →
      AuthChronicle config admits start earlier e.before → AuthKeys e.before.authFacts →
        AuthEffect e.before e.call e.answer e.after → I earlier e.before.authFacts →
          I (e :: earlier) e.after.authFacts) : I log db.authFacts :=
  h.invariant (I := fun log db => I log db.authFacts)
    (fun _ _ _ hview hI => authFacts_of_rows hview ▸ hI) hstart
    fun earlier e hvalid hearlier => hstep earlier e hvalid hearlier
      (authKeys_of_chronicle hearlier hkeys) (authEffect_of_valid hvalid)

end Runs

/-! ## A test configuration -/

namespace AuthSample

/-- The same keys in both domains, and every address is in its normal form. -/
def config : AuthConfig :=
  { email :=
      { secrets := fun _ => "email-secret"
        rateLimitSecret := "rate-secret"
        normalizeEmail := fun email => email }
    sessions := fun _ =>
      { audience := "participant", sessionSecret := "session-secret", idleTimeoutMs := 1800000
        absoluteTimeoutMs := 28800000 }
    passkeys := fun _ =>
      { relyingPartyName := "Participant", relyingPartyId := "participant.invalid"
        origin := "https://participant.invalid", challengeSecret := "challenge-secret"
        challengeLifetimeMs := 300000 }
    sessionKeyVersions := fun _ => "v1" }

/-- What the host answers. -/
structure Host where
  token : String
  id : Uuid
  credential : String
  counter : ℤ

/-- The answers to all calls; the verifications check the challenge and the counter. -/
def Host.answer (host : Host) : (call : ServiceCall) → call.Answer
  | .email (.host .generateOpaqueToken) => host.token
  | .email (.host .newId) => host.id
  | .email (.host (.enqueue _)) => ()
  | .email (.store (.increment _)) => (0 : ℕ)
  | .email (.store (.findByLookupDigest _ _)) => none
  | .email (.store (.createChallenge _)) => ()
  | .email (.store (.consume _)) => none
  | .email (.store (.recoverAndRevokeSessions _)) => (0 : ℕ)
  | .email (.store (.lockAndRevokeSessions _)) => (0 : ℕ)
  | .email (.store (.changeVerifiedEmail _)) => ⟨[], 0⟩
  | .session (.create _) => ()
  | .session (.findByTokenDigest _ _) => none
  | .session (.revoke _ _ _) => ()
  | .session (.revokeAll _ _ _ _) => (0 : ℕ)
  | .session (.touch _ _ _) => ()
  | .passkey (.listActive _ _) => []
  | .passkey (.findActive _ _) => none
  | .passkey (.save _ _) => ()
  | .passkey (.updateUsage _) => ()
  | .passkey (.revokeCredential _ _ _) => ()
  | .account _ => ()
  | .webAuthn (.generateRegistrationOptions _) => ⟨host.token, ""⟩
  | .webAuthn (.generateAuthenticationOptions _ _) => ⟨host.token, ""⟩
  | .webAuthn (.verifyRegistrationResponse input) =>
    if input.expectedChallenge host.token then
      some (some
        { credentialId := host.credential, publicKey := [], counter := host.counter
          transports := none, credentialDeviceType := .singleDevice, credentialBackedUp := false })
    else none
  | .webAuthn (.verifyAuthenticationResponse input) =>
    if input.expectedChallenge host.token ∧
        (input.credential.counter < host.counter ∨ host.counter = 0 ∧ input.credential.counter = 0)
    then
      some
        { verified := true, newCounter := host.counter, userVerified := true
          credentialDeviceType := .singleDevice, credentialBackedUp := false }
    else none

/-- An active account of each trust domain. -/
def accounts : List AuthAccount := [
  { id := 1, externalReference := "account:one", trustDomain := .participant, state := .active
    participantId := some 10, version := 1, lockedAt := none, suspendedAt := none
    recoveredAt := none, closedAt := none },
  { id := 2, externalReference := "account:two", trustDomain := .committee, state := .active
    participantId := none, version := 1, lockedAt := none, suspendedAt := none
    recoveredAt := none, closedAt := none }]

/-- An active passkey of the participant. -/
def passkey (id : Uuid) (credentialReference : String) : PasskeyMetadata :=
  { id, participantId := some 10, authAccountId := 1, credentialReference
    relyingPartyId := "participant.invalid", publicKey := [], transports := []
    credentialDeviceType := .singleDevice, backedUp := false, deviceLabel := "", state := .active
    signCount := 0, createdAt := 0, lastUsedAt := none, revokedAt := none }

/-- Nothing runs over the database. -/
def initial (db : Db) : AuthSystem ℕ := { store := db, threads := fun _ => none, log := [] }

theorem initial_initial (db : Db) : (initial db).Initial := ⟨fun _ => rfl, rfl⟩

/-- The accounts alone. -/
def start : AuthSystem ℕ := initial { Db.empty with authAccounts := accounts }

theorem start_keys : AuthKeys start.store.authFacts where
  accounts := by decide
  references := by decide
  sessions := by decide
  tokens := by decide
  challenges := by decide
  secrets := by decide
  passkeys := by decide
  owners := by decide

/-- `beginRegistration` for the participant. -/
def beginRegistration (w : ℕ) (authorizedBy : PasskeyService.EnrolmentAuthority) (host : Host) :
    List (AuthAct ℕ) := [
  .start w (.beginRegistration
    { accountReference := "account:one", trustDomain := .participant, authorizedBy, now := 0 }),
  .store w, .host w host.answer, .host w host.answer, .store w]

/-- `finishRegistration` for the participant. -/
def finishRegistration (w : ℕ) (host : Host) : List (AuthAct ℕ) := [
  .start w (.finishRegistration
    { trustDomain := .participant, challengeReference := host.id
      response := ⟨host.credential, ""⟩, deviceLabel := "", now := 1000 }),
  .store w, .host w host.answer, .store w]

end AuthSample

end ChecksAndBalances
