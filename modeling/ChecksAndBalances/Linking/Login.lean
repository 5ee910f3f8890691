import ChecksAndBalances.Config.RuntimeConfig
import ChecksAndBalances.Hosted.Delivery
import ChecksAndBalances.Lifecycle.Transition
import ChecksAndBalances.Linking.ServiceSystem

/-!
# A login

The calls of a poll that links an identity: the session is read, the challenge is read, the hosted
service answers with a token, the node shows the identity, and the challenge is completed.
-/

namespace ChecksAndBalances

open Lib Lib.Tx Threads VerusLinkRepository

/-! ## Digests -/

theorem isHex64_hexWords {words : List ℕ} (h : words.length = 8) :
    isHex64 (String.ofList (words.flatMap Sha256.hexWord)) = true := by
  have hdigit : ∀ n < 16, (isDigit (Sha256.hexDigit n) ||
      ('a' ≤ Sha256.hexDigit n && Sha256.hexDigit n ≤ 'f')) = true := by
    decide
  rw [isHex64, String.toList_ofList, Bool.and_eq_true, beq_iff_eq, List.all_eq_true,
    Sha256.length_hexWords, h]
  refine ⟨rfl, fun c hc => ?_⟩
  obtain ⟨n, hn, rfl⟩ := Sha256.exists_of_mem_hexWords hc
  exact hdigit n hn

/-- A digest is one that the repositories accept. -/
theorem isHex64_sha256 (value : String) : isHex64 (sha256 value) = true :=
  isHex64_hexWords (Sha256.length_hash _)

theorem isHex64_keyedDigest (secret value : String) : isHex64 (keyedDigest secret value) = true :=
  isHex64_hexWords (Sha256.length_hash _)

/-! ## Verified results -/

/-- A verified result carries the digest of a token that verifies. -/
theorem getResult_eq_verified [ServiceHost] {config : HostedAuthClientConfig}
    {response : Option HostedHttpResponse} {input : GetHostedResultInput}
    {identityAddress proofDigest : String} {displayName : Option String}
    {tokenIssuedAt tokenExpiresAt : ℤ}
    (h : config.getResult response input =
      .ok (.verified identityAddress displayName proofDigest tokenIssuedAt tokenExpiresAt)) :
    iaddressPattern input.challengeId = true ∧ ∃ token times,
      verifyJwt token config.jwtSecret
        { issuer := config.issuer, audience := input.audience, challengeId := input.challengeId
          state := input.state, identityAddress, issuedAt := input.issuedAt
          expiresAt := input.expiresAt, now := input.now } = .ok times ∧
      proofDigest = sha256 token := by
  unfold HostedAuthClientConfig.getResult at h
  split_ifs at h with hpattern
  refine ⟨by simpa using hpattern, ?_⟩
  split at h
  · cases h
  · split_ifs at h
    · cases h
    · obtain ⟨body, -, h⟩ := bind_eq_ok h
      split at h
      · obtain ⟨token, -, h⟩ := bind_eq_ok h
        obtain ⟨address, -, h⟩ := bind_eq_ok h
        obtain ⟨times, hverified, h⟩ := bind_eq_ok h
        obtain ⟨name, -, h⟩ := bind_eq_ok h
        obtain ⟨rfl, -, rfl, -, -⟩ := HostedResult.verified.inj (Except.ok.inj h)
        exact ⟨token, times, hverified, rfl⟩
      · cases h

/-! ## The calls of a login -/

section Traces

variable [LinkingHost] {config : LinkingConfig}

omit [LinkingHost] in
theorem LinkingProgram.ofAuth_runs {α : Type} {p : ServiceProgram α}
    {trace : List (Sigma ServiceCall.Answer)} {a : α} (h : p.run.Runs trace (.ok a)) :
    (LinkingProgram.ofAuth p).run.Runs (trace.map fun item => ⟨.auth item.1, item.2⟩) (.ok a) := by
  refine Program.runs_bind.2 ⟨_, [], .ok a, (List.append_nil _).symm, Program.Runs.embed h, ?_⟩
  exact ⟨rfl, rfl⟩

/-- What a poll that links an identity reads. -/
structure Login where
  trustDomain : TrustDomain
  token : String
  session : SessionRecord
  pollingToken : String
  presented : WalletLinkPollResult
  challenge : WalletLinkChallengeRecord
  requestId : String
  issuedAt : ℤ
  state : String
  response : HostedHttpResponse
  identityAddress : String
  displayName : Option String
  proofDigest : String
  tokenIssuedAt : ℤ
  tokenExpiresAt : ℤ
  info : VerusInfo
  identity : LinkedIdentityReadback
  link : CompletedWalletLink
  acknowledged : HostedHttpResponse
  linked : WalletLinkPollResult
  expiresAt : String

namespace Login

variable (login : Login)

/-- The call that keeps the session. -/
def touchCall (config : LinkingConfig) (now : ℤ) : LinkingCall :=
  .auth (.session (.touch login.session.id (SessionService.nextIdle config.auth
    { trustDomain := login.trustDomain, token := some login.token, now } login.session) now))

/-- The principal of the session. -/
def principal : WalletLinkPrincipal := LinkingConfig.principalFromSession login.session

/-- The digest under which the challenge is stored. -/
def tokenDigest (config : LinkingConfig) : String :=
  keyedDigest config.service.pollingTokenSecret login.pollingToken

/-- The call that polls for the challenge. -/
def pollCall (config : LinkingConfig) (now : ℤ) (correlationId : String) : LinkingCall :=
  .link (.pollChallenge login.principal.accountReference (login.tokenDigest config) now
    (linkContextFor login.principal correlationId (login.tokenDigest config) "wallet_link_polled"))

/-- The call that completes the challenge. -/
def completeCall (now : ℤ) (correlationId : String) : LinkingCall :=
  .link (.completeChallenge
    (WalletLinkService.completion login.challenge login.identityAddress login.proofDigest
      login.identity now)
    (linkContextFor login.principal correlationId login.proofDigest "wallet_link_verified"))

/-- The request that acknowledges the result. -/
def acknowledgement : HostedHttpRequest :=
  .acknowledge login.requestId (Json.obj [("proofDigest", .str login.proofDigest)]).stringify

/-- The calls for the session. -/
def sessionTrace (config : LinkingConfig) (now : ℤ) : List LinkingItem := [
  ⟨sessionLookup config login.trustDomain login.token, some login.session⟩,
  ⟨login.touchCall config now, ()⟩]

/-- The calls for the challenge. -/
def linkTrace (config : LinkingConfig) (now : ℤ) (correlationId : String) : List LinkingItem := [
  ⟨login.pollCall config now correlationId, login.presented⟩,
  ⟨.link (.challengeForPoll login.principal.accountReference (login.tokenDigest config)),
    login.challenge⟩,
  ⟨.hosted (.result login.requestId), some login.response⟩,
  ⟨.readback login.identityAddress, .ok (login.info, login.identity)⟩,
  ⟨login.completeCall now correlationId, .completed login.link⟩,
  ⟨.hosted login.acknowledgement, some login.acknowledged⟩,
  ⟨login.pollCall config now correlationId, login.linked⟩]

/-- The request carries the cookie of the session, which is live. -/
structure Admitted (config : LinkingConfig) (authentication : RequestAuthentication) (now : ℤ) :
    Prop where
  candidates : config.candidates authentication = [(login.trustDomain, login.token)]
  audience : login.session.audience = (config.auth.sessions login.trustDomain).audience
  active : login.session.revokedAt = none
  idle : now < login.session.idleExpiresAt
  absolute : now < login.session.absoluteExpiresAt
  csrf : config.requireCsrf login.session authentication = .ok ()

/-- The service is enabled, the challenge is open, the hosted service has verified a login under its
state, and the node shows the identity active. -/
structure Approved (config : LinkingConfig) (request : PollRequest) : Prop where
  admitted : login.Admitted config request.authentication request.now
  facade : config.enabled = true
  service : config.service.enabled = true
  network : config.service.network = .vrsctest
  bindingSecret : 32 ≤ (utf16 config.service.bindingSecret).length
  pollingTokenSecret : 32 ≤ (utf16 config.service.pollingTokenSecret).length
  pollingToken : AuthServices.nonEmpty request.pollingToken = some login.pollingToken
  presented : login.presented.state = .presented
  requestId : login.challenge.requestId = some login.requestId
  issuedAt : login.challenge.issuedAt = some login.issuedAt
  state : config.linking.challengeState login.challenge = .ok login.state
  nonce : sha256 login.state = login.challenge.nonceHash
  verified : config.hostedAuth.toHostedAuthClientConfig.getResult (some login.response)
    (WalletLinkService.resultInput login.challenge login.issuedAt login.state request.now) =
      .ok (.verified login.identityAddress login.displayName login.proofDigest login.tokenIssuedAt
        login.tokenExpiresAt)
  chain : validateReadbackChain login.info = .ok ()
  identity : validateLinkedIdentity login.identity login.identityAddress = .ok ()
  acknowledged : isOkStatus login.acknowledged.status = true
  expiresAt : toISOString login.linked.expiresAt = some login.expiresAt

variable {login}

/-- The session is read and kept. -/
theorem authenticate_runs {authentication : RequestAuthentication} {now : ℤ}
    (h : login.Admitted config authentication now) :
    (config.authenticate authentication now).run.Runs (login.sessionTrace config now)
      (.ok login.principal) := by
  have htoken : AuthServices.nonEmpty (some login.token) = some login.token := by
    have hcandidate : (login.trustDomain, login.token) ∈ config.candidates authentication := by
      rw [h.candidates]
      exact List.mem_singleton_self _
    exact nonEmpty_of_candidate hcandidate
  have hlive : ¬ (login.session.idleExpiresAt ≤ now ∨ login.session.absoluteExpiresAt ≤ now) :=
    not_or.2 ⟨not_le.2 h.idle, not_le.2 h.absolute⟩
  have hservice : (SessionService.authenticate config.auth
      { trustDomain := login.trustDomain, token := some login.token, now }).run.Runs
      [⟨.session (.findByTokenDigest login.trustDomain
          (keyedDigest (config.auth.sessions login.trustDomain).sessionSecret login.token)),
        some login.session⟩,
       ⟨.session (.touch login.session.id (SessionService.nextIdle config.auth
          { trustDomain := login.trustDomain, token := some login.token, now } login.session) now),
        ()⟩]
      (.ok { login.session with
        idleExpiresAt := SessionService.nextIdle config.auth
          { trustDomain := login.trustDomain, token := some login.token, now }
          login.session }) := by
    unfold SessionService.authenticate
    rw [htoken]
    refine Program.Runs.lift_request_bind ?_
    refine Program.Runs.throwIf_bind (by simp [h.audience]) ?_
    refine Program.Runs.throwIf_bind (by simp [h.active]) ?_
    rw [if_neg hlive]
    refine Program.Runs.lift_request_bind ?_
    exact ⟨rfl, rfl⟩
  unfold LinkingConfig.authenticate
  rw [h.candidates]
  refine (LinkingProgram.ofAuth_runs hservice).except_bind (?_ : Program.Runs _ [] _)
  refine Program.Runs.ofExcept_bind h.csrf ?_
  exact ⟨rfl, rfl⟩

omit [LinkingHost] in
theorem fetch_runs {request : HostedHttpRequest} {response : HostedHttpResponse} :
    (HostedAuthHttpConfig.fetch request).run.Runs [⟨.hosted request, some response⟩]
      (.ok response) :=
  Program.Runs.lift_request_bind ⟨rfl, rfl⟩

/-- The identity is read back, and the challenge is completed and acknowledged. -/
theorem link_runs {request : PollRequest} (h : login.Approved config request) :
    (WalletLinkService.link
      { principal := login.principal, pollingToken := login.pollingToken, now := request.now
        correlationId := request.correlationId }
      login.challenge login.identityAddress login.proofDigest).run.Runs
      [⟨.readback login.identityAddress, .ok (login.info, login.identity)⟩,
        ⟨login.completeCall request.now request.correlationId, .completed login.link⟩,
        ⟨.hosted login.acknowledgement, some login.acknowledged⟩] (.ok ()) := by
  obtain ⟨hpattern, token, times, -, hdigest⟩ := getResult_eq_verified h.verified
  have hid : iaddressPattern login.requestId = true := by
    simpa [WalletLinkService.resultInput, h.requestId] using hpattern
  have hhex : isHex64 login.proofDigest = true := hdigest ▸ isHex64_sha256 token
  have hacknowledge : (WalletLinkService.acknowledgeHostedResult login.requestId login.proofDigest
      3).Runs [⟨.hosted login.acknowledgement, some login.acknowledged⟩] () := by
    have hresult : (HostedAuthHttpConfig.acknowledgeResult login.requestId
        login.proofDigest).run.Runs
        [⟨.hosted login.acknowledgement, some login.acknowledged⟩] (.ok ()) := by
      unfold HostedAuthHttpConfig.acknowledgeResult
      refine Program.Runs.throwIf_bind (by simp [hid, hhex]) ?_
      refine fetch_runs.except_bind (?_ : Program.Runs _ [] _)
      rw [Program.throwIf, if_neg (by simp [h.acknowledged])]
      exact ⟨rfl, rfl⟩
    exact Program.runs_bind.2 ⟨_, [], _, (List.append_nil _).symm, hresult, rfl, rfl⟩
  unfold WalletLinkService.link
  refine Program.Runs.lift_request_bind ?_
  refine Program.Runs.ofExcept_bind rfl ?_
  refine Program.Runs.ofExcept_bind h.chain ?_
  refine Program.Runs.ofExcept_bind h.identity ?_
  refine Program.Runs.lift_request_bind ?_
  refine Program.Runs.throwIf_bind (by simp) ?_
  rw [h.requestId]
  exact Program.runs_bind.2 ⟨_, [], _, (List.append_nil _).symm, hacknowledge, rfl, rfl⟩

/-- The challenge is polled, completed and polled again. -/
theorem service_runs {request : PollRequest} (h : login.Approved config request) :
    (config.linking.poll
      { principal := login.principal, pollingToken := login.pollingToken, now := request.now
        correlationId := request.correlationId }).run.Runs
      (login.linkTrace config request.now request.correlationId) (.ok login.linked) := by
  have hid : iaddressPattern login.requestId = true := by
    simpa [WalletLinkService.resultInput, h.requestId] using (getResult_eq_verified h.verified).1
  have henabled : (config.linking.requireEnabled).run.Runs [] (.ok ()) := by
    unfold WalletLinkService.requireEnabled
    refine Program.Runs.throwIf_bind (by simp [LinkingConfig.linking, h.service]) ?_
    refine Program.Runs.throwIf_bind (by simp [LinkingConfig.linking, h.network]) ?_
    rw [Program.throwIf, if_neg]
    · exact ⟨rfl, rfl⟩
    · simp only [LinkingConfig.linking, not_or, not_lt]
      exact ⟨h.bindingSecret, h.pollingTokenSecret⟩
  have hresult : (LinkingProgram.ofHosted (config.hostedAuth.getResult
      (WalletLinkService.resultInput login.challenge login.issuedAt login.state
        request.now))).run.Runs [⟨.hosted (.result login.requestId), some login.response⟩]
      (.ok (.verified login.identityAddress login.displayName login.proofDigest login.tokenIssuedAt
        login.tokenExpiresAt)) := by
    have hverified := h.verified
    rw [WalletLinkService.resultInput, h.requestId] at hverified ⊢
    refine Program.runs_bind.2 ⟨_, [], .ok _, (List.append_nil _).symm, ?_, rfl, rfl⟩
    unfold HostedAuthHttpConfig.getResult
    refine Program.Runs.throwIf_bind (by simp [hid]) ?_
    refine Program.Runs.lift_request_bind ?_
    exact ⟨rfl, hverified⟩
  unfold WalletLinkService.poll
  refine henabled.except_bind ?_
  refine Program.Runs.lift_request_bind ?_
  rw [if_neg (by simp [h.presented])]
  refine Program.Runs.lift_request_bind ?_
  refine Program.Runs.ofExcept_bind h.state ?_
  refine Program.Runs.throwIf_bind (by simp [h.nonce]) ?_
  rw [h.issuedAt]
  refine hresult.except_bind ?_
  refine (link_runs h).except_bind ?_
  refine ⟨_, [], rfl, rfl, rfl⟩

/-- A poll of an approved login links the identity. -/
theorem Approved.poll_runs {request : PollRequest} (h : login.Approved config request) :
    (config.poll request).run.Runs
      (login.sessionTrace config request.now ++
        login.linkTrace config request.now request.correlationId)
      (.ok
        { challengeReference := login.linked.challengeReference, state := login.linked.state
          expiresAt := login.expiresAt, linkReference := login.linked.linkReference
          identityAddress := login.linked.identityAddress }) := by
  unfold LinkingConfig.poll LinkingConfig.requireFacade
  refine Program.Runs.throwIf_bind (by simp [h.facade]) ?_
  rw [h.pollingToken]
  refine (authenticate_runs h.admitted).except_bind ?_
  rw [← List.append_nil (login.linkTrace config request.now request.correlationId)]
  refine (service_runs h).except_bind ?_
  rw [h.expiresAt]
  exact ⟨rfl, rfl⟩

end Login

/-- A request can run to its end without any other request in between. -/
theorem exists_reach_linking {W : Type} [DecidableEq W] {s : LinkingSystem W} {w : W}
    {request : LinkingRequest} {host : (call : LinkingCall) → call.Answer}
    {trace : List LinkingItem} {result : request.Result}
    (hruns : (request.program config).Runs trace result) (hw : s.threads w = none) {db : Db}
    (hanswered : Answered (LinkingCall.exec config.auth) host trace s.store db) :
    ∃ s' : LinkingSystem W,
      Reach (LinkingSystem.step config) (fun _ act => act.Starts (· = request)) s s' ∧
      s'.store = db ∧ s'.log.map Entry.item =
        (stored (LinkingCall.exec config.auth) trace).reverse ++ s.log.map Entry.item := by
  obtain ⟨s₁, hstart, hs₁, hthread, hlog₁⟩ : ∃ s₁ : LinkingSystem W,
      LinkingSystem.step config s (.start w request) = some s₁ ∧ s₁.store = s.store ∧
      s₁.threads w = some { request, past := [], process := some (request.program config) } ∧
      s₁.log = s.log := by
    refine ⟨Threads.State.put s w
      { request, past := [], process := some (request.program config) }, ?_, rfl,
      Function.update_self _ _ _, rfl⟩
    simp only [LinkingSystem.step, State.step, hw]
  obtain ⟨s', hreach, hs', -, hlog⟩ : ∃ s' : LinkingSystem W,
      Reach (LinkingSystem.step config) (fun _ act => act.Starts (· = request)) s₁ s' ∧
      s'.store = db ∧ _ ∧ s'.log.map Entry.item =
        (stored (LinkingCall.exec config.auth) trace).reverse ++ s₁.log.map Entry.item :=
    exists_reach_alone (fun _ => trivial) (fun _ => trivial) hruns hthread (hs₁ ▸ hanswered)
  have hbegun := Reach.tail (C := fun _ act => act.Starts (· = request)) (Reach.refl s) rfl hstart
  exact ⟨s', hbegun.trans hreach, hs', hlog₁ ▸ hlog⟩

end Traces

/-! ## A login of the sample wallet -/

namespace LinkingSample

/-- The host functions of the sample times; the method of a request is in capitals. -/
scoped instance host : LinkingHost :=
  { DeliverySample.host with
    urlProtocol := fun _ => some loginConsentScheme
    toUpperCase := fun text => text }

scoped instance signer : TokenSigner := DeliverySample.signer

theorem laws : HostedLaws := DeliverySample.laws

def hostedAuth : HostedAuthHttpConfig :=
  { issuer := HostedSample.config.jwtIssuer
    jwtSecret := HostedSample.config.jwtSecret
    contractVersion := "cbc-verusid-auth.v1"
    serviceVersion := "1.0.0"
    serviceSourceRevision := "source"
    imageDigest := "image"
    sdkCommit := "sdk"
    primitivesCommit := "primitives"
    rpcClientCommit := "rpc"
    bitgoCommit := "bitgo"
    daemonVersion := "1.2.14"
    applicationIdentityAddress := HostedSample.challenge.signingIdentity
    callbackUrl := HostedSample.challenge.callbackUrl }

def config : LinkingConfig :=
  { enabled := true
    auth := AuthSample.config
    cookieName := fun domain => "cbc_" ++ domain.name ++ "_session"
    origin := fun domain => "https://" ++ domain.name ++ ".invalid"
    service :=
      { enabled := true
        network := .vrsctest
        applicationIdentityAddress := hostedAuth.applicationIdentityAddress
        authServiceCallbackUrl := hostedAuth.callbackUrl
        participantAudience := HostedSample.challenge.audience
        committeeAudience := "cbc-committee-app"
        bindingSecret := "independent-binding-secret-of-32-bytes"
        pollingTokenSecret := "independent-polling-secret-of-32-bytes" }
    hostedAuth }

/-- The state of the challenge. -/
def state : String :=
  String.ofList (Base64.encode (Sha256.hmacBytes (encodeUtf8 config.service.bindingSecret)
    (encodeUtf8 (unitSeparator.toString.intercalate ["cbc.hosted-verusid-link.state.v1",
      "account_one", "participant", "link_verusid", HostedSample.challenge.audience,
      HostedSample.challenge.issuedAt, HostedSample.challenge.expiresAt]))))

/-- The challenge that the hosted service has signed. -/
def challenge : StoredChallenge := { HostedSample.challenge with state }

def identity : ActiveIdentity := HostedSample.active HostedSample.addresses.1

/-- The token of the login. -/
def token : String :=
  TokenSigner.sign (tokenPayload challenge identity) HostedSample.config.jwtSecret
    (tokenOptions HostedSample.config challenge 120 "3f0f6ad2-6f0e-4d55-9d3a-0c5f4e7b1a11")
    1786068000000

def account : AuthAccount :=
  { id := 2, externalReference := "account_one", trustDomain := .participant, state := .active
    participantId := some 1, version := 1, lockedAt := none, suspendedAt := none
    recoveredAt := none, closedAt := none }

def sessionSecret : String := (config.auth.sessions .participant).sessionSecret

/-- The session of the account. -/
def session : AuthSession :=
  { id := 3, accountId := 2, trustDomain := .participant, audience := "participant"
    tokenDigest := keyedDigest sessionSecret "token", csrfDigest := keyedDigest sessionSecret "csrf"
    keyVersion := "v1", authenticationStrength := .passkey, state := .active, deviceLabel := ""
    authenticatedAt := 1786067000000, reauthenticatedAt := none, lastSeenAt := 1786067000000
    idleExpiresAt := 1786069000000, absoluteExpiresAt := 1786090000000, revokedAt := none
    revocationReason := none }

def pollingDigest : String := keyedDigest config.service.pollingTokenSecret "polling"

/-- The open challenge of the account. -/
def presented : WalletChallenge :=
  presentedChallenge 4 account
    { externalReference := "wallet_challenge_one", accountReference := "account_one"
      trustDomain := .participant, purpose := .linkVerusid, network := "VRSCTEST"
      nonceHash := sha256 state, requestId := challenge.challengeID
      requestDigest := LinkSample.digest 'a', pollingTokenDigest := pollingDigest
      audience := challenge.audience, callbackUrl := challenge.callbackUrl
      applicationIdentityAddress := challenge.signingIdentity, consentedScopes := ["verusid:link"]
      issuedAt := 1786068000000, expiresAt := 1786068300000 }

/-- The account, its session and its challenge. -/
def db : Db :=
  { Db.empty with
    participants := [{ id := 1, externalReference := "participant_one" }]
    authAccounts := [account]
    authSessions := [session]
    walletChallenges := [presented] }

def start : LinkingSystem ℕ := { store := db, threads := fun _ => none, log := [] }

def request : PollRequest :=
  { authentication :=
      { method := "POST", cookieHeader := some "cbc_participant_session=token"
        origin := some "https://participant.invalid", csrfToken := some "csrf" }
    pollingToken := some "polling"
    now := 1786068000000
    correlationId := "correlation_one" }

def polled (state : WalletChallengeState) (link : Option (String × String)) :
    WalletLinkPollResult :=
  { challengeReference := "wallet_challenge_one", state, expiresAt := 1786068300000
    linkReference := link.map Prod.fst, identityAddress := link.map Prod.snd }

/-- The login. -/
def login : Login :=
  { trustDomain := .participant
    token := "token"
    session := AuthRepository.mapSession session account
    pollingToken := "polling"
    presented := polled .presented none
    challenge := mapChallenge db presented account
    requestId := challenge.challengeID
    issuedAt := 1786068000000
    state
    response := (tokenResult token identity "2026-08-07T02:02:00.000Z").response.http
    identityAddress := identity.identityAddress
    displayName := safeDisplayName identity.displayName
    proofDigest := sha256 token
    tokenIssuedAt := 1786068000000 / 1000 * 1000
    tokenExpiresAt := (1786068000000 / 1000 + 120) * 1000
    info :=
      { version := 1, chainId := vrsctestChainId, name := "VRSCTEST", blocks := 1, longestChain := 1
        connections := 1, testnet := true, errors := "" }
    identity :=
      { identity :=
          { version := ⟨0⟩, flags := ⟨0⟩, primaryAddresses := [], minimumSignatures := ⟨0⟩
            name := "synthetic", identityAddress := identity.identityAddress
            parent := vrsctestChainId, systemId := vrsctestChainId, contentMap := []
            contentMultiMap := [], revocationAuthority := identity.identityAddress
            recoveryAuthority := identity.identityAddress, timelock := ⟨0⟩ }
        status := "active", canSignFor := false, blockHeight := 1
        transactionId := LinkSample.digest 'f', fullyQualifiedName := identity.displayName }
    link :=
      { replayed := false, linkReference := "verus_link_101"
        identityAddress := identity.identityAddress, state := .active }
    acknowledged := { status := 200, contentLength := 0, text := "" }
    linked := polled .consumed (some ("verus_link_101", identity.identityAddress))
    expiresAt := "2026-08-07T02:05:00.000Z" }

/-- What the texts of the sample are checked for. -/
theorem texts : config.candidates request.authentication = [(.participant, "token")] ∧
    (32 ≤ (utf16 config.service.bindingSecret).length ∧
      32 ≤ (utf16 config.service.pollingTokenSecret).length) ∧
    (isOpaqueReference "account_one" = true ∧ '@' ∉ "account_one".toList) ∧
    (isHex64 (LinkSample.digest 'f') = true ∧ isHex64 (LinkSample.digest 'a') = true) ∧
    ∀ s ∈ [challenge.challengeID, identity.identityAddress, challenge.audience,
      HostedSample.config.jwtIssuer, "3f0f6ad2-6f0e-4d55-9d3a-0c5f4e7b1a11"],
      (encodeUtf8 s).length ≤ 64 := by
  decide +kernel

theorem isOpaqueReference_account :
    isOpaqueReference "account_one" = true ∧ '@' ∉ "account_one".toList :=
  texts.2.2.1

theorem digest_hex :
    isHex64 (LinkSample.digest 'f') = true ∧ isHex64 (LinkSample.digest 'a') = true :=
  texts.2.2.2.1

theorem admitted : login.Admitted config request.authentication request.now where
  candidates := texts.1
  audience := rfl
  active := rfl
  idle := by decide
  absolute := by decide
  csrf := by
    have hmethod : "POST" ∉ ["GET", "HEAD", "OPTIONS"] := by decide
    have horigin : request.authentication.origin = some (config.origin .participant) := by decide
    rw [LinkingConfig.requireCsrf, if_neg (by exact hmethod)]
    show (if request.authentication.origin ≠ some (config.origin .participant) ∨
      keyedDigest sessionSecret "csrf" ≠ keyedDigest sessionSecret "csrf" then _ else _) = _
    rw [if_neg (by simp [horigin])]

theorem expiresAt_mem :
    (1786068300000, HostedSample.challenge.expiresAt) ∈ HostedSample.times := by
  simp [HostedSample.times, HostedSample.challenge]

theorem challengeState_eq : config.linking.challengeState login.challenge = .ok state := by
  have hissued : toISOString 1786068000000 = some HostedSample.challenge.issuedAt :=
    DeliverySample.toISOString_times (t := (1786068000000, _)) (.head _)
  have hexpires : toISOString 1786068300000 = some HostedSample.challenge.expiresAt :=
    DeliverySample.toISOString_times expiresAt_mem
  rw [WalletLinkService.challengeState]
  simp only [login, mapChallenge, presented, presentedChallenge, deriveHostedState,
    HostedStateBinding.material, hissued, hexpires]
  rfl

theorem state_short : (encodeUtf8 state).length ≤ 64 := by
  have hplain : ∀ c ∈ state.toList, Plain c := by
    rw [state, String.toList_ofList]
    exact fun c hc => plain_of_isUrlChar (Base64.isUrlChar_of_mem_encode c hc)
  have hlength := Base64.length_encode_le (Sha256.hmacBytes (encodeUtf8 config.service.bindingSecret)
    (encodeUtf8 (unitSeparator.toString.intercalate ["cbc.hosted-verusid-link.state.v1",
      "account_one", "participant", "link_verusid", HostedSample.challenge.audience,
      HostedSample.challenge.issuedAt, HostedSample.challenge.expiresAt])))
  rw [Sha256.length_hmacBytes] at hlength
  rw [Json.length_encodeUtf8_of_plain hplain, state, String.toList_ofList]
  omega

theorem size_token : (encodeUtf8 token).length ≤ maxTokenBytes := by
  refine laws.size_token ?_ (by decide) (by decide) (by decide)
  have htexts := texts.2.2.2.2
  simp only [List.forall_mem_cons] at htexts ⊢
  exact ⟨htexts.1, state_short, htexts.2⟩

/-- The client accepts the token. -/
theorem verified : config.hostedAuth.toHostedAuthClientConfig.getResult (some login.response)
    (WalletLinkService.resultInput login.challenge login.issuedAt login.state request.now) =
      .ok (.verified login.identityAddress login.displayName login.proofDigest login.tokenIssuedAt
        login.tokenExpiresAt) := by
  have hasks : AsksFor HostedSample.config challenge config.hostedAuth.toHostedAuthClientConfig
      (WalletLinkService.resultInput login.challenge login.issuedAt login.state request.now) :=
    ⟨rfl, rfl, HostedSample.challengeID_pattern, rfl, rfl, rfl⟩
  have hresult : config.hostedAuth.toHostedAuthClientConfig.getResult (some login.response)
      (WalletLinkService.resultInput login.challenge login.issuedAt login.state request.now) = _ :=
    getResult_issued laws hasks DeliverySample.address_pattern (by decide) (by decide) (by decide)
      rfl size_token
  rw [if_pos] at hresult
  · exact hresult
  · decide +kernel

theorem approved : login.Approved config request where
  admitted := admitted
  facade := rfl
  service := rfl
  network := rfl
  bindingSecret := texts.2.1.1
  pollingTokenSecret := texts.2.1.2
  pollingToken := by decide
  presented := rfl
  requestId := rfl
  issuedAt := rfl
  state := challengeState_eq
  nonce := by simp only [login, mapChallenge, presented, presentedChallenge]
  verified := verified
  chain := by
    rw [validateReadbackChain, if_neg (by simp [login])]
  identity := by
    rw [validateLinkedIdentity, if_neg (by simp [login])]
  acknowledged := rfl
  expiresAt := DeliverySample.toISOString_times expiresAt_mem

/-- The session after the request. -/
def kept : Db :=
  { db with
    authSessions := [{ session with
      idleExpiresAt := min (1786068000000 + 1800000) 1786090000000, lastSeenAt := 1786068000000 }] }

theorem find_commits : Commits (AuthRepository.findByTokenDigest .participant
    (keyedDigest sessionSecret "token")) db (some login.session) db := by
  unfold AuthRepository.findByTokenDigest
  rw [commits_get_bind, commits_pure]
  simp [db, session, account, login]

theorem touch_commits : Commits (AuthRepository.touch 3
    (min (1786068000000 + 1800000) 1786090000000) 1786068000000) db () kept := by
  unfold AuthRepository.touch AuthRepository.updateSessions
  rw [commits_get_bind, commits_lift_bind]
  refine ⟨kept.authSessions, Table.update_eq_ok_iff.2 ⟨?_, ?_⟩, modify_commits _ _⟩
  · simp only [db, List.forall_mem_singleton]
    intro _
    rw [guardSession, if_pos (by simp [account, session])]
    rfl
  · simp [kept, db, Table.set, session]

/-- The one challenge of a database is selected. -/
theorem select_commits {d : Db} {c : WalletChallenge} (hchallenges : d.walletChallenges = [c])
    (haccounts : d.authAccounts = [account]) (howner : c.authAccountId = some account.id)
    {predicate : WalletChallenge → AuthAccount → Bool} (hpredicate : predicate c account = true) :
    Commits (challengeSelect predicate) d (c, account) d := by
  unfold challengeSelect
  rw [commits_get_bind, commits_found]
  simp [hchallenges, haccounts, howner, hpredicate]

theorem pollingDigest_hex : isHex64 pollingDigest = true := isHex64_keyedDigest _ _

theorem poll_commits (context : CommandContext) :
    Commits (VerusLinkRepository.pollChallenge "account_one" pollingDigest 1786068000000 context)
      kept login.presented kept := by
  unfold VerusLinkRepository.pollChallenge requireOpaqueReference requireDigest
  rw [commits_require_bind, commits_require_bind]
  refine ⟨isOpaqueReference_account, pollingDigest_hex, commits_bind.2 ⟨(presented, account), kept,
    select_commits rfl rfl rfl ?_, ?_⟩⟩
  · simp [account, presented, presentedChallenge]
  · dsimp only
    rw [if_neg (by simp [presented, presentedChallenge]),
      if_neg (by simp [presented, presentedChallenge]), commits_pure]
    exact ⟨rfl, rfl⟩

theorem show_commits :
    Commits (VerusLinkRepository.challengeForPoll "account_one" pollingDigest) kept login.challenge
      kept := by
  unfold VerusLinkRepository.challengeForPoll requireOpaqueReference requireDigest
  rw [commits_require_bind, commits_require_bind]
  refine ⟨isOpaqueReference_account, pollingDigest_hex, commits_bind.2 ⟨(presented, account), kept,
    select_commits rfl rfl rfl ?_, ?_⟩⟩
  · simp [account, presented, presentedChallenge]
  · rw [commits_get_bind, commits_pure]
    exact ⟨rfl, rfl⟩

/-- What the poll proves. -/
def completion : CompleteWalletLinkChallengeInput :=
  WalletLinkService.completion login.challenge login.identityAddress login.proofDigest
    login.identity request.now

/-- The link of the account. -/
def link : VerusIdentityLink :=
  { id := 100, externalReference := "verus_link_101", authAccountId := 2, participantId := some 1
    trustDomain := .participant, identityAddress := identity.identityAddress
    displayNameSnapshot := completion.displayNameSnapshot, proofMethod := completion.proofMethod
    proofDigest := sha256 token, requestSignerIdentity := completion.requestSignerIdentity
    observedIdentityStatus := "active", observedIdentityBlockHeight := 1
    observedIdentityTxid := LinkSample.digest 'f', consentedScopes := presented.consentedScopes
    state := .active, linkedAt := 1786068000000, revalidatedAt := none, revalidationReason := none
    unlinkedAt := none, version := 1, updatedAt := 1786068000000 }

theorem link_checks : enforceChecks identityLinkChecks link = .ok () := by
  rw [enforceChecks_eq_ok_iff]
  simp only [identityLinkChecks, List.forall_mem_cons]
  exact ⟨digest_hex.1, isHex64_sha256 token, rfl, rfl, by simp⟩

theorem consumed_checks : enforceChecks LifecycleRepository.walletChallengeChecks
    (consumedRow completion presented) = .ok () := by
  rw [enforceChecks_eq_ok_iff]
  simp only [LifecycleRepository.walletChallengeChecks, List.forall_mem_cons]
  have hresponse : (consumedRow completion presented).responseDigest = some (sha256 token) := rfl
  refine ⟨rfl, by decide +kernel, by decide +kernel, isHex64_sha256 state, digest_hex.2, ?_, rfl,
    rfl, rfl, by simp⟩
  rw [hresponse, Option.all_some]
  exact isHex64_sha256 token

theorem activate_commits : Commits (activateLink 2 completion presented) kept
    ("verus_link_101", none) { kept with identityLinks := [link], nextId := 102 } := by
  unfold activateLink
  rw [commits_get_bind]
  have hnone : kept.identityLinks.find? (isLinkOf 2 completion.identityAddress) = none := rfl
  rw [hnone]
  refine commits_bind.2 ⟨100, { kept with nextId := 101 }, commits_newId.2 ⟨rfl, rfl⟩, ?_⟩
  refine commits_bind.2 ⟨101, { kept with nextId := 102 }, commits_newId.2 ⟨rfl, rfl⟩, ?_⟩
  refine commits_bind.2 ⟨(), _, ?_, commits_pure.2 ⟨rfl, rfl⟩⟩
  unfold insertLink requireUnique
  refine commits_bind.2 ⟨some 1, { kept with nextId := 102 }, ?_, ?_⟩
  · unfold linkParticipant VerusLinkRepository.participantId
    rw [commits_get_bind, if_pos (by decide), commits_bind]
    refine ⟨1, _, ?_, commits_pure.2 ⟨rfl, rfl⟩⟩
    rw [commits_get_bind, commits_found_bind]
    exact ⟨{ id := 1, externalReference := "participant_one" }, by decide,
      commits_pure.2 ⟨rfl, rfl⟩⟩
  · simp only [commits_lift_bind, commits_get_bind, commits_require_bind, commits_modify]
    exact ⟨(), link_checks, rfl, rfl, rfl, rfl⟩

theorem exists_appendAudit (context : CommandContext) (command : String) (target : AuditTarget)
    (d : Db) : ∃ hash d', Commits (appendAudit context none command target) d hash d' ∧
      d'.walletChallenges = d.walletChallenges ∧ d'.authAccounts = d.authAccounts ∧
        d'.identityLinks = d.identityLinks :=
  ⟨_, _, commits_appendAudit.2 ⟨rfl, rfl⟩, rfl, rfl, rfl⟩

theorem consume_commits (context : CommandContext) : ∃ d,
    Commits (VerusLinkRepository.consumeChallenge 2 completion presented context) kept
      (.completed login.link) d ∧ d.walletChallenges = [consumedRow completion presented] ∧
        d.authAccounts = [account] ∧ d.identityLinks = [link] := by
  have hupdate : Commits (updateChallenge presented.id (consumedRow completion))
      { kept with identityLinks := [link], nextId := 102 } ()
      { kept with
        identityLinks := [link], nextId := 102
        walletChallenges := [consumedRow completion presented] } := by
    unfold updateChallenge
    rw [commits_get_bind, commits_lift_bind]
    refine ⟨_, Table.update_eq_ok_iff.2 ⟨?_, ?_⟩, modify_commits _ _⟩
    · intro r hr _
      rw [List.mem_singleton.1 hr]
      exact consumed_checks
    · simp [kept, db, Table.set]
  obtain ⟨hash, d, haudit, hchallenges, haccounts, hlinks⟩ := exists_appendAudit context
    "consumeWalletLinkChallenge" (challengeTarget presented.externalReference (some .presented)
      .consumed)
    { kept with
      identityLinks := [link], nextId := 102
      walletChallenges := [consumedRow completion presented] }
  obtain ⟨hash', d', haudit', hchallenges', haccounts', hlinks'⟩ := exists_appendAudit context
    "createVerusIdentityLink" (linkTarget "verus_link_101" none .active) d
  refine ⟨d', ?_, hchallenges'.trans hchallenges, haccounts'.trans haccounts,
    hlinks'.trans hlinks⟩
  unfold VerusLinkRepository.consumeChallenge
  refine commits_bind.2 ⟨_, _, activate_commits, commits_bind.2 ⟨(), _, hupdate, ?_⟩⟩
  exact commits_bind.2 ⟨hash, d, haudit, commits_bind.2 ⟨hash', d', haudit',
    commits_pure.2 ⟨rfl, rfl⟩⟩⟩

theorem complete_commits (context : CommandContext) : ∃ d,
    Commits (VerusLinkRepository.completeChallenge completion context) kept (.completed login.link)
      d ∧ d.walletChallenges = [consumedRow completion presented] ∧ d.authAccounts = [account] ∧
        d.identityLinks = [link] := by
  have hdigest : isHex64 (sha256 token) = true := isHex64_sha256 token
  obtain ⟨d, hconsume, hrows⟩ := consume_commits context
  refine ⟨d, ?_, hrows⟩
  unfold VerusLinkRepository.completeChallenge requireDigest
  simp only [commits_require_bind]
  refine ⟨hdigest, hdigest, digest_hex.1, commits_bind.2 ⟨(presented, account), kept,
    select_commits rfl rfl rfl ?_, ?_⟩⟩
  · exact decide_eq_true rfl
  · dsimp only
    rw [if_neg (by simp [presented, presentedChallenge]), commits_require_bind,
      if_neg (by decide)]
    exact ⟨rfl, hconsume⟩

/-- The challenge has been consumed. -/
theorem repoll_commits (context : CommandContext) {d : Db}
    (hchallenges : d.walletChallenges = [consumedRow completion presented])
    (haccounts : d.authAccounts = [account]) (hlinks : d.identityLinks = [link]) :
    Commits (VerusLinkRepository.pollChallenge "account_one" pollingDigest 1786068000000 context)
      d login.linked d := by
  unfold VerusLinkRepository.pollChallenge requireOpaqueReference requireDigest
  rw [commits_require_bind, commits_require_bind]
  refine ⟨isOpaqueReference_account, pollingDigest_hex, commits_bind.2
    ⟨(consumedRow completion presented, account), d,
      select_commits hchallenges haccounts rfl ?_, ?_⟩⟩
  · simp [account, consumedRow, presented, presentedChallenge]
  · dsimp only
    rw [if_neg (by simp [consumedRow]), if_pos (by decide), commits_bind]
    refine ⟨"verus_link_101", d, ?_, commits_pure.2 ⟨rfl, rfl⟩⟩
    unfold linkForAccountAndIdentity
    rw [commits_get_bind, commits_found_bind, hlinks]
    have hlink : isLinkOf account.id identity.identityAddress link = true :=
      Bool.and_eq_true_iff.2 ⟨decide_eq_true rfl, decide_eq_true rfl⟩
    exact ⟨link, List.find?_cons_of_pos hlink, commits_pure.2 ⟨rfl, rfl⟩⟩

/-- The answers of the host. -/
def answer : (call : LinkingCall) → call.Answer
  | .auth call => AuthSample.Host.answer ⟨"", 0, "", 0⟩ call
  | .hosted (.result _) => some login.response
  | .hosted _ => some login.acknowledged
  | .readback _ => .ok (login.info, login.identity)
  | .randomUUID => ""
  | .link (.createChallenge _ _) => login.challenge
  | .link (.challengeForPoll _ _) => login.challenge
  | .link (.completeChallenge _ _) => .completed login.link
  | .link (.pollChallenge _ _ _ _) => login.linked
  | .link (.cancelChallenge _ _ _ _) => ()
  | .link (.unlink _ _ _ _) => ()
  | .link (.requireRevalidation _ _ _ _) => (0 : ℕ)

theorem start_initial : Threads.State.Initial start := ⟨fun _ => rfl, rfl⟩

theorem start_keyed : KeyedLinks start.store where
  challenges := List.nodup_singleton _
  requests := List.nodup_singleton _
  ids := List.nodup_nil
  references := List.nodup_nil
  owners := List.nodup_nil

/-- The login links the identity. -/
theorem exists_linked : ∃ s : LinkingSystem ℕ,
    Reach (LinkingSystem.step config) (fun _ _ => True) start s ∧
      s.store.identityLinks = [link] ∧ s.log.length = 6 ∧
      ∀ e ∈ s.log, e.request = .poll request := by
  obtain ⟨d, hcomplete, hchallenges, haccounts, hlinks⟩ := complete_commits
    (linkContextFor login.principal request.correlationId login.proofDigest "wallet_link_verified")
  have hanswered : Answered (LinkingCall.exec config.auth) answer
      (login.sessionTrace config request.now ++
        login.linkTrace config request.now request.correlationId) start.store d :=
    .cons_store rfl find_commits (.cons_store rfl touch_commits (.cons_store rfl (poll_commits _)
      (.cons_store rfl show_commits (.cons_host rfl rfl (.cons_host rfl rfl
        (.cons_store rfl hcomplete (.cons_host rfl rfl
          (.cons_store rfl (repoll_commits _ hchallenges haccounts hlinks) (.nil _)))))))))
  have hruns : ((LinkingRequest.poll request).program config).Runs
      (login.sessionTrace config request.now ++
        login.linkTrace config request.now request.correlationId) (.ok _) :=
    approved.poll_runs
  obtain ⟨s, hreach, hs, hlog⟩ := exists_reach_linking (s := start) (w := 0) hruns rfl hanswered
  have hrequested := requested_of_reach (fun _ _ hact => hact) start_initial hreach
  refine ⟨s, hreach.mono fun _ _ _ => trivial, by rw [hs, hlinks], ?_, hrequested.log⟩
  have hlength := congrArg List.length hlog
  rw [List.length_map] at hlength
  exact hlength.trans rfl

end LinkingSample

end ChecksAndBalances
