import ChecksAndBalances.Auth.Enumeration
import ChecksAndBalances.Lib.Calls
import ChecksAndBalances.Linking.Facade

/-!
# What the requests of linking call

Any number of requests run over one database, together with the attempts that other services count
and the accounts that are opened.  The contract says what a request has seen before each store call;
`LinkingProgram.honours` says it of every request, and the properties of runs are derived from it.
-/

namespace ChecksAndBalances

open Lib Threads

/-! ## Requests -/

/-- What can happen to links, to accounts and to the counted attempts. -/
inductive LinkingRequest where
  | begin (request : BeginRequest)
  | poll (request : PollRequest)
  | cancel (request : ReferenceRequest)
  | unlink (request : ReferenceRequest)
  /-- `requireRevalidation`, which no route calls. -/
  | requireRevalidation (identityAddress : String) (reason : RevalidationReason) (observedAt : ℤ)
      (context : CommandContext)
  | createAccount (input : CreateAuthAccountInput)
  /-- An attempt that another service counts. -/
  | increment (input : IncrementInput)

namespace LinkingRequest

/-- The type of the result. -/
def Value : LinkingRequest → Type
  | begin _ => WalletLinkPresentation
  | poll _ => PollResponse
  | cancel _ => Unit
  | unlink _ => Unit
  | requireRevalidation _ _ _ _ => ℕ
  | createAccount _ => Unit
  | increment _ => ℕ

/-- What the request returns or throws. -/
abbrev Result (request : LinkingRequest) : Type := Except LinkingError request.Value

/-- The program of the request. -/
def program [LinkingHost] (config : LinkingConfig) :
    (request : LinkingRequest) → Program LinkingCall LinkingCall.Answer request.Result
  | begin request => (config.begin request).run
  | poll request => (config.poll request).run
  | cancel request => (config.cancel request).run
  | unlink request => (config.unlink request).run
  | requireRevalidation identityAddress reason observedAt context =>
    (LinkingCall.link (.requireRevalidation identityAddress reason observedAt context)).request.run
  | createAccount input => (LinkingCall.auth (.account (.createAccount input))).request.run
  | increment input => (LinkingCall.auth (.email (.store (.increment input)))).request.run

/-- The authentication and the time of a request of the facade. -/
def authentication : LinkingRequest → Option (RequestAuthentication × ℤ)
  | begin request => some (request.authentication, request.now)
  | poll request => some (request.authentication, request.now)
  | cancel request => some (request.authentication, request.now)
  | unlink request => some (request.authentication, request.now)
  | _ => none

end LinkingRequest

/-! ## What a request has seen -/

/-- The lookup of a session by its token. -/
def sessionLookup (config : LinkingConfig) (trustDomain : TrustDomain) (token : String) :
    LinkingCall :=
  .auth (.session (.findByTokenDigest trustDomain
    (keyedDigest (config.auth.sessions trustDomain).sessionSecret token)))

/-- The request carries the cookie of one trust domain, with the token of a session that is live. -/
structure Authenticated [LinkingHost] (config : LinkingConfig)
    (authentication : RequestAuthentication) (now : ℤ) (past : List LinkingItem)
    (session : SessionRecord) : Prop where
  found : ∃ trustDomain token, config.candidates authentication = [(trustDomain, token)] ∧
    ⟨sessionLookup config trustDomain token, some session⟩ ∈ past ∧
    session.audience = (config.auth.sessions trustDomain).audience
  live : session.revokedAt = none ∧ now < session.idleExpiresAt ∧ now < session.absoluteExpiresAt
  csrf : config.requireCsrf session authentication = .ok ()

/-- A cookie that is read has a value. -/
theorem nonEmpty_of_candidate {config : LinkingConfig} {authentication : RequestAuthentication}
    {domain : TrustDomain} {token : String} (h : (domain, token) ∈ config.candidates authentication) :
    AuthServices.nonEmpty (some token) = some token := by
  unfold LinkingConfig.candidates at h
  obtain ⟨d, -, h⟩ := List.mem_filterMap.1 h
  obtain ⟨value, hvalue, heq⟩ := Option.map_eq_some_iff.1 h
  obtain rfl : value = token := (Prod.mk.inj heq).2
  unfold cookieValue parseCookies at hvalue
  obtain ⟨cookie, hcookie, rfl⟩ := Option.map_eq_some_iff.1 hvalue
  obtain ⟨part, -, hpart⟩ := List.mem_filterMap.1 (List.mem_of_find?_eq_some hcookie)
  unfold cookieOf at hpart
  simp only at hpart
  split_ifs at hpart with hempty
  rw [not_or] at hempty
  rw [← Option.some.inj hpart, AuthServices.nonEmpty, Option.filter_some, if_pos]
  exact bne_iff_ne.2 hempty.2

theorem Authenticated.mono [LinkingHost] {config : LinkingConfig}
    {authentication : RequestAuthentication} {now : ℤ} {past past' : List LinkingItem}
    {session : SessionRecord} (h : Authenticated config authentication now past session)
    (hpast : past ⊆ past') : Authenticated config authentication now past' session := by
  obtain ⟨trustDomain, token, hcandidates, hmem, haudience⟩ := h.found
  exact ⟨⟨trustDomain, token, hcandidates, hpast hmem, haudience⟩, h.live, h.csrf⟩

/-- What a poll has seen of a login. -/
structure LoginProof where
  session : SessionRecord
  pollingToken : String
  challenge : WalletLinkChallengeRecord
  issuedAt : ℤ
  state : String
  response : HostedHttpResponse
  displayName : Option String
  tokenIssuedAt : ℤ
  tokenExpiresAt : ℤ
  info : VerusInfo
  identity : LinkedIdentityReadback

namespace LoginProof

variable [LinkingHost]

/-- The request polls for a challenge of its account; the hosted service has verified a login under the
state of the challenge, and the node shows its identity active on the test network. -/
structure Holds (proof : LoginProof) (config : LinkingConfig) (request : PollRequest)
    (past : List LinkingItem) (input : CompleteWalletLinkChallengeInput) : Prop where
  authenticated : Authenticated config request.authentication request.now past proof.session
  token : request.pollingToken = some proof.pollingToken
  read : ⟨.link (.challengeForPoll proof.session.accountReference
    (keyedDigest config.service.pollingTokenSecret proof.pollingToken)), proof.challenge⟩ ∈ past
  issued : proof.challenge.issuedAt = some proof.issuedAt
  state : config.linking.challengeState proof.challenge = .ok proof.state
  nonce : sha256 proof.state = proof.challenge.nonceHash
  fetched : ⟨.hosted (.result input.requestId), some proof.response⟩ ∈ past
  verified : config.hostedAuth.toHostedAuthClientConfig.getResult (some proof.response)
    (WalletLinkService.resultInput proof.challenge proof.issuedAt proof.state request.now) =
      .ok (.verified input.identityAddress proof.displayName input.proofDigest proof.tokenIssuedAt
        proof.tokenExpiresAt)
  readback : ⟨.readback input.identityAddress, .ok (proof.info, proof.identity)⟩ ∈ past
  chain : validateReadbackChain proof.info = .ok ()
  active : validateLinkedIdentity proof.identity input.identityAddress = .ok ()
  completion : input = WalletLinkService.completion proof.challenge input.identityAddress
    input.proofDigest proof.identity request.now

theorem Holds.mono {proof : LoginProof} {config : LinkingConfig} {request : PollRequest}
    {past past' : List LinkingItem} {input : CompleteWalletLinkChallengeInput}
    (h : proof.Holds config request past input) (hpast : past ⊆ past') :
    proof.Holds config request past' input :=
  { h with
    authenticated := h.authenticated.mono hpast
    read := hpast h.read
    fetched := hpast h.fetched
    readback := hpast h.readback }

end LoginProof

/-- The attempt that a `begin` counts. -/
def LinkingConfig.attempt (config : LinkingConfig) (session : SessionRecord) (now : ℤ) :
    IncrementInput :=
  config.auth.email.attempt "wallet_link_account" session.accountReference now requestWindowMs

namespace LinkingCall

/-- The attempt that the call counts. -/
def counts : LinkingCall → Option IncrementInput
  | auth (.email (.store (.increment input))) => some input
  | _ => none

/-- The challenge that the call creates. -/
def creates : LinkingCall → Option CreateWalletLinkChallengeInput
  | link (.createChallenge input _) => some input
  | _ => none

/-- The call creates no challenge and counts no attempt. -/
def Plain (call : LinkingCall) : Prop := call.counts = none ∧ call.creates = none

/-- A question to the hosted service, to the node or to the host. -/
def Asks (call : LinkingCall) : Prop :=
  (∃ request, call = .hosted request) ∨ (∃ identityAddress, call = .readback identityAddress) ∨
    call = .randomUUID ∨ call = .auth (.email (.host .generateOpaqueToken))

/-- A call of the session service. -/
def OfSession (call : LinkingCall) : Prop := ∃ request, call = .auth (.session request)

theorem OfSession.plain {call : LinkingCall} (h : call.OfSession) : call.Plain := by
  obtain ⟨_, rfl⟩ := h
  exact ⟨rfl, rfl⟩

theorem Asks.plain {call : LinkingCall} (h : call.Asks) : call.Plain := by
  rcases h with ⟨_, rfl⟩ | ⟨_, rfl⟩ | rfl | rfl
  · exact ⟨rfl, rfl⟩
  · exact ⟨rfl, rfl⟩
  · exact ⟨rfl, rfl⟩
  · exact ⟨rfl, rfl⟩

end LinkingCall

section Contract

variable [LinkingHost] (config : LinkingConfig)

/-- The account of a call is that of the session of its request. -/
def AuthenticatedFor (request : LinkingRequest) (past : List LinkingItem) (reference : String) :
    Prop :=
  ∃ authentication now session, request.authentication = some (authentication, now) ∧
    Authenticated config authentication now past session ∧ reference = session.accountReference

theorem Authenticated.authenticatedFor {request : LinkingRequest} {past : List LinkingItem}
    {authentication : RequestAuthentication} {now : ℤ} {session : SessionRecord}
    (h : Authenticated config authentication now past session)
    (hrequest : request.authentication = some (authentication, now)) :
    AuthenticatedFor config request past session.accountReference :=
  ⟨authentication, now, session, hrequest, h, rfl⟩

/-- What a `begin` has seen before it creates a challenge. -/
def Begins (request : LinkingRequest) (past : List LinkingItem)
    (input : CreateWalletLinkChallengeInput) : Prop :=
  ∃ begun session count, request = .begin begun ∧ begun.consented = true ∧
    Authenticated config begun.authentication begun.now past session ∧
    input.accountReference = session.accountReference ∧ input.trustDomain = session.trustDomain ∧
    ⟨.auth (.email (.store (.increment (config.attempt session begun.now)))), count⟩ ∈ past ∧
    ¬ requestLimit < count ∧ ∀ item ∈ past, item.1.creates = none

/-- What a request has seen before it counts an attempt. -/
def Counts (request : LinkingRequest) (past : List LinkingItem) (input : IncrementInput) : Prop :=
  request = .increment input ∨ (∃ begun session, request = .begin begun ∧
    Authenticated config begun.authentication begun.now past session ∧
    input = config.attempt session begun.now ∧ ∀ item ∈ past, item.1.counts = none)

/-- The calls that a request makes. -/
def LinkingAllows (request : LinkingRequest) (past : List LinkingItem) : LinkingCall → Prop
  | .auth (.session _) => request.authentication.isSome = true
  | .auth (.email (.store (.increment input))) => Counts config request past input
  | .auth (.email (.host .generateOpaqueToken)) => True
  | .auth (.account (.createAccount input)) => request = .createAccount input
  | .auth _ => False
  | .link (.createChallenge input _) => Begins config request past input
  | .link (.challengeForPoll reference _) => AuthenticatedFor config request past reference
  | .link (.completeChallenge input _) =>
    ∃ polled proof, request = .poll polled ∧ LoginProof.Holds proof config polled past input
  | .link (.pollChallenge reference _ _ _) => AuthenticatedFor config request past reference
  | .link (.cancelChallenge reference _ _ _) => AuthenticatedFor config request past reference
  | .link (.unlink reference _ _ _) => AuthenticatedFor config request past reference
  | .link (.requireRevalidation identityAddress reason observedAt context) =>
    request = .requireRevalidation identityAddress reason observedAt context
  | .hosted _ => True
  | .readback _ => True
  | .randomUUID => True

/-- The contract of the requests: nothing is said of what comes back from outside. -/
def linkingContract : Contract LinkingRequest.Result LinkingCall.Answer where
  allows := LinkingAllows config
  admits _ _ := True
  returns _ _ _ := True

end Contract

/-! ## The requests honour the contract -/

namespace LinkingProgram

variable [LinkingHost] {config : LinkingConfig} {request : LinkingRequest}
  {past past' : List LinkingItem} {ε α β : Type} {R : List LinkingItem → α → Prop}
  {S : List LinkingItem → β → Prop}

/-- The part of a request makes only calls that the contract allows, and what it returns meets `R` with
the past that it leaves. -/
abbrev Returns (config : LinkingConfig) (request : LinkingRequest) (past : List LinkingItem)
    (p : LinkingProgram ε α) (R : List LinkingItem → α → Prop) : Prop :=
  Follows ((linkingContract config).protocol request) past p.run fun past r =>
    ∀ a, r = .ok a → R past a

namespace Returns

theorem throw {e : ε} : Returns config request past (throw e : LinkingProgram ε α) R := by
  intro a h
  cases h

theorem pure {a : α} (h : R past a) :
    Returns config request past (Pure.pure a : LinkingProgram ε α) R := by
  intro b hb
  obtain rfl := Except.ok.inj hb
  exact h

theorem bind {p : LinkingProgram ε α} {f : α → LinkingProgram ε β}
    (h : Returns config request past p R)
    (hf : ∀ past' a, R past' a → Returns config request past' (f a) S) :
    Returns config request past (p >>= f) S := by
  refine Follows.bind (h.mono ?_)
  rintro past' (e | a) hr
  · exact throw
  · exact hf past' a (hr a rfl)

theorem call {call : LinkingCall} {f : call.Answer → LinkingProgram ε β}
    (hallow : LinkingAllows config request past call)
    (h : ∀ answer, Returns config request (⟨call, answer⟩ :: past) (f answer) S) :
    Returns config request past (call.request >>= f) S :=
  Follows.lift_bind (Follows.request hallow fun answer _ => h answer)

/-- A last call. -/
theorem last {call : LinkingCall} {R : List LinkingItem → call.Answer → Prop}
    (hallow : LinkingAllows config request past call)
    (h : ∀ answer, R (⟨call, answer⟩ :: past) answer) :
    Returns config request past (call.request : LinkingProgram ε call.Answer) R :=
  Follows.bind (Follows.request hallow fun answer _ => pure (h answer))

theorem throwIf {p : Prop} [Decidable p] {e : ε} {f : Unit → LinkingProgram ε β}
    (h : ¬ p → Returns config request past (f ()) S) :
    Returns config request past (Program.throwIf p e >>= f) S :=
  Follows.throwIf_bind (fun _ _ hthrown => by cases hthrown) h

theorem ofExcept {x : Except ε α} {f : α → LinkingProgram ε β}
    (h : ∀ a, x = .ok a → Returns config request past (f a) S) :
    Returns config request past (Program.ofExcept x >>= f) S :=
  Follows.ofExcept_bind h fun _ _ _ hthrown => by cases hthrown

/-- A part that makes only calls of one kind. -/
theorem only {kind : LinkingCall → Prop} {p : LinkingProgram ε α} (hp : p.run.Only kind)
    (hallow : ∀ past c, kind c → LinkingAllows config request past c) :
    Returns config request past p fun past' _ => Grown kind past past' :=
  (follows_of_only (K := linkingContract config) hp fun past' _ c hc => hallow past' c hc).mono
    fun _ _ hgrown _ _ => hgrown

/-- A part that throws the errors of the hosted client. -/
theorem ofHosted {p : LinkingProgram HostedAuthErrorCode α} (h : Returns config request past p R) :
    Returns config request past (LinkingProgram.ofHosted p) R := by
  refine Follows.bind (h.mono ?_)
  rintro past' (e | a) hr
  · exact throw
  · exact pure (hr a rfl)

/-- A method of the session service. -/
theorem ofAuth {p : ServiceProgram α}
    (h : Follows (((linkingContract config).protocol request).comap LinkingCall.auth) past p.run
      fun past r => ∀ a, r = .ok a → R past a) :
    Returns config request past (LinkingProgram.ofAuth p) R := by
  refine Follows.bind ((Follows.embed h).mono ?_)
  rintro past' (e | a) hr
  · exact throw
  · exact pure (hr a rfl)

end Returns

/-! ### Authentication -/

/-- What the session service has seen of the session that it returns. -/
structure SessionSeen (config : LinkingConfig) (past : List LinkingItem)
    (input : SessionService.AuthenticateInput) (token : String) (past' : List LinkingItem)
    (found : SessionRecord) : Prop where
  grown : Grown LinkingCall.OfSession past past'
  lookup : ⟨sessionLookup config input.trustDomain token, some found⟩ ∈ past'
  audience : found.audience = (config.auth.sessions input.trustDomain).audience
  live : found.revokedAt = none ∧ input.now < found.idleExpiresAt ∧
    input.now < found.absoluteExpiresAt

theorem sessionAuthenticate_follows (input : SessionService.AuthenticateInput) {token : String}
    (htoken : AuthServices.nonEmpty input.token = some token)
    (hsession : request.authentication.isSome = true) :
    Follows (((linkingContract config).protocol request).comap LinkingCall.auth) past
      (SessionService.authenticate config.auth input).run fun past' r => ∀ session, r = .ok session →
        ∃ found, SessionSeen config past input token past' found ∧ session =
          { found with idleExpiresAt := SessionService.nextIdle config.auth input found } := by
  have fails : ∀ {past' : List LinkingItem} {e : AuthErrorCode} (session : SessionRecord),
      (Except.error e : Except AuthErrorCode SessionRecord) = .ok session →
        ∃ found, SessionSeen config past input token past' found ∧ session =
          { found with idleExpiresAt := SessionService.nextIdle config.auth input found } := by
    intro _ _ _ h
    cases h
  unfold SessionService.authenticate
  rw [htoken]
  refine Follows.lift_bind (Follows.request hsession fun stored _ => ?_)
  cases stored with
  | none => exact fails
  | some found =>
    refine Follows.throwIf_bind (fun _ => fails) fun haudience => ?_
    refine Follows.throwIf_bind (fun _ => fails) fun hrevoked => ?_
    split_ifs with hexpired
    · exact Follows.lift_bind (Follows.request hsession fun _ _ => fails)
    · refine Follows.lift_bind (Follows.request hsession fun _ _ => ?_)
      rintro session hreturned
      rw [not_or, not_le, not_le] at hexpired
      refine ⟨found, ⟨⟨[_, _], rfl, ?_⟩, ?_, not_not.1 haudience, ?_, hexpired⟩, ?_⟩
      · simp [LinkingCall.OfSession]
      · exact List.mem_cons_of_mem _ List.mem_cons_self
      · simpa using hrevoked
      · exact (Except.ok.inj hreturned).symm

/-- A request that is authenticated goes on for the account of its session. -/
theorem authenticate_returns {authentication : RequestAuthentication} {now : ℤ}
    (hrequest : request.authentication = some (authentication, now)) :
    Returns config request past (config.authenticate authentication now) fun past' principal =>
      ∃ session, Grown LinkingCall.OfSession past past' ∧
        Authenticated config authentication now past' session ∧
        principal = LinkingConfig.principalFromSession session := by
  unfold LinkingConfig.authenticate
  split
  · next trustDomain token hcandidates =>
    have hsession : request.authentication.isSome = true := by
      rw [hrequest]
      rfl
    have htoken := nonEmpty_of_candidate (hcandidates ▸ List.mem_cons_self)
    refine Returns.bind (Returns.ofAuth (sessionAuthenticate_follows _ htoken hsession)) ?_
    rintro past' _ ⟨found, hseen, rfl⟩
    refine Returns.ofExcept fun _ hcsrf => Returns.pure ⟨found, hseen.grown, ?_, rfl⟩
    exact ⟨⟨trustDomain, token, hcandidates, hseen.lookup, hseen.audience⟩, hseen.live, hcsrf⟩
  · exact Returns.throw

/-! ### The hosted service -/

omit [LinkingHost] in
theorem fetch_only (request : HostedHttpRequest) :
    (HostedAuthHttpConfig.fetch request).run.Only LinkingCall.Asks :=
  Program.Only.lift_bind (Program.Only.request (Or.inl ⟨request, rfl⟩)) fun _ =>
    Program.Only.ofExcept

theorem createChallenge_only (hosted : HostedAuthHttpConfig) (input : CreateHostedChallengeInput) :
    (hosted.createChallenge input).run.Only LinkingCall.Asks := by
  have hpreflight : hosted.preflight.run.Only LinkingCall.Asks := by
    refine Program.Only.except_bind (fetch_only _) fun _ => ?_
    refine Program.Only.except_bind Program.Only.throwIf fun _ => ?_
    exact Program.Only.except_bind Program.Only.ofExcept fun _ => Program.Only.throwIf
  refine Program.Only.except_bind hpreflight fun _ => ?_
  refine Program.Only.except_bind Program.Only.throwIf fun _ => ?_
  refine Program.Only.except_bind Program.Only.ofExcept fun _ => ?_
  refine Program.Only.except_bind (fetch_only _) fun _ => ?_
  refine Program.Only.except_bind Program.Only.throwIf fun _ => ?_
  refine Program.Only.except_bind Program.Only.ofExcept fun body => ?_
  split
  · exact Program.Only.ofExcept
  · trivial

theorem acknowledgeHostedResult_only (challengeId proofDigest : String) (attempts : ℕ) :
    (WalletLinkService.acknowledgeHostedResult challengeId proofDigest attempts).Only
      LinkingCall.Asks := by
  induction attempts with
  | zero => trivial
  | succ attempts ih =>
    have hack : (HostedAuthHttpConfig.acknowledgeResult challengeId proofDigest).run.Only
        LinkingCall.Asks := by
      refine Program.Only.except_bind Program.Only.throwIf fun _ => ?_
      exact Program.Only.except_bind (fetch_only _) fun _ => Program.Only.throwIf
    apply Program.Only.bind hack
    rintro (e | a)
    · exact ih
    · trivial

theorem asks_allowed (past : List LinkingItem) (call : LinkingCall) (h : call.Asks) :
    LinkingAllows config request past call := by
  rcases h with ⟨_, rfl⟩ | ⟨_, rfl⟩ | rfl | rfl
  · trivial
  · trivial
  · trivial
  · trivial

theorem acknowledge_returns (challengeId proofDigest : String) :
    Returns config request past
      (ExceptT.lift (WalletLinkService.acknowledgeHostedResult challengeId proofDigest 3) :
        LinkingProgram LinkingError Unit) fun past' _ => Grown LinkingCall.Asks past past' :=
  Returns.only (Program.Only.bind (acknowledgeHostedResult_only _ _ _) fun _ => Program.Only.pure)
    asks_allowed

/-- A result of the hosted client comes from a response of the service. -/
theorem getResult_returns (hosted : HostedAuthHttpConfig) (input : GetHostedResultInput) :
    Returns config request past (hosted.getResult input) fun past' result =>
      Grown LinkingCall.Asks past past' ∧ ∃ response,
        ⟨.hosted (.result input.challengeId), some response⟩ ∈ past' ∧
          hosted.toHostedAuthClientConfig.getResult (some response) input = .ok result := by
  refine Returns.throwIf fun hpattern => Returns.call trivial fun response => ?_
  have hgrown : Grown LinkingCall.Asks past (⟨.hosted (.result input.challengeId), response⟩ :: past) :=
    ⟨[_], rfl, by simp [LinkingCall.Asks]⟩
  intro result hresult
  cases response with
  | none =>
    have hnone : hosted.toHostedAuthClientConfig.getResult none input = .error .unavailable := by
      rw [HostedAuthClientConfig.getResult, if_neg hpattern]
    cases hnone.symm.trans hresult
  | some response => exact ⟨hgrown, response, List.mem_cons_self, hresult⟩

/-! ### The routes -/

theorem requireEnabled_returns (service : WalletLinkService) :
    Returns config request past service.requireEnabled fun past' _ => past' = past := by
  refine Returns.throwIf fun _ => Returns.throwIf fun _ => ?_
  unfold Program.throwIf
  split_ifs
  · exact Returns.throw
  · exact Returns.pure rfl

theorem requireFacade_returns :
    Returns config request past config.requireFacade fun past' _ => past' = past := by
  unfold LinkingConfig.requireFacade Program.throwIf
  split_ifs
  · exact Returns.throw
  · exact Returns.pure rfl

theorem requireWithinLimit_returns {services : AuthServices} {bucket subject : String} {now window : ℤ}
    {limit : ℕ} (hallow : Counts config request past (services.attempt bucket subject now window)) :
    Returns config request past
      (LinkingProgram.ofEmail (services.requireWithinLimit bucket subject now window limit))
      fun past' _ => ∃ count, past' = ⟨.auth (.email (.store (.increment
        (services.attempt bucket subject now window)))), count⟩ :: past ∧ ¬ limit < count := by
  refine Returns.ofAuth (Follows.embed ?_)
  unfold AuthServices.requireWithinLimit
  refine Follows.lift_bind (Follows.request hallow fun count _ => ?_)
  by_cases hcount : limit < count
  · rw [if_pos hcount]
    exact fun _ hthrown => by cases hthrown
  · rw [if_neg hcount]
    exact fun _ _ => ⟨count, rfl, hcount⟩

theorem generateOpaqueToken_returns :
    Returns config request past (LinkingProgram.ofAuth generateOpaqueToken) fun past' _ =>
      Grown LinkingCall.Asks past past' := by
  refine Returns.ofAuth (Follows.bind (Follows.request trivial fun token _ => ?_))
  rintro _ -
  exact ⟨[_], rfl, by simp [LinkingCall.Asks]⟩

theorem begin_honours (begun : BeginRequest) :
    Returns config (.begin begun) [] (config.begin begun) fun _ _ => True := by
  refine Returns.bind requireFacade_returns fun _ _ hpast => ?_
  subst hpast
  refine Returns.throwIf fun hconsented => ?_
  refine Returns.bind (authenticate_returns rfl) ?_
  rintro past principal ⟨session, hgrown, hsession, rfl⟩
  have hplain : ∀ item ∈ past, item.1.Plain :=
    hgrown.forall_mem (by simp) fun _ hitem => hitem.plain
  refine Returns.bind (requireEnabled_returns _) fun seen _ hpast => ?_
  subst hpast
  have hcounts : Counts config (.begin begun) seen (config.attempt session begun.now) :=
    Or.inr ⟨begun, session, rfl, hsession, rfl, fun item hitem => (hplain item hitem).1⟩
  refine Returns.bind (requireWithinLimit_returns hcounts) ?_
  rintro _ _ ⟨count, rfl, hcount⟩
  refine Returns.ofExcept fun scopes _ => Returns.ofExcept fun state _ => ?_
  refine Returns.bind (Returns.ofHosted (Returns.only (createChallenge_only _ _) asks_allowed)) ?_
  intro past' hosted hgrown'
  refine Returns.throwIf fun _ => ?_
  refine Returns.bind generateOpaqueToken_returns fun past'' token hgrown'' => ?_
  have hpast : _ ⊆ past'' := List.Subset.trans hgrown'.subset hgrown''.subset
  have hcreates : ∀ item ∈ past'', item.1.creates = none := by
    refine hgrown''.forall_mem (hgrown'.forall_mem ?_ fun _ h => h.plain.2) fun _ h => h.plain.2
    rintro item (_ | ⟨_, hitem⟩)
    · rfl
    · exact (hplain item hitem).2
  refine Returns.call trivial fun uuid => Returns.call ?_ fun _ => ?_
  · refine ⟨begun, session, count, rfl, by simpa using hconsented, ?_, rfl, rfl, ?_, hcount, ?_⟩
    · exact hsession.mono fun item hitem => List.mem_cons_of_mem _ (hpast (List.mem_cons_of_mem _ hitem))
    · exact List.mem_cons_of_mem _ (hpast List.mem_cons_self)
    · rintro item (_ | ⟨_, hitem⟩)
      · rfl
      · exact hcreates item hitem
  · split
    · exact Returns.throw
    · exact Returns.pure trivial

/-- The part of a poll after the hosted service has verified a login. -/
theorem link_returns {polled : PollRequest} {input : PollInput} {challenge : WalletLinkChallengeRecord}
    {identityAddress proofDigest : String} {proof : VerusInfo → LinkedIdentityReadback → LoginProof}
    (h : ∀ past' info identity, past ⊆ past' →
      ⟨.readback identityAddress, .ok (info, identity)⟩ ∈ past' →
      validateReadbackChain info = .ok () → validateLinkedIdentity identity identityAddress = .ok () →
      (proof info identity).Holds config polled past'
        (WalletLinkService.completion challenge identityAddress proofDigest identity input.now)) :
    Returns config (.poll polled) past
      (WalletLinkService.link input challenge identityAddress proofDigest)
      fun past' _ => past ⊆ past' := by
  refine Returns.call trivial fun readback => ?_
  refine Returns.ofExcept fun node hnode => Returns.ofExcept fun _ hchain => ?_
  refine Returns.ofExcept fun _ hactive => ?_
  have hreadback : readback = .ok (node.1, node.2) := by
    cases readback with
    | error e => cases hnode
    | ok node' => rw [Except.ok.inj hnode]
  subst hreadback
  have hproof := h _ node.1 node.2 (List.subset_cons_self _ _) List.mem_cons_self hchain hactive
  refine Returns.call ⟨polled, _, rfl, hproof⟩ fun (completed : WalletLinkCompletion) => ?_
  refine Returns.throwIf fun _ => (acknowledge_returns _ _).mono fun past' r hr a ha => ?_
  exact List.Subset.trans (List.subset_cons_of_subset _ (List.subset_cons_self _ _)) (hr a ha).subset

theorem poll_returns {polled : PollRequest} {session : SessionRecord} {pollingToken : String}
    (htoken : polled.pollingToken = some pollingToken)
    (hsession : Authenticated config polled.authentication polled.now past session) :
    Returns config (.poll polled) past
      (config.linking.poll
        { principal := LinkingConfig.principalFromSession session, pollingToken
          now := polled.now, correlationId := polled.correlationId }) fun _ _ => True := by
  have hallow : ∀ past', past ⊆ past' →
      AuthenticatedFor config (.poll polled) past' session.accountReference := by
    intro past' hpast
    exact (hsession.mono hpast).authenticatedFor config rfl
  refine Returns.bind (requireEnabled_returns _) fun _ _ hpast => ?_
  subst hpast
  refine Returns.call (hallow _ (List.Subset.refl _)) fun (current : WalletLinkPollResult) => ?_
  by_cases hstate : current.state ≠ .presented
  · rw [if_pos hstate]
    exact Returns.pure trivial
  · rw [if_neg hstate]
    refine Returns.call (hallow _ (List.subset_cons_self _ _))
      fun (challenge : WalletLinkChallengeRecord) => ?_
    refine Returns.ofExcept fun state hstate => Returns.throwIf fun hnonce => ?_
    have hissued : challenge.issuedAt = some (challenge.issuedAt.getD 0) := by
      unfold WalletLinkService.challengeState at hstate
      split at hstate
      · next hissued => rw [hissued, Option.getD_some]
      · cases hstate
    refine Returns.bind (Returns.ofHosted (getResult_returns _ _)) ?_
    rintro past' result ⟨hgrown, response, hfetched, hresult⟩
    have hpast := List.Subset.trans (List.subset_cons_of_subset _ (List.subset_cons_self _ _))
      hgrown.subset
    cases result with
    | pending => exact Returns.pure trivial
    | verified identityAddress displayName proofDigest tokenIssuedAt tokenExpiresAt =>
      let proof (info : VerusInfo) (identity : LinkedIdentityReadback) : LoginProof :=
        { session, pollingToken, challenge, issuedAt := challenge.issuedAt.getD 0, state, response
          displayName, tokenIssuedAt, tokenExpiresAt, info, identity }
      have hproof : ∀ past'' info identity, past' ⊆ past'' →
          ⟨.readback identityAddress, .ok (info, identity)⟩ ∈ past'' →
          validateReadbackChain info = .ok () →
          validateLinkedIdentity identity identityAddress = .ok () →
          (proof info identity).Holds config polled past'' (WalletLinkService.completion challenge
            identityAddress proofDigest identity polled.now) := by
        intro past'' info identity hlater hreadback hchain hactive
        exact ⟨hsession.mono (List.Subset.trans hpast hlater), htoken,
          hlater (hgrown.subset List.mem_cons_self), hissued, hstate, not_not.1 hnonce,
          hlater hfetched, hresult, hreadback, hchain, hactive, rfl⟩
      refine Returns.bind (link_returns hproof) ?_
      · intro past'' _ hpast'
        exact Returns.last (hallow _ (List.Subset.trans hpast hpast')) fun _ => trivial

theorem poll_honours (polled : PollRequest) :
    Returns config (.poll polled) [] (config.poll polled) fun _ _ => True := by
  refine Returns.bind requireFacade_returns fun _ _ hpast => ?_
  subst hpast
  split
  · exact Returns.throw
  · next pollingToken htoken =>
    refine Returns.bind (authenticate_returns rfl) ?_
    rintro past principal ⟨session, -, hsession, rfl⟩
    refine Returns.bind (poll_returns (AuthServices.nonEmpty_eq_some htoken) hsession)
      fun _ result _ => ?_
    split
    · exact Returns.throw
    · exact Returns.pure trivial

/-- A request that only goes on for its account. -/
theorem authenticated_honours {authentication : RequestAuthentication} {now : ℤ}
    (hrequest : request.authentication = some (authentication, now))
    {f : WalletLinkPrincipal → LinkingProgram LinkingError α}
    (h : ∀ past session, Authenticated config authentication now past session →
      Returns config request past (f (LinkingConfig.principalFromSession session)) fun _ _ => True) :
    Returns config request []
      (config.requireFacade >>= fun _ => config.authenticate authentication now >>= f)
      fun _ _ => True := by
  refine Returns.bind requireFacade_returns fun _ _ hpast => ?_
  subst hpast
  refine Returns.bind (authenticate_returns hrequest) ?_
  rintro past principal ⟨session, -, hsession, rfl⟩
  exact h past session hsession

/-- Every request honours the contract. -/
theorem honours (request : LinkingRequest) :
    Follows ((linkingContract config).protocol request) [] (request.program config) fun _ _ => True := by
  cases request with
  | begin begun => exact (begin_honours begun).mono fun _ _ _ => trivial
  | poll polled => exact (poll_honours polled).mono fun _ _ _ => trivial
  | cancel request =>
    refine (authenticated_honours rfl fun past session hsession => ?_).mono fun _ _ _ => trivial
    refine Returns.bind (requireEnabled_returns _) fun _ _ hpast => ?_
    subst hpast
    exact Returns.last (hsession.authenticatedFor config rfl) fun _ => trivial
  | unlink request =>
    refine (authenticated_honours rfl fun past session hsession => ?_).mono fun _ _ _ => trivial
    refine Returns.bind (requireEnabled_returns _) fun _ _ hpast => ?_
    subst hpast
    exact Returns.last (hsession.authenticatedFor config rfl) fun _ => trivial
  | requireRevalidation identityAddress reason observedAt context =>
    exact ⟨rfl, fun _ _ => trivial⟩
  | createAccount input => exact ⟨rfl, fun _ _ => trivial⟩
  | increment input => exact ⟨Or.inl rfl, fun _ _ => trivial⟩

end LinkingProgram

end ChecksAndBalances
