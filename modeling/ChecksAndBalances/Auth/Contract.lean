import ChecksAndBalances.Auth.System

/-!
# What the services call

The contract of the methods: after which past of its thread a method makes which store call, and what
the past of a method that returned says.  `contract_honoured` says it of every method; the claims
about runs are derived from it.
-/

namespace ChecksAndBalances

open Lib Threads

/-- A call with its answer. -/
abbrev ServiceItem := Sigma ServiceCall.Answer

variable (config : AuthConfig)

/-! ## Consumed challenges -/

/-- The consumption of a challenge by its token. -/
def tokenConsumption (trustDomain : TrustDomain) (token : String) (kind : AuthChallengeKind)
    (now : ℤ) : ConsumeInput :=
  { secretDigest := some (keyedDigest (config.email.secrets trustDomain) token)
    kind, trustDomain, atTime := now }

/-- The consumption of a challenge by its identifier. -/
def ceremonyConsumption (trustDomain : TrustDomain) (challengeReference : Uuid)
    (kind : AuthChallengeKind) (now : ℤ) : ConsumeInput :=
  { challengeId := some challengeReference, kind, trustDomain, atTime := now }

namespace ServiceRequest

/-- The consumption with which a flow starts. -/
def consumes : ServiceRequest → Option ConsumeInput
  | .email (.completeEmailSignIn input) =>
    some (tokenConsumption config input.trustDomain input.token .emailSignIn input.now)
  | .email (.completeRecovery input) =>
    some (tokenConsumption config input.trustDomain input.token .accountRecovery input.now)
  | .email (.consumeRecoveryGrant input) =>
    some (tokenConsumption config input.trustDomain input.token .recoveryGrant input.now)
  | .email (.confirmEmailChange input) =>
    some (tokenConsumption config input.trustDomain input.token .emailChange input.now)
  | .finishRegistration input =>
    some (ceremonyConsumption input.trustDomain input.challengeReference .passkeyRegistration
      input.now)
  | .finishAuthentication input =>
    some (ceremonyConsumption input.trustDomain input.challengeReference .passkeyAuthentication
      input.now)
  | _ => none

/-- The answer to a consumption. -/
def consumedItem (input : ConsumeInput) (challenge : ConsumedAuthChallenge) : ServiceItem :=
  ⟨.email (.store (.consume input)), some challenge⟩

/-- The thread consumed the challenge, which is one of the account. -/
def ConsumedFor (request : ServiceRequest) (past : List ServiceItem) (reference : String) : Prop :=
  ∃ input challenge, request.consumes config = some input ∧ consumedItem input challenge ∈ past ∧
    challenge.accountReference = some reference

/-! ## Store calls -/

/-- What `beginRegistration` saw before it creates its challenge. -/
structure Enrols (input : PasskeyService.BeginRegistrationInput) (past : List ServiceItem)
    (record : AuthChallengeRecord) (existing : List StoredPasskeyCredential) : Prop where
  past : ∃ id options, past = [⟨.email (.host .newId), id⟩,
      ⟨.webAuthn (.generateRegistrationOptions
        (PasskeyService.registrationOptions config input existing)), options⟩,
      ⟨.passkey (.listActive input.accountReference input.trustDomain), existing⟩] ∧
    record = PasskeyService.ceremonyChallenge config .passkeyRegistration
      (some input.accountReference) input.trustDomain input.now id options
  authorized : (existing = [] ∧ input.initial = true) ∨ input.credentialChange = true

/-- The challenges that a method creates. -/
def Creates (request : ServiceRequest) (past : List ServiceItem) (record : AuthChallengeRecord) :
    Prop :=
  (record.kind = .passkeyRegistration → ∃ input, request = .beginRegistration input) ∧
  (∀ input, request = .beginRegistration input → ∃ existing, Enrols config input past record existing) ∧
  ∀ input, request = .email (.completeRecovery input) →
    ∃ reference, record.accountReference = some reference ∧ ConsumedFor config request past reference

/-- The session may be used. -/
structure Usable (input : SessionService.AuthenticateInput) (record : SessionRecord) : Prop where
  audience : record.audience = (config.sessions input.trustDomain).audience
  revokedAt : record.revokedAt = none
  idle : input.now < record.idleExpiresAt
  absolute : input.now < record.absoluteExpiresAt

/-- What `authenticate` found. -/
def foundItem (input : SessionService.AuthenticateInput) (record : SessionRecord) : ServiceItem :=
  ⟨.session (.findByTokenDigest input.trustDomain
    (keyedDigest (config.sessions input.trustDomain).sessionSecret (input.token.getD ""))),
    some record⟩

/-- The session store calls that a method makes. -/
def AllowsSession (request : ServiceRequest) (past : List ServiceItem) : SessionStoreCall → Prop
  | .create record => ∃ input id token csrfToken, request = .issue input ∧
    record = SessionService.newRecord config input id token csrfToken
  | .touch sessionId idleExpiresAt atTime => ∃ input record, request = .authenticate input ∧
    past = [foundItem config input record] ∧ Usable config input record ∧ sessionId = record.id ∧
    idleExpiresAt = SessionService.nextIdle config input record ∧ atTime = input.now
  | _ => True

/-- The passkey store calls that a method makes. -/
def AllowsPasskey (request : ServiceRequest) (past : List ServiceItem) : PasskeyStoreCall → Prop
  | .listActive _ _ => past = []
  | .save credential _ => ∃ input reference challenge info,
    request = .finishRegistration input ∧
    credential = PasskeyService.registeredCredential config input reference info ∧
    challenge.accountReference = some reference ∧
    past = [⟨.webAuthn (.verifyRegistrationResponse
        (PasskeyService.registrationVerification config input challenge)), some (some info)⟩,
      consumedItem (ceremonyConsumption input.trustDomain input.challengeReference
        .passkeyRegistration input.now) challenge]
  | .updateUsage usage => ∃ input challenge credential result,
    request = .finishAuthentication input ∧
    usage = PasskeyService.passkeyUsage input credential result ∧ result.verified = true ∧
    past = [⟨.webAuthn (.verifyAuthenticationResponse
        (PasskeyService.authenticationVerification config input challenge credential)),
        some result⟩,
      ⟨.passkey (.findActive input.response.id input.trustDomain), some credential⟩,
      consumedItem (ceremonyConsumption input.trustDomain input.challengeReference
        .passkeyAuthentication input.now) challenge]
  | .revokeCredential credentialReference accountReference revokedAt => ∃ input active,
    request = .revokeCredential input ∧ credentialReference = input.credentialReference ∧
    accountReference = input.accountReference ∧ revokedAt = input.now ∧
    past = [⟨.passkey (.listActive input.accountReference input.trustDomain), active⟩] ∧
    (1 < active.length ∨ input.alternateRecoveryAvailable = true)
  | _ => True

/-- The store calls that a method makes. -/
def Allows (request : ServiceRequest) (past : List ServiceItem) : ServiceCall → Prop
  | .email (.store (.consume input)) => past = [] ∧ request.consumes config = some input
  | .email (.store (.createChallenge record)) => Creates config request past record
  | .email (.store (.recoverAndRevokeSessions input)) => (∃ call, request = .direct call) ∨
    ConsumedFor config request past input.accountReference
  | .email (.store (.changeVerifiedEmail input)) => (∃ call, request = .direct call) ∨
    ConsumedFor config request past input.accountReference
  | .session call => AllowsSession config request past call
  | .passkey call => AllowsPasskey config request past call
  | _ => True

/-! ## Results -/

/-- The past of a method that returned the value. -/
def Returned : (request : ServiceRequest) → List ServiceItem → request.Value → Prop
  | .email (.completeEmailSignIn input), past, reference =>
    ConsumedFor config (.email (.completeEmailSignIn input)) past reference
  | .email (.completeRecovery input), past, result =>
    ConsumedFor config (.email (.completeRecovery input)) past result.accountReference
  | .email (.consumeRecoveryGrant input), past, reference =>
    ConsumedFor config (.email (.consumeRecoveryGrant input)) past reference
  | .email (.confirmEmailChange input), past, _ =>
    ∃ reference, ConsumedFor config (.email (.confirmEmailChange input)) past reference
  | .finishRegistration input, past, credential =>
    ConsumedFor config (.finishRegistration input) past credential.accountReference
  | .finishAuthentication input, past, value => ∃ credential result challenge,
    value = { accountReference := credential.accountReference
              credentialReference := credential.credentialReference } ∧
    ⟨.passkey (.updateUsage (PasskeyService.passkeyUsage input credential result)), ()⟩ ∈ past ∧
    consumedItem (ceremonyConsumption input.trustDomain input.challengeReference
      .passkeyAuthentication input.now) challenge ∈ past
  | .authenticate input, past, value => ∃ record, Usable config input record ∧
    past = [⟨.session (.touch record.id (SessionService.nextIdle config input record) input.now), ()⟩,
      foundItem config input record] ∧
    value = { record with idleExpiresAt := SessionService.nextIdle config input record }
  | _, _, _ => True

end ServiceRequest

/-- The contract of the services, given what the host answers. -/
def authContract (admits : (call : ServiceCall) → call.Answer → Prop) :
    Contract ServiceRequest.Result ServiceCall.Answer where
  allows := ServiceRequest.Allows config
  admits := admits
  returns request past result := ∀ value, result = .ok value → ServiceRequest.Returned config request past value

/-! ## Rules -/

section Rules

variable {K : Contract ServiceRequest.Result ServiceCall.Answer} {request : ServiceRequest}
  {past : List ServiceItem} {β : Type}

/-- A first call. -/
theorem follows_call {call : ServiceCall} {f : call.Answer → ServiceProgram β}
    {Q : List ServiceItem → Except AuthErrorCode β → Prop} (hallow : K.allows request past call)
    (h : ∀ answer, Follows (K.protocol request) (⟨call, answer⟩ :: past) (f answer).run Q) :
    Follows (K.protocol request) past (call.request >>= f).run Q :=
  Follows.lift_bind (Follows.request hallow fun answer _ => h answer)

/-- A last call. -/
theorem follows_last_call {call : ServiceCall}
    {Q : List ServiceItem → Except AuthErrorCode call.Answer → Prop}
    (hallow : K.allows request past call) (h : ∀ answer, Q (⟨call, answer⟩ :: past) (.ok answer)) :
    Follows (K.protocol request) past call.request.run Q :=
  Follows.bind (Follows.request hallow fun answer _ => h answer)

/-- A first store call of an email service. -/
theorem follows_email_store {call : AuthStoreCall} {f : call.Result → AuthProgram β}
    {Q : List ServiceItem → Except AuthErrorCode β → Prop}
    (hallow : K.allows request past (.email (.store call)))
    (h : ∀ answer, Follows ((K.protocol request).comap ServiceCall.email)
      (⟨.email (.store call), answer⟩ :: past) (f answer).run Q) :
    Follows ((K.protocol request).comap ServiceCall.email) past (call.request >>= f).run Q :=
  Follows.lift_bind (Follows.request hallow fun answer _ => h answer)

/-- A first call of an email service to the host. -/
theorem follows_email_host {call : AuthHostCall} {f : call.Answer → AuthProgram β}
    {Q : List ServiceItem → Except AuthErrorCode β → Prop}
    (hallow : K.allows request past (.email (.host call)))
    (h : ∀ answer, Follows ((K.protocol request).comap ServiceCall.email)
      (⟨.email (.host call), answer⟩ :: past) (f answer).run Q) :
    Follows ((K.protocol request).comap ServiceCall.email) past (call.request >>= f).run Q :=
  Follows.lift_bind (Follows.request hallow fun answer _ => h answer)

/-- A last call of an email service to the host. -/
theorem follows_email_last_host {call : AuthHostCall}
    {Q : List ServiceItem → Except AuthErrorCode call.Answer → Prop}
    (hallow : K.allows request past (.email (.host call)))
    (h : ∀ answer, Q (⟨.email (.host call), answer⟩ :: past) (.ok answer)) :
    Follows ((K.protocol request).comap ServiceCall.email) past call.request.run Q :=
  Follows.bind (Follows.request hallow fun answer _ => h answer)

/-- Notifications keep what the past holds. -/
theorem follows_email_notifications {notification : String → SecurityNotification}
    (destinations : List String)
    (hallow : ∀ past call, K.allows request past (.email (.host call))) :
    Follows ((K.protocol request).comap ServiceCall.email) past
      (destinations.forM fun d => (AuthHostCall.enqueue (notification d)).request :
        AuthProgram Unit).run fun past' _ => past ⊆ past' := by
  induction destinations generalizing past with
  | nil => exact List.Subset.refl past
  | cons d rest ih =>
    refine follows_email_host (hallow _ _) fun _ => (ih.mono ?_)
    exact fun past' _ h => fun item hitem => h (List.mem_cons_of_mem _ hitem)

end Rules

/-! ## Sessions -/

variable {config} {admits : (call : ServiceCall) → call.Answer → Prop}

/-- A method that throws has returned no value. -/
theorem returns_error {request : ServiceRequest} {past : List ServiceItem} (e : AuthErrorCode) :
    (authContract config admits).returns request past (.error e) := by
  rintro _ ⟨⟩

theorem issue_honours (input : SessionService.IssueInput) :
    Follows ((authContract config admits).protocol (.issue input)) []
      (SessionService.issue config input).run ((authContract config admits).returns (.issue input)) := by
  unfold SessionService.issue
  refine Follows.throwIf_bind (fun _ => returns_error _) fun _ => Follows.except_bind ?_
  have hrotate : Follows ((authContract config admits).protocol (.issue input)) []
      (SessionService.rotate input.priorSessionId input.now).run fun _ _ => True := by
    unfold SessionService.rotate
    split
    · exact follows_last_call trivial fun _ => trivial
    · trivial
  refine hrotate.mono ?_
  rintro past (e | ⟨⟩) -
  · exact returns_error _
  · refine follows_call trivial fun token => follows_call trivial fun csrfToken => ?_
    refine follows_call trivial fun id => follows_call ?_ fun _ _ _ => trivial
    exact ⟨input, id, token, csrfToken, rfl, rfl⟩

theorem authenticate_honours (input : SessionService.AuthenticateInput) :
    Follows ((authContract config admits).protocol (.authenticate input)) []
      (SessionService.authenticate config input).run
      ((authContract config admits).returns (.authenticate input)) := by
  unfold SessionService.authenticate
  split
  · exact returns_error _
  · next token htoken =>
    refine follows_call trivial fun stored => ?_
    have hitem : ∀ record, (⟨.session (.findByTokenDigest input.trustDomain
        (keyedDigest (config.sessions input.trustDomain).sessionSecret token)), some record⟩ :
        ServiceItem) = ServiceRequest.foundItem config input record := by
      intro record
      rw [ServiceRequest.foundItem, AuthServices.nonEmpty_eq_some htoken]
      rfl
    split
    · exact returns_error _
    · next record =>
      refine Follows.throwIf_bind (fun _ => returns_error _) fun haudience => ?_
      refine Follows.throwIf_bind (fun _ => returns_error _) fun hrevoked => ?_
      split_ifs with hexpired
      · exact follows_call trivial fun _ => returns_error _
      · rw [not_or, not_le, not_le] at hexpired
        have husable : ServiceRequest.Usable config input record :=
          ⟨not_not.1 haudience, by simpa using hrevoked, hexpired.1, hexpired.2⟩
        rw [hitem]
        refine follows_call ⟨input, record, rfl, rfl, husable, rfl, rfl, rfl⟩ ?_
        rintro ⟨⟩ _ ⟨⟩
        exact ⟨record, husable, rfl, rfl⟩

/-! ## Passkeys -/

theorem beginRegistration_honours (input : PasskeyService.BeginRegistrationInput) :
    Follows ((authContract config admits).protocol (.beginRegistration input)) []
      (PasskeyService.beginRegistration config input).run
      ((authContract config admits).returns (.beginRegistration input)) := by
  unfold PasskeyService.beginRegistration
  refine follows_call rfl fun (existing : List StoredPasskeyCredential) => ?_
  refine Follows.throwIf_bind (fun _ => returns_error _) fun hauthorized => ?_
  refine follows_call trivial fun options => follows_call trivial fun id => ?_
  rw [not_and_or, not_not, not_not] at hauthorized
  refine follows_call ⟨fun _ => ⟨input, rfl⟩, ?_, nofun⟩ fun _ _ _ => trivial
  rintro _ ⟨⟩
  exact ⟨existing, ⟨id, options, rfl, rfl⟩, hauthorized⟩

theorem finishRegistration_honours (input : PasskeyService.FinishRegistrationInput) :
    Follows ((authContract config admits).protocol (.finishRegistration input)) []
      (PasskeyService.finishRegistration config input).run
      ((authContract config admits).returns (.finishRegistration input)) := by
  unfold PasskeyService.finishRegistration
  refine follows_call ⟨rfl, rfl⟩ fun consumed => ?_
  split
  · exact returns_error _
  · next challenge =>
    split
    · exact returns_error _
    · next reference hreference =>
      have haccount := AuthServices.nonEmpty_eq_some hreference
      refine follows_call trivial fun result => ?_
      split
      · exact returns_error _
      · next info hinfo =>
        obtain rfl := Option.join_eq_some_iff.1 hinfo
        refine follows_call ⟨input, reference, challenge, info, rfl, rfl, haccount, rfl⟩ ?_
        rintro ⟨⟩ _ ⟨⟩
        exact ⟨_, challenge, rfl, .tail _ (.tail _ (.head _)), haccount⟩

theorem beginAuthentication_honours (input : PasskeyService.BeginAuthenticationInput) :
    Follows ((authContract config admits).protocol (.beginAuthentication input)) []
      (PasskeyService.beginAuthentication config input).run
      ((authContract config admits).returns (.beginAuthentication input)) := by
  unfold PasskeyService.beginAuthentication
  refine follows_call trivial fun options => follows_call trivial fun id => ?_
  exact follows_call ⟨nofun, nofun, nofun⟩ fun _ _ _ => trivial

theorem finishAuthentication_honours (input : PasskeyService.FinishAuthenticationInput) :
    Follows ((authContract config admits).protocol (.finishAuthentication input)) []
      (PasskeyService.finishAuthentication config input).run
      ((authContract config admits).returns (.finishAuthentication input)) := by
  unfold PasskeyService.finishAuthentication
  refine follows_call ⟨rfl, rfl⟩ fun consumed => ?_
  split
  · exact returns_error _
  · next challenge =>
    refine follows_call trivial fun stored => ?_
    split
    · exact returns_error _
    · next credential =>
      refine Follows.throwIf_bind (fun _ => returns_error _) fun _ => follows_call trivial fun verification => ?_
      split
      · exact returns_error _
      · next result =>
        refine Follows.throwIf_bind (fun _ => returns_error _) fun hverified => ?_
        rw [not_or, Bool.not_eq_false] at hverified
        refine follows_call ⟨input, challenge, credential, result, rfl, rfl, hverified.1, rfl⟩ ?_
        rintro ⟨⟩ _ ⟨⟩
        exact ⟨credential, result, challenge, rfl, .head _, .tail _ (.tail _ (.tail _ (.head _)))⟩

theorem revokeCredential_honours (input : PasskeyService.RevokeCredentialInput) :
    Follows ((authContract config admits).protocol (.revokeCredential input)) []
      (PasskeyService.revokeCredential input).run
      ((authContract config admits).returns (.revokeCredential input)) := by
  unfold PasskeyService.revokeCredential
  refine Follows.throwIf_bind (fun _ => returns_error _) fun _ => ?_
  refine follows_call rfl fun (active : List StoredPasskeyCredential) => ?_
  refine Follows.throwIf_bind (fun _ => returns_error _) fun hcount => follows_last_call ?_ fun _ _ _ => trivial
  refine ⟨input, active, rfl, rfl, rfl, rfl, rfl, ?_⟩
  rwa [not_and_or, not_le, Bool.not_eq_false] at hcount

/-! ## The email services -/

/-- What an email service calls and returns. -/
abbrev EmailHonours (config : AuthConfig) (admits : (call : ServiceCall) → call.Answer → Prop)
    (request : EmailRequest) : Prop :=
  Follows (((authContract config admits).protocol (.email request)).comap ServiceCall.email) []
    (request.program config.email).run ((authContract config admits).returns (.email request))

theorem stored_ne_registration (kind : AuthServices.EmailChallengeKind) :
    kind.stored ≠ .passkeyRegistration := by
  cases kind <;> nofun

theorem requireWithinLimit_follows {services : AuthServices}
    {K : Contract ServiceRequest.Result ServiceCall.Answer} {request : ServiceRequest}
    {past : List ServiceItem} {bucket subject : String} {now window : ℤ} {limit : ℕ}
    (hallow : ∀ input, K.allows request past (.email (.store (.increment input)))) :
    Follows ((K.protocol request).comap ServiceCall.email) past
      (services.requireWithinLimit bucket subject now window limit).run fun _ _ => True := by
  unfold AuthServices.requireWithinLimit
  refine follows_email_store (hallow _) fun count => ?_
  split_ifs
  · trivial
  · trivial

theorem begin_honours (input : AuthServices.BeginInput) :
    EmailHonours config admits (.begin input) := by
  unfold EmailHonours EmailRequest.program AuthServices.begin
  refine Follows.except_bind ((requireWithinLimit_follows fun _ => trivial).mono ?_)
  rintro _ (e | ⟨⟩) -
  · exact returns_error _
  refine Follows.lift_bind ((requireWithinLimit_follows fun _ => trivial).mono ?_)
  rintro _ limited -
  split
  · exact fun _ _ => trivial
  · exact returns_error _
  · refine follows_email_store trivial fun stored => ?_
    split
    · exact fun _ _ => trivial
    · refine follows_email_host trivial fun token => follows_email_host trivial fun id => ?_
      refine follows_email_store
        ⟨fun hkind => absurd hkind (stored_ne_registration _), nofun, nofun⟩ fun _ => ?_
      exact follows_email_host trivial fun _ _ _ => trivial

theorem completeEmailSignIn_honours (input : AuthServices.SignInInput) :
    EmailHonours config admits (.completeEmailSignIn input) := by
  unfold EmailHonours EmailRequest.program AuthServices.completeEmailSignIn
  refine follows_email_store ⟨rfl, rfl⟩ fun challenge => ?_
  split
  · exact returns_error _
  · next reference hreference =>
    obtain ⟨c, rfl, haccount⟩ := Option.bind_eq_some_iff.1 hreference
    split_ifs
    · exact returns_error _
    · rintro _ ⟨⟩
      exact ⟨_, c, rfl, .head _, AuthServices.nonEmpty_eq_some haccount⟩

theorem consumeRecoveryGrant_honours (input : AuthServices.SignInInput) :
    EmailHonours config admits (.consumeRecoveryGrant input) := by
  unfold EmailHonours EmailRequest.program AuthServices.consumeRecoveryGrant
  refine follows_email_store ⟨rfl, rfl⟩ fun challenge => ?_
  split
  · exact returns_error _
  · next reference hreference =>
    obtain ⟨c, rfl, haccount⟩ := Option.bind_eq_some_iff.1 hreference
    rintro _ ⟨⟩
    exact ⟨_, c, rfl, .head _, AuthServices.nonEmpty_eq_some haccount⟩

theorem completeRecovery_honours (input : AuthServices.RecoveryInput) :
    EmailHonours config admits (.completeRecovery input) := by
  unfold EmailHonours EmailRequest.program AuthServices.completeRecovery
  refine follows_email_store ⟨rfl, rfl⟩ fun challenge => ?_
  split
  · exact returns_error _
  · next reference destination haccount =>
    obtain ⟨c, rfl, hc⟩ := Option.bind_eq_some_iff.1 haccount
    obtain ⟨_, hreference, hc⟩ := Option.bind_eq_some_iff.1 hc
    obtain ⟨_, -, ⟨⟩⟩ := Option.bind_eq_some_iff.1 hc
    -- what follows goes on with the consumed challenge
    have hconsumed : ∀ past, ServiceRequest.consumedItem (tokenConsumption config input.trustDomain
        input.token .accountRecovery input.now) c ∈ past →
        ServiceRequest.ConsumedFor config (.email (.completeRecovery input)) past reference :=
      fun past hitem => ⟨_, c, rfl, hitem, AuthServices.nonEmpty_eq_some hreference⟩
    refine follows_email_store (Or.inr (hconsumed _ (.head _))) fun _ => ?_
    refine follows_email_host trivial fun _ => ?_
    split_ifs
    · rintro _ ⟨⟩
      exact hconsumed _ (.tail _ (.tail _ (.head _)))
    · refine follows_email_host trivial fun grant => follows_email_host trivial fun id => ?_
      refine follows_email_store ⟨nofun, nofun, ?_⟩ fun _ => ?_
      · rintro _ ⟨⟩
        exact ⟨reference, rfl, hconsumed _ (.tail _ (.tail _ (.tail _ (.tail _ (.head _)))))⟩
      · rintro _ ⟨⟩
        exact hconsumed _ (.tail _ (.tail _ (.tail _ (.tail _ (.tail _ (.head _))))))

theorem beginEmailChange_honours (input : AuthServices.BeginEmailChangeInput) :
    EmailHonours config admits (.beginEmailChange input) := by
  unfold EmailHonours
  dsimp only [EmailRequest.program]
  unfold AuthServices.beginEmailChange
  split_ifs
  · exact returns_error _
  · refine follows_email_host trivial fun token => follows_email_host trivial fun id => ?_
    refine follows_email_store ⟨nofun, nofun, nofun⟩ fun _ => ?_
    exact follows_email_last_host trivial fun _ _ _ => trivial

theorem lockAccount_honours (input : AuthServices.LockAccountInput) :
    EmailHonours config admits (.lockAccount input) := by
  unfold EmailHonours EmailRequest.program AuthServices.lockAccount
  exact follows_email_store trivial fun _ => follows_email_host trivial fun _ _ _ => trivial

theorem confirmEmailChange_honours (input : AuthServices.ConfirmEmailChangeInput) :
    EmailHonours config admits (.confirmEmailChange input) := by
  unfold EmailHonours EmailRequest.program AuthServices.confirmEmailChange
  refine follows_email_store ⟨rfl, rfl⟩ fun challenge => ?_
  split
  · exact returns_error _
  · next reference destination digest haccount =>
    obtain ⟨c, rfl, hc⟩ := Option.bind_eq_some_iff.1 haccount
    obtain ⟨_, hreference, hc⟩ := Option.bind_eq_some_iff.1 hc
    obtain ⟨_, -, hc⟩ := Option.bind_eq_some_iff.1 hc
    obtain ⟨_, -, ⟨⟩⟩ := Option.bind_eq_some_iff.1 hc
    have hconsumed : ∀ past, ServiceRequest.consumedItem (tokenConsumption config input.trustDomain
        input.token .emailChange input.now) c ∈ past →
        ServiceRequest.ConsumedFor config (.email (.confirmEmailChange input)) past reference :=
      fun past hitem => ⟨_, c, rfl, hitem, AuthServices.nonEmpty_eq_some hreference⟩
    refine follows_email_store (Or.inr (hconsumed _ (.head _))) fun result => ?_
    refine (follows_email_notifications _ fun _ _ => trivial).mono ?_
    rintro past _ hpast _ -
    exact ⟨reference, hconsumed past (hpast (.tail _ (.head _)))⟩

theorem email_honours (request : EmailRequest) : EmailHonours config admits request := by
  cases request with
  | begin input => exact begin_honours input
  | completeEmailSignIn input => exact completeEmailSignIn_honours input
  | completeRecovery input => exact completeRecovery_honours input
  | consumeRecoveryGrant input => exact consumeRecoveryGrant_honours input
  | lockAccount input => exact lockAccount_honours input
  | beginEmailChange input => exact beginEmailChange_honours input
  | confirmEmailChange input => exact confirmEmailChange_honours input

/-- Every method honours the contract. -/
theorem contract_honoured (request : ServiceRequest) :
    Follows ((authContract config admits).protocol request) [] (request.program config)
      ((authContract config admits).returns request) := by
  cases request with
  | email request => exact Follows.embed (email_honours request)
  | issue input => exact issue_honours input
  | authenticate input => exact authenticate_honours input
  | beginRegistration input => exact beginRegistration_honours input
  | finishRegistration input => exact finishRegistration_honours input
  | beginAuthentication input => exact beginAuthentication_honours input
  | finishAuthentication input => exact finishAuthentication_honours input
  | revokeCredential input => exact revokeCredential_honours input
  | direct call =>
    refine follows_last_call ?_ fun _ _ _ => trivial
    cases call with
    | account call => exact trivial
    | revoke sessionId reasonCategory atTime => exact trivial
    | revokeAll accountReference trustDomain reasonCategory atTime => exact trivial
    | recoverAndRevokeSessions input => exact Or.inl ⟨_, rfl⟩
    | lockAndRevokeSessions input => exact trivial
    | changeVerifiedEmail input => exact Or.inl ⟨_, rfl⟩

end ChecksAndBalances
