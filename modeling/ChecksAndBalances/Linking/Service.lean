import ChecksAndBalances.Db.VerusJobRepository
import ChecksAndBalances.Linking.HostedClient

/-!
# The linking service

`WalletLinkService` of `packages/verus-linking/src/service.ts`, as programs over the rate limits, the
repository of links, the hosted service and the node.
-/

namespace ChecksAndBalances

open Lib

/-! ## Errors -/

/-- `WalletLinkErrorCode`. -/
inductive WalletLinkErrorCode where
  | featureDisabled
  | mainnetBlocked
  | invalidRequest
  | challengeUnavailable
  | challengeExpired
  | authServiceUnavailable
  | authServiceIncompatible
  deriving DecidableEq, Repr

/-- `publicMessage`, the text of a `WalletLinkError`. -/
def WalletLinkErrorCode.publicMessage : WalletLinkErrorCode → String
  | featureDisabled => "Optional VRSCTEST VerusID linking is not enabled."
  | mainnetBlocked => "VerusID linking is available on VRSCTEST only."
  | challengeExpired => "The VerusID linking request expired. Start again."
  | challengeUnavailable => "The VerusID linking request is unavailable. Start again."
  | authServiceUnavailable => "The VRSCTEST identity service is temporarily unavailable."
  | authServiceIncompatible =>
    "The VRSCTEST identity service did not meet the approved compatibility contract."
  | invalidRequest => "The VerusID linking result could not be accepted."

/-- What a request throws, besides the errors of the database. -/
inductive LinkingError where
  | walletLink (code : WalletLinkErrorCode)
  | auth (code : AuthErrorCode)
  | verus (error : VerusIntegrationError)
  /-- An error of the language: a time that is no date. -/
  | language
  deriving DecidableEq, Repr

/-- `hostedError`. -/
def hostedError : HostedAuthErrorCode → LinkingError
  | .incompatible => .walletLink .authServiceIncompatible
  | _ => .walletLink .authServiceUnavailable

/-! ## Parts of other services -/

/-- A part that throws the errors of the hosted client. -/
def LinkingProgram.ofHosted {α : Type} (p : LinkingProgram HostedAuthErrorCode α) :
    LinkingProgram LinkingError α :=
  ExceptT.mk (p.run >>= fun r => pure (r.mapError hostedError))

/-- A method of the session service. -/
def LinkingProgram.ofAuth {α : Type} (p : ServiceProgram α) : LinkingProgram LinkingError α :=
  ExceptT.mk ((Program.embed LinkingCall.auth p.run : Program LinkingCall LinkingCall.Answer _) >>=
    fun r => pure (r.mapError .auth))

/-- A method of the rate limiter. -/
def LinkingProgram.ofEmail {α : Type} (p : AuthProgram α) : LinkingProgram LinkingError α :=
  .ofAuth (ExceptT.mk (Program.embed ServiceCall.email p.run))

/-! ## Configuration -/

/-- The values of `CBC_VERUS_NETWORK`. -/
inductive LinkNetwork where
  | fake
  | vrsctest
  deriving DecidableEq, Repr

/-- `WalletLinkServiceConfig`. -/
structure WalletLinkServiceConfig where
  enabled : Bool
  network : LinkNetwork
  applicationIdentityAddress : String
  authServiceCallbackUrl : String
  participantAudience : String
  committeeAudience : String
  bindingSecret : String
  pollingTokenSecret : String

/-- What the service is constructed with. -/
structure WalletLinkService where
  config : WalletLinkServiceConfig
  hostedAuth : HostedAuthHttpConfig
  rateLimiter : AuthServices

/-- `WalletLinkPrincipal`. -/
structure WalletLinkPrincipal where
  accountReference : String
  trustDomain : TrustDomain
  authenticationStrength : String
  deriving DecidableEq, Repr

/-- `CHALLENGE_LIFETIME_MS`. -/
def challengeLifetimeMs : ℤ := 5 * 60000

/-- `REQUEST_WINDOW_MS`. -/
def requestWindowMs : ℤ := 15 * 60000

/-- `REQUEST_LIMIT`. -/
def requestLimit : ℕ := 10

/-- `ALLOWED_SCOPES`. -/
def allowedScopes : List String := ["verusid:link"]

/-! ## Functions -/

/-- The values of `TrustDomain`. -/
def TrustDomain.name : TrustDomain → String
  | participant => "participant"
  | committee => "committee"

/-- `HostedStateBinding`. -/
structure HostedStateBinding where
  accountReference : String
  trustDomain : TrustDomain
  purpose : String
  audience : String
  issuedAt : ℤ
  expiresAt : ℤ
  deriving DecidableEq, Repr

/-- The control character that separates the parts of a binding. -/
def unitSeparator : Char := Char.ofNat 0x1f

/-- The text that the state of a binding is derived from, absent where a time is no date. -/
def HostedStateBinding.material [ServiceHost] (binding : HostedStateBinding) : Option String := do
  let issuedAt ← toISOString binding.issuedAt
  let expiresAt ← toISOString binding.expiresAt
  return unitSeparator.toString.intercalate ["cbc.hosted-verusid-link.state.v1",
    binding.accountReference, binding.trustDomain.name, binding.purpose, binding.audience,
    issuedAt, expiresAt]

/-- `deriveHostedState`. -/
def deriveHostedState [ServiceHost] (secret : String) (binding : HostedStateBinding) :
    Except LinkingError String :=
  match binding.material with
  | some material => .ok (String.ofList
      (Base64.encode (Sha256.hmacBytes (encodeUtf8 secret) (encodeUtf8 material))))
  | none => .error .language

/-- `normalizeScopes`. -/
def normalizeScopes (scopes : List String) : Except LinkingError (List String) :=
  let normalized := scopes.dedup.insertionSort fun a b => codeUnitsLt (utf16 b) (utf16 a) = false
  if normalized = [] ∨ normalized.any (fun scope => scope ∉ allowedScopes) = true then
    .error (.walletLink .invalidRequest)
  else .ok normalized

/-- `validateLinkedIdentity`. -/
def validateLinkedIdentity (identity : LinkedIdentityReadback) (expectedAddress : String) :
    Except LinkingError Unit :=
  if identity.identity.identityAddress ≠ expectedAddress ∨
      identity.identity.systemId ≠ vrsctestChainId ∨ identity.status ≠ "active" then
    .error (.verus { code := .identityStateInvalid
                     message := "Selected identity is not currently active on VRSCTEST"
                     retryable := false })
  else .ok ()

/-- The check of the chain that `poll` makes before it. -/
def validateReadbackChain (info : VerusInfo) : Except LinkingError Unit :=
  if info.chainId ≠ vrsctestChainId ∨ info.name ≠ "VRSCTEST" ∨ info.testnet = false then
    .error (.verus { code := .wrongNetwork, message := "Identity readback is not VRSCTEST"
                     retryable := false })
  else .ok ()

/-- `contextFor`. -/
def linkContextFor (principal : WalletLinkPrincipal)
    (correlationId requestDigest reasonCategory : String) : CommandContext :=
  { actor :=
      { type := "auth_account"
        reference := principal.accountReference
        authenticationStrength := principal.authenticationStrength }
    committeeReference := "global_wallet_linking"
    policyVersionReference := "cbc-wallet-link-policy-v1"
    softwareVersion := "issue-19"
    reasonCategory, correlationId
    idempotencyKey := reasonCategory ++ ":" ++ requestDigest
    requestDigest }

/-! ## Inputs and results -/

/-- `BeginWalletLinkInput`. -/
structure BeginWalletLinkInput where
  principal : WalletLinkPrincipal
  purpose : Option WalletLinkPurpose := none
  scopes : List String
  now : ℤ
  correlationId : String

/-- `WalletLinkPresentation`. -/
structure WalletLinkPresentation where
  challengeReference : String
  network : String
  requesterIdentity : String
  purpose : WalletLinkPurpose
  scopes : List String
  expiresAt : String
  sameDeviceUrl : String
  qrPayload : String
  pollingToken : String
  operational : Bool
  limitations : List String
  deriving DecidableEq, Repr

/-- `PollInput`. -/
structure PollInput where
  principal : WalletLinkPrincipal
  pollingToken : String
  now : ℤ
  correlationId : String

/-- The limitations that a presentation states. -/
def linkLimitations : List String := [
  "This optional VRSCTEST link proves control of the selected VerusID only.",
  "It does not prove identity, presence, locality, uniqueness, eligibility, or committee role.",
  "Never enter or send a seed phrase, private key, WIF, wallet file, or spending key."]

/-! ## The service -/

namespace WalletLinkService

variable [LinkingHost] (service : WalletLinkService)

/-- `audience`. -/
def audience (trustDomain : TrustDomain) : String :=
  match trustDomain with
  | .participant => service.config.participantAudience
  | .committee => service.config.committeeAudience

/-- `requireEnabled`. -/
def requireEnabled : LinkingProgram LinkingError Unit := do
  Program.throwIf (service.config.enabled = false) (.walletLink .featureDisabled)
  Program.throwIf (service.config.network ≠ .vrsctest) (.walletLink .mainnetBlocked)
  Program.throwIf ((utf16 service.config.bindingSecret).length < 32 ∨
    (utf16 service.config.pollingTokenSecret).length < 32) (.walletLink .featureDisabled)

/-- What the state of a new challenge binds. -/
def binding (input : BeginWalletLinkInput) : HostedStateBinding :=
  { accountReference := input.principal.accountReference
    trustDomain := input.principal.trustDomain
    purpose := (input.purpose.getD .linkVerusid).name
    audience := service.audience input.principal.trustDomain
    issuedAt := input.now
    expiresAt := input.now + challengeLifetimeMs }

/-- What `begin` asks the hosted service for. -/
def hostedInput (input : BeginWalletLinkInput) (state : String) : CreateHostedChallengeInput :=
  { state
    audience := service.audience input.principal.trustDomain
    purpose := (input.purpose.getD .linkVerusid).name
    issuedAt := input.now
    expiresAt := input.now + challengeLifetimeMs }

/-- The challenge that `begin` stores. -/
def newChallenge (input : BeginWalletLinkInput) (scopes : List String) (state : String)
    (hosted : HostedChallenge) (pollingToken uuid : String) : CreateWalletLinkChallengeInput :=
  { externalReference := "wallet_challenge_" ++ String.ofList (uuid.toList.filter (· ≠ '-'))
    accountReference := input.principal.accountReference
    trustDomain := input.principal.trustDomain
    purpose := input.purpose.getD .linkVerusid
    network := "VRSCTEST"
    nonceHash := sha256 state
    requestId := hosted.challengeId
    requestDigest := hosted.presentationDigest
    pollingTokenDigest := keyedDigest service.config.pollingTokenSecret pollingToken
    audience := service.audience input.principal.trustDomain
    callbackUrl := hosted.callbackUrl
    applicationIdentityAddress := hosted.signerIdentityAddress
    consentedScopes := scopes
    issuedAt := hosted.issuedAt
    expiresAt := hosted.expiresAt }

/-- `begin`. -/
def begin (input : BeginWalletLinkInput) : LinkingProgram LinkingError WalletLinkPresentation := do
  service.requireEnabled
  LinkingProgram.ofEmail (service.rateLimiter.requireWithinLimit "wallet_link_account"
    input.principal.accountReference input.now requestWindowMs requestLimit)
  let scopes ← Program.ofExcept (normalizeScopes input.scopes)
  let state ← Program.ofExcept
    (deriveHostedState service.config.bindingSecret (service.binding input))
  let hosted ← LinkingProgram.ofHosted
    (service.hostedAuth.createChallenge (service.hostedInput input state))
  Program.throwIf (hosted.signerIdentityAddress ≠ service.config.applicationIdentityAddress ∨
    hosted.callbackUrl ≠ service.config.authServiceCallbackUrl)
    (.walletLink .authServiceIncompatible)
  let pollingToken ← LinkingProgram.ofAuth generateOpaqueToken
  let uuid : String ← LinkingCall.randomUUID.request
  let challenge := service.newChallenge input scopes state hosted pollingToken uuid
  let _ : WalletLinkChallengeRecord ← (LinkingCall.link (.createChallenge challenge
    (linkContextFor input.principal input.correlationId hosted.presentationDigest
      "wallet_link_requested"))).request
  match toISOString hosted.expiresAt with
  | none => throw .language
  | some expiresAt => return {
      challengeReference := challenge.externalReference
      network := "VRSCTEST"
      requesterIdentity := service.config.applicationIdentityAddress
      purpose := input.purpose.getD .linkVerusid
      scopes, expiresAt
      sameDeviceUrl := hosted.deepLink
      qrPayload := hosted.deepLink
      pollingToken
      operational := false
      limitations := linkLimitations }

/-- The state that a stored challenge was created with. -/
def challengeState (challenge : WalletLinkChallengeRecord) : Except LinkingError String :=
  match challenge.issuedAt with
  | some issuedAt => deriveHostedState service.config.bindingSecret
      { accountReference := challenge.accountReference
        trustDomain := challenge.trustDomain
        purpose := challenge.purpose
        audience := challenge.audience
        issuedAt
        expiresAt := challenge.expiresAt }
  | none => .error .language

/-- What `poll` asks the hosted service for.  A stored challenge without an identifier would be asked
for as `null`. -/
def resultInput (challenge : WalletLinkChallengeRecord) (issuedAt : ℤ) (state : String) (now : ℤ) :
    GetHostedResultInput :=
  { challengeId := challenge.requestId.getD "null"
    state
    audience := challenge.audience
    issuedAt
    expiresAt := challenge.expiresAt
    now }

/-- The completion of a challenge. -/
def completion (challenge : WalletLinkChallengeRecord) (identityAddress proofDigest : String)
    (identity : LinkedIdentityReadback) (now : ℤ) : CompleteWalletLinkChallengeInput :=
  { requestId := challenge.requestId.getD "null"
    responseDigest := proofDigest
    identityAddress
    displayNameSnapshot := AuthServices.nonEmpty identity.fullyQualifiedName
    proofDigest
    proofMethod := "hosted_verusid_login_consent_v1"
    requestSignerIdentity := challenge.applicationIdentityAddress
    observedIdentityStatus := identity.status
    observedIdentityBlockHeight := identity.blockHeight
    observedIdentityTxid := identity.transactionId
    completedAt := now }

/-- `acknowledgeHostedResult`, with the attempts that are left. -/
def acknowledgeHostedResult (challengeId proofDigest : String) :
    ℕ → Program LinkingCall LinkingCall.Answer Unit
  | 0 => pure ()
  | attempts + 1 => do
    match ← (HostedAuthHttpConfig.acknowledgeResult challengeId proofDigest).run with
    | Except.ok _ => return ()
    | Except.error _ => acknowledgeHostedResult challengeId proofDigest attempts

/-- The part of `poll` after the hosted service has verified a login. -/
def link (input : PollInput) (challenge : WalletLinkChallengeRecord)
    (identityAddress proofDigest : String) : LinkingProgram LinkingError Unit := do
  let readback : Except VerusIntegrationError (VerusInfo × LinkedIdentityReadback) ←
    (LinkingCall.readback identityAddress).request
  let (info, identity) ← Program.ofExcept (readback.mapError .verus)
  Program.ofExcept (validateReadbackChain info)
  Program.ofExcept (validateLinkedIdentity identity identityAddress)
  let completed : WalletLinkCompletion ← (LinkingCall.link (.completeChallenge
    (completion challenge identityAddress proofDigest identity input.now)
    (linkContextFor input.principal input.correlationId proofDigest
      "wallet_link_verified"))).request
  Program.throwIf (completed = .expired) (.walletLink .challengeExpired)
  ExceptT.lift (acknowledgeHostedResult (challenge.requestId.getD "null") proofDigest 3)

/-- `poll`. -/
def poll (input : PollInput) : LinkingProgram LinkingError WalletLinkPollResult := do
  service.requireEnabled
  let tokenDigest := keyedDigest service.config.pollingTokenSecret input.pollingToken
  let context := linkContextFor input.principal input.correlationId tokenDigest "wallet_link_polled"
  let pollChallenge := LinkingCall.link
    (.pollChallenge input.principal.accountReference tokenDigest input.now context)
  let current : WalletLinkPollResult ← pollChallenge.request
  if current.state ≠ .presented then return current
  else
    let challenge : WalletLinkChallengeRecord ← (LinkingCall.link
      (.challengeForPoll input.principal.accountReference tokenDigest)).request
    let state ← Program.ofExcept (service.challengeState challenge)
    Program.throwIf (sha256 state ≠ challenge.nonceHash) (.walletLink .invalidRequest)
    let result ← LinkingProgram.ofHosted (service.hostedAuth.getResult
      (resultInput challenge (challenge.issuedAt.getD 0) state input.now))
    match result with
    | .pending => return current
    | .verified identityAddress _ proofDigest _ _ =>
      link input challenge identityAddress proofDigest
      pollChallenge.request

/-- The input of `unlink` and of `cancel`, with the reference of the link or the challenge. -/
structure ReferenceInput where
  principal : WalletLinkPrincipal
  reference : String
  now : ℤ
  correlationId : String

/-- `unlink`. -/
def unlink (input : ReferenceInput) : LinkingProgram LinkingError Unit := do
  service.requireEnabled
  (LinkingCall.link (.unlink input.principal.accountReference input.reference input.now
    (linkContextFor input.principal input.correlationId (sha256 input.reference)
      "wallet_link_unlinked"))).request

/-- `cancel`. -/
def cancel (input : ReferenceInput) : LinkingProgram LinkingError Unit := do
  service.requireEnabled
  (LinkingCall.link (.cancelChallenge input.principal.accountReference input.reference input.now
    (linkContextFor input.principal input.correlationId (sha256 input.reference)
      "wallet_link_cancelled"))).request

end WalletLinkService

end ChecksAndBalances
