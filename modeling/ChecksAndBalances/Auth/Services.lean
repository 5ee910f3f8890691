import ChecksAndBalances.Db.AuthRepository
import ChecksAndBalances.Lib.Program

/-!
# The email services

`RateLimiter`, `EmailRecoveryService` and `AccountSecurityService` of `packages/auth/src` as programs
that call the authentication repository, the source of tokens and identifiers, and the notification
sink.  A call that fails with anything but an `AuthError` ends the program.
-/

namespace ChecksAndBalances

open Lib

/-! ## Errors -/

/-- `AuthErrorCode`. -/
inductive AuthErrorCode where
  | authenticationRequired
  | authenticationFailed
  | authorizationDenied
  | challengeExpired
  | challengeReplayed
  | consentInvalid
  | originRejected
  | policyRequired
  | rateLimited
  | reauthenticationRequired
  | sessionExpired
  | sessionRevoked
  deriving DecidableEq, Repr

/-- `publicMessages`, the text of an `AuthError`. -/
def AuthErrorCode.publicMessage : AuthErrorCode → String
  | authenticationRequired => "Authentication is required."
  | authenticationFailed => "The authentication attempt could not be completed."
  | authorizationDenied => "This action is not permitted."
  | challengeExpired => "The authentication request expired. Start again."
  | challengeReplayed => "The authentication request is no longer available. Start again."
  | consentInvalid => "A separate, explicit choice is required."
  | originRejected => "The request origin was rejected."
  | policyRequired => "A current required policy must be acknowledged."
  | rateLimited => "Too many attempts. Try again later."
  | reauthenticationRequired => "Confirm your identity again to continue."
  | sessionExpired => "The session expired. Sign in again."
  | sessionRevoked => "The session is no longer active. Sign in again."

/-! ## Calls -/

/-- The methods of the stores. -/
inductive AuthStoreCall where
  | increment (input : IncrementInput)
  | findByLookupDigest (trustDomain : TrustDomain) (lookupDigest : String)
  | createChallenge (record : AuthChallengeRecord)
  | consume (input : ConsumeInput)
  | recoverAndRevokeSessions (input : RecoverInput)
  | lockAndRevokeSessions (input : LockInput)
  | changeVerifiedEmail (input : ChangeEmailInput)

/-- The type of the result. -/
def AuthStoreCall.Result : AuthStoreCall → Type
  | increment _ => ℕ
  | findByLookupDigest _ _ => Option VerifiedEmailAccount
  | createChallenge _ => Unit
  | consume _ => Option ConsumedAuthChallenge
  | recoverAndRevokeSessions _ => ℕ
  | lockAndRevokeSessions _ => ℕ
  | changeVerifiedEmail _ => ChangedEmail

/-- The transaction of the call. -/
def AuthStoreCall.exec : (call : AuthStoreCall) → DbTx call.Result
  | increment input => AuthRepository.increment input
  | findByLookupDigest trustDomain lookupDigest =>
    AuthRepository.findByLookupDigest trustDomain lookupDigest
  | createChallenge record => AuthRepository.createChallenge record
  | consume input => AuthRepository.consume input
  | recoverAndRevokeSessions input => AuthRepository.recoverAndRevokeSessions input
  | lockAndRevokeSessions input => AuthRepository.lockAndRevokeSessions input
  | changeVerifiedEmail input => AuthRepository.changeVerifiedEmail input

/-- The kinds of `SecurityNotification`. -/
inductive SecurityNotificationKind where
  | emailSignInRequested
  | accountRecoveryRequested
  | accountRecovered
  | sessionsRevoked
  | accountLocked
  | emailChangeRequested
  | emailChanged
  deriving DecidableEq, Repr

/-- `SecurityNotification`. -/
structure SecurityNotification where
  accountReference : String
  destinationReference : String
  kind : SecurityNotificationKind
  secret : Option String := none
  expiresAt : Option ℤ := none
  deriving DecidableEq, Repr

/-- The calls to the host. -/
inductive AuthHostCall where
  | generateOpaqueToken
  | newId
  | enqueue (notification : SecurityNotification)

/-- The type of the answer. -/
def AuthHostCall.Answer : AuthHostCall → Type
  | generateOpaqueToken => String
  | newId => Uuid
  | enqueue _ => Unit

/-- The calls of the services. -/
inductive AuthCall where
  | store (call : AuthStoreCall)
  | host (call : AuthHostCall)

/-- The type of the answer. -/
def AuthCall.Answer : AuthCall → Type
  | store call => call.Result
  | host call => call.Answer

/-- A service method that returns a value or throws an `AuthError`. -/
abbrev AuthProgram (α : Type) := ExceptT AuthErrorCode (Program AuthCall AuthCall.Answer) α

/-- A store call. -/
def AuthStoreCall.request (call : AuthStoreCall) : AuthProgram call.Result :=
  ExceptT.lift (Program.request (AuthCall.store call) : Program AuthCall AuthCall.Answer _)

/-- A call to the host. -/
def AuthHostCall.request (call : AuthHostCall) : AuthProgram call.Answer :=
  ExceptT.lift (Program.request (AuthCall.host call) : Program AuthCall AuthCall.Answer _)

/-! ## Digests -/

/-- `keyedDigest`. -/
def keyedDigest (secret value : String) : String :=
  Lib.Sha256.hmac secret.toUTF8.data.toList value.toUTF8.data.toList

/-- What the services are constructed with. -/
structure AuthServices where
  /-- The keys of the trust domains. -/
  secrets : TrustDomain → String
  /-- The key of the rate limiter. -/
  rateLimitSecret : String
  /-- `email.trim().normalize("NFKC").toLocaleLowerCase("en-US")`. -/
  normalizeEmail : String → String

namespace AuthServices

variable (services : AuthServices)

/-- `normalizeEmailForLookup`. -/
def normalizeEmailForLookup (email secret : String) : String :=
  keyedDigest secret (services.normalizeEmail email)

/-! ## The rate limiter -/

/-- `requireWithinLimit`. -/
def requireWithinLimit (bucket opaqueSubject : String) (now windowMs : ℤ) (limit : ℕ) :
    AuthProgram Unit := do
  let windowNumber := now / windowMs
  let windowStartedAt := windowNumber * windowMs
  let keyDigest := keyedDigest services.rateLimitSecret
    (bucket ++ ":" ++ opaqueSubject ++ ":" ++ toString windowNumber)
  let count : ℕ ← (AuthStoreCall.increment
    { keyDigest, bucket, windowStartedAt, expiresAt := windowStartedAt + windowMs }).request
  if limit < count then throw .rateLimited

/-! ## Email sign-in and recovery -/

/-- The kinds of challenge that `begin` creates. -/
inductive EmailChallengeKind where
  | emailSignIn
  | accountRecovery
  deriving DecidableEq, Repr

/-- The kind of the stored challenge. -/
def EmailChallengeKind.stored : EmailChallengeKind → AuthChallengeKind
  | emailSignIn => .emailSignIn
  | accountRecovery => .accountRecovery

/-- The prefix of the rate limits. -/
def EmailChallengeKind.limitName : EmailChallengeKind → String
  | emailSignIn => "login"
  | accountRecovery => "recovery"

/-- The kind of the notification. -/
def EmailChallengeKind.notification : EmailChallengeKind → SecurityNotificationKind
  | emailSignIn => .emailSignInRequested
  | accountRecovery => .accountRecoveryRequested

/-- The input of `begin`. -/
structure BeginInput where
  kind : EmailChallengeKind
  trustDomain : TrustDomain
  email : String
  networkReference : String
  now : ℤ
  lifetimeMs : ℤ

/-- `GenericChallengeResponse`. -/
structure GenericChallengeResponse where
  accepted : Bool
  message : String
  deriving DecidableEq, Repr

/-- `genericResponse`. -/
def genericResponse : GenericChallengeResponse :=
  { accepted := true, message := "If the account is eligible, instructions will be sent." }

/-- The account may begin: a sign-in by email is for active participants, a recovery also for locked
accounts. -/
def BeginInput.eligible (input : BeginInput) (account : VerifiedEmailAccount) : Bool :=
  match input.kind with
  | .emailSignIn => input.trustDomain = .participant && account.accountState = .active
  | .accountRecovery => account.accountState = .active || account.accountState = .locked

/-- `EmailRecoveryService.begin`. -/
def begin (input : BeginInput) : AuthProgram GenericChallengeResponse := do
  let secret := services.secrets input.trustDomain
  let lookupDigest := services.normalizeEmailForLookup input.email secret
  services.requireWithinLimit (input.kind.limitName ++ "_network") input.networkReference input.now
    (15 * 60000) 20
  let limited ← ExceptT.lift (services.requireWithinLimit (input.kind.limitName ++ "_account")
    lookupDigest input.now (15 * 60000) 5).run
  match limited with
  | .error .rateLimited => return genericResponse
  | .error error => throw error
  | .ok () =>
    let found ← (AuthStoreCall.findByLookupDigest input.trustDomain lookupDigest).request
    match found.filter (BeginInput.eligible input) with
    | none => return genericResponse
    | some account =>
      let token ← AuthHostCall.generateOpaqueToken.request
      let expiresAt := input.now + input.lifetimeMs
      let id ← AuthHostCall.newId.request
      (AuthStoreCall.createChallenge
        { id
          accountReference := some account.accountReference
          trustDomain := input.trustDomain
          kind := input.kind.stored
          secretDigest := keyedDigest secret token
          destinationReference := some account.destinationReference
          lookupDigest := none
          expiresAt
          createdAt := input.now }).request
      (AuthHostCall.enqueue
        { accountReference := account.accountReference
          destinationReference := account.destinationReference
          kind := input.kind.notification
          secret := some token
          expiresAt := some expiresAt }).request
      return genericResponse

/-- The input of `completeEmailSignIn`. -/
structure SignInInput where
  trustDomain : TrustDomain
  token : String
  now : ℤ

/-- A column that holds a non-empty text. -/
def nonEmpty (value : Option String) : Option String := value.filter fun s => s != ""

theorem nonEmpty_eq_some {value : Option String} {text : String}
    (h : nonEmpty value = some text) : value = some text :=
  (Option.filter_eq_some_iff.1 h).1

/-- `EmailRecoveryService.completeEmailSignIn`; the value is the account reference. -/
def completeEmailSignIn (input : SignInInput) : AuthProgram String := do
  let challenge ← (AuthStoreCall.consume
    { secretDigest := some (keyedDigest (services.secrets input.trustDomain) input.token)
      kind := .emailSignIn
      trustDomain := input.trustDomain
      atTime := input.now }).request
  match challenge.bind fun c => nonEmpty c.accountReference with
  | none => throw .authenticationFailed
  | some accountReference =>
    if input.trustDomain = .committee then throw .authenticationFailed
    return accountReference

/-- The input of `completeRecovery`. -/
structure RecoveryInput where
  trustDomain : TrustDomain
  token : String
  now : ℤ
  grantLifetimeMs : ℤ
  policyVersionReference : String
  softwareVersion : String
  correlationId : String

/-- The result of `completeRecovery`. -/
structure RecoveryResult where
  accountReference : String
  recoveryGrant : Option String
  committeeReviewRequired : Bool
  deriving DecidableEq, Repr

/-- The account and the destination of a consumed challenge. -/
def accountAndDestination (challenge : Option ConsumedAuthChallenge) : Option (String × String) := do
  let c ← challenge
  let accountReference ← nonEmpty c.accountReference
  let destinationReference ← nonEmpty c.destinationReference
  return (accountReference, destinationReference)

/-- `EmailRecoveryService.completeRecovery`. -/
def completeRecovery (input : RecoveryInput) : AuthProgram RecoveryResult := do
  let secret := services.secrets input.trustDomain
  let challenge ← (AuthStoreCall.consume
    { secretDigest := some (keyedDigest secret input.token)
      kind := .accountRecovery
      trustDomain := input.trustDomain
      atTime := input.now }).request
  match accountAndDestination challenge with
  | none => throw .authenticationFailed
  | some (accountReference, destinationReference) =>
    let committeeReviewRequired := input.trustDomain = .committee
    let _ ← (AuthStoreCall.recoverAndRevokeSessions
      { accountReference
        trustDomain := input.trustDomain
        committeeReviewRequired
        destinationReference
        policyVersionReference := input.policyVersionReference
        softwareVersion := input.softwareVersion
        correlationId := input.correlationId
        atTime := input.now }).request
    (AuthHostCall.enqueue
      { accountReference, destinationReference, kind := .accountRecovered }).request
    if committeeReviewRequired then
      return { accountReference, recoveryGrant := none, committeeReviewRequired := true }
    let recoveryGrant ← AuthHostCall.generateOpaqueToken.request
    let id ← AuthHostCall.newId.request
    (AuthStoreCall.createChallenge
      { id
        accountReference := some accountReference
        trustDomain := input.trustDomain
        kind := .recoveryGrant
        secretDigest := keyedDigest secret recoveryGrant
        destinationReference := none
        lookupDigest := none
        expiresAt := input.now + input.grantLifetimeMs
        createdAt := input.now }).request
    return { accountReference, recoveryGrant := some recoveryGrant
             committeeReviewRequired := false }

/-- `EmailRecoveryService.consumeRecoveryGrant`; the value is the account reference. -/
def consumeRecoveryGrant (input : SignInInput) : AuthProgram String := do
  let challenge ← (AuthStoreCall.consume
    { secretDigest := some (keyedDigest (services.secrets input.trustDomain) input.token)
      kind := .recoveryGrant
      trustDomain := input.trustDomain
      atTime := input.now }).request
  match challenge.bind fun c => nonEmpty c.accountReference with
  | none => throw .authenticationFailed
  | some accountReference => return accountReference

/-! ## Account security -/

/-- The input of `lockAccount`. -/
structure LockAccountInput where
  accountReference : String
  trustDomain : TrustDomain
  destinationReference : String
  reasonCategory : String
  context : SecurityMutationContext
  now : ℤ

/-- `AccountSecurityService.lockAccount`. -/
def lockAccount (input : LockAccountInput) : AuthProgram ℕ := do
  let revoked ← (AuthStoreCall.lockAndRevokeSessions
    { accountReference := input.accountReference
      trustDomain := input.trustDomain
      reasonCategory := input.reasonCategory
      context := input.context
      atTime := input.now }).request
  (AuthHostCall.enqueue
    { accountReference := input.accountReference
      destinationReference := input.destinationReference
      kind := .accountLocked }).request
  return revoked

/-- The input of `beginEmailChange`. -/
structure BeginEmailChangeInput where
  accountReference : String
  trustDomain : TrustDomain
  newEmail : String
  newDestinationReference : String
  recentlyReauthenticated : Bool
  now : ℤ
  lifetimeMs : ℤ

/-- `AccountSecurityService.beginEmailChange`. -/
def beginEmailChange (input : BeginEmailChangeInput) : AuthProgram Unit := do
  if !input.recentlyReauthenticated then throw .reauthenticationRequired
  let token ← AuthHostCall.generateOpaqueToken.request
  let expiresAt := input.now + input.lifetimeMs
  let id ← AuthHostCall.newId.request
  (AuthStoreCall.createChallenge
    { id
      accountReference := some input.accountReference
      trustDomain := input.trustDomain
      kind := .emailChange
      secretDigest := keyedDigest (services.secrets input.trustDomain) token
      destinationReference := some input.newDestinationReference
      lookupDigest := some (services.normalizeEmailForLookup input.newEmail
        (services.secrets input.trustDomain))
      expiresAt
      createdAt := input.now }).request
  (AuthHostCall.enqueue
    { accountReference := input.accountReference
      destinationReference := input.newDestinationReference
      kind := .emailChangeRequested
      secret := some token
      expiresAt := some expiresAt }).request

/-- The input of `confirmEmailChange`. -/
structure ConfirmEmailChangeInput where
  trustDomain : TrustDomain
  token : String
  context : SecurityMutationContext
  now : ℤ

/-- The account, the new destination and its lookup digest of a consumed challenge. -/
def emailChange (challenge : Option ConsumedAuthChallenge) : Option (String × String × String) := do
  let c ← challenge
  let accountReference ← nonEmpty c.accountReference
  let destinationReference ← nonEmpty c.destinationReference
  let lookupDigest ← nonEmpty c.lookupDigest
  return (accountReference, destinationReference, lookupDigest)

/-- `AccountSecurityService.confirmEmailChange`. -/
def confirmEmailChange (input : ConfirmEmailChangeInput) : AuthProgram Unit := do
  let challenge ← (AuthStoreCall.consume
    { secretDigest := some (keyedDigest (services.secrets input.trustDomain) input.token)
      kind := .emailChange
      trustDomain := input.trustDomain
      atTime := input.now }).request
  match emailChange challenge with
  | none => throw .authenticationFailed
  | some (accountReference, newDestinationReference, newLookupDigest) =>
    let result ← (AuthStoreCall.changeVerifiedEmail
      { accountReference
        trustDomain := input.trustDomain
        newDestinationReference
        newLookupDigest
        context := input.context
        atTime := input.now }).request
    (result.oldDestinationReferences ++ [newDestinationReference]).forM fun destinationReference =>
      (AuthHostCall.enqueue
        { accountReference, destinationReference, kind := .emailChanged }).request

end AuthServices

end ChecksAndBalances
