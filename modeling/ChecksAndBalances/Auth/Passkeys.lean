import ChecksAndBalances.Auth.Calls

/-!
# The passkey service

`PasskeyService` of `packages/auth/src/passkey.ts`, as programs over the passkey store, the challenge
store and the WebAuthn adapter.
-/

namespace ChecksAndBalances

open Lib

namespace PasskeyService

variable (config : AuthConfig)

/-- The values of `authorizedBy`. -/
inductive EnrolmentAuthority where
  | initialVerifiedEmail
  | recentPasskey
  | recoveryGrant
  | approvedInvitation
  deriving DecidableEq, Repr

/-- The input of `beginRegistration`. -/
structure BeginRegistrationInput where
  accountReference : String
  trustDomain : TrustDomain
  authorizedBy : EnrolmentAuthority
  now : ℤ

/-- `PasskeyRegistrationStart` and `PasskeyAuthenticationStart`. -/
structure CeremonyStart where
  challengeReference : Uuid
  options : CeremonyOptionsJSON
  deriving DecidableEq, Repr

/-- `authorizedInitialEnrollment`, for an account without active passkeys. -/
def BeginRegistrationInput.initial (input : BeginRegistrationInput) : Bool :=
  (input.trustDomain = .participant && input.authorizedBy = .initialVerifiedEmail) ||
    (input.trustDomain = .committee && input.authorizedBy = .approvedInvitation)

/-- `authorizedCredentialChange`. -/
def BeginRegistrationInput.credentialChange (input : BeginRegistrationInput) : Bool :=
  input.authorizedBy = .recentPasskey ||
    (input.trustDomain = .participant && input.authorizedBy = .recoveryGrant)

/-- The options of the registration ceremony. -/
def registrationOptions (input : BeginRegistrationInput)
    (existing : List StoredPasskeyCredential) : RegistrationOptionsInput :=
  { rpName := (config.passkeys input.trustDomain).relyingPartyName
    rpID := (config.passkeys input.trustDomain).relyingPartyId
    userName := input.accountReference
    userDisplayName := ""
    userID := input.accountReference.toUTF8.data.toList
    attestationType := "none"
    excludeCredentials := existing.map fun c => (c.credentialReference, c.transports)
    residentKey := "preferred"
    userVerification := "required" }

/-- The record of a ceremony's challenge. -/
def ceremonyChallenge (kind : AuthChallengeKind) (accountReference : Option String)
    (trustDomain : TrustDomain) (now : ℤ) (id : Uuid) (options : CeremonyOptionsJSON) :
    AuthChallengeRecord :=
  { id
    accountReference
    trustDomain
    kind
    secretDigest := keyedDigest (config.passkeys trustDomain).challengeSecret options.challenge
    destinationReference := none
    lookupDigest := none
    expiresAt := now + (config.passkeys trustDomain).challengeLifetimeMs
    createdAt := now }

/-- `beginRegistration`. -/
def beginRegistration (input : BeginRegistrationInput) : ServiceProgram CeremonyStart := do
  let existing : List StoredPasskeyCredential ←
    (ServiceCall.passkey (.listActive input.accountReference input.trustDomain)).request
  Program.throwIf (¬ (existing = [] ∧ input.initial = true) ∧ ¬ input.credentialChange = true)
    .reauthenticationRequired
  let options ← (ServiceCall.webAuthn
    (.generateRegistrationOptions (registrationOptions config input existing))).request
  let challengeReference ← newServiceId
  createAuthChallenge (ceremonyChallenge config .passkeyRegistration (some input.accountReference)
    input.trustDomain input.now challengeReference options)
  return { challengeReference, options }

/-- The input of `finishRegistration`. -/
structure FinishRegistrationInput where
  trustDomain : TrustDomain
  challengeReference : Uuid
  response : CredentialResponseJSON
  deviceLabel : String
  now : ℤ

/-- `expectedChallenge` of both ceremonies. -/
def expectedChallenge (trustDomain : TrustDomain) (challenge : ConsumedAuthChallenge)
    (value : String) : Bool :=
  challenge.secretDigest = keyedDigest (config.passkeys trustDomain).challengeSecret value

/-- What the registration response is verified against. -/
def registrationVerification (input : FinishRegistrationInput)
    (challenge : ConsumedAuthChallenge) : RegistrationVerificationInput :=
  { response := input.response
    expectedChallenge := expectedChallenge config input.trustDomain challenge
    expectedOrigin := (config.passkeys input.trustDomain).origin
    expectedRPID := (config.passkeys input.trustDomain).relyingPartyId
    requireUserPresence := true
    requireUserVerification := true }

/-- The credential that a verified registration stores. -/
def registeredCredential (input : FinishRegistrationInput) (accountReference : String)
    (info : RegistrationInfo) : StoredPasskeyCredential :=
  { credentialReference := info.credentialId
    accountReference
    trustDomain := input.trustDomain
    relyingPartyId := (config.passkeys input.trustDomain).relyingPartyId
    publicKey := info.publicKey
    counter := info.counter
    transports := info.transports.getD []
    deviceType := info.credentialDeviceType
    backedUp := info.credentialBackedUp
    deviceLabel := input.deviceLabel
    state := .active }

/-- `finishRegistration`. -/
def finishRegistration (input : FinishRegistrationInput) :
    ServiceProgram StoredPasskeyCredential := do
  let consumed ← consumeChallenge
    { challengeId := some input.challengeReference
      kind := .passkeyRegistration
      trustDomain := input.trustDomain
      atTime := input.now }
  match consumed with
  | none => throw .challengeReplayed
  | some challenge =>
    match AuthServices.nonEmpty challenge.accountReference with
    | none => throw .challengeReplayed
    | some accountReference =>
      let result ← (ServiceCall.webAuthn
        (.verifyRegistrationResponse (registrationVerification config input challenge))).request
      match Option.join result with
      | none => throw .authenticationFailed
      | some info =>
        let credential := registeredCredential config input accountReference info
        (ServiceCall.passkey (.save credential input.now)).request
        return credential

/-- The input of `beginAuthentication`. -/
structure BeginAuthenticationInput where
  trustDomain : TrustDomain
  now : ℤ

/-- `beginAuthentication`. -/
def beginAuthentication (input : BeginAuthenticationInput) : ServiceProgram CeremonyStart := do
  let options ← (ServiceCall.webAuthn (.generateAuthenticationOptions
    (config.passkeys input.trustDomain).relyingPartyId "required")).request
  let challengeReference ← newServiceId
  createAuthChallenge (ceremonyChallenge config .passkeyAuthentication none input.trustDomain
    input.now challengeReference options)
  return { challengeReference, options }

/-- The input of `finishAuthentication`. -/
structure FinishAuthenticationInput where
  trustDomain : TrustDomain
  challengeReference : Uuid
  response : CredentialResponseJSON
  now : ℤ

/-- What `finishAuthentication` returns. -/
structure AuthenticatedPasskey where
  accountReference : String
  credentialReference : String
  deriving DecidableEq, Repr

/-- What the authentication response is verified against. -/
def authenticationVerification (input : FinishAuthenticationInput)
    (challenge : ConsumedAuthChallenge) (credential : StoredPasskeyCredential) :
    AuthenticationVerificationInput :=
  { response := input.response
    expectedChallenge := expectedChallenge config input.trustDomain challenge
    expectedOrigin := (config.passkeys input.trustDomain).origin
    expectedRPID := (config.passkeys input.trustDomain).relyingPartyId
    credential :=
      { id := credential.credentialReference
        publicKey := credential.publicKey
        counter := credential.counter
        transports := credential.transports }
    requireUserVerification := true }

/-- The usage that a verified authentication stores. -/
def passkeyUsage (input : FinishAuthenticationInput) (credential : StoredPasskeyCredential)
    (result : VerifiedAuthenticationResponse) : PasskeyUsage :=
  { credentialReference := credential.credentialReference
    counter := result.newCounter
    deviceType := result.credentialDeviceType
    backedUp := result.credentialBackedUp
    usedAt := input.now }

/-- `finishAuthentication`. -/
def finishAuthentication (input : FinishAuthenticationInput) :
    ServiceProgram AuthenticatedPasskey := do
  let consumed ← consumeChallenge
    { challengeId := some input.challengeReference
      kind := .passkeyAuthentication
      trustDomain := input.trustDomain
      atTime := input.now }
  match consumed with
  | none => throw .challengeReplayed
  | some challenge =>
    let stored ← (ServiceCall.passkey (.findActive input.response.id input.trustDomain)).request
    match stored with
    | none => throw .authenticationFailed
    | some credential =>
      Program.throwIf
        (credential.relyingPartyId ≠ (config.passkeys input.trustDomain).relyingPartyId)
        .authenticationFailed
      let verification ← (ServiceCall.webAuthn (.verifyAuthenticationResponse
        (authenticationVerification config input challenge credential))).request
      match verification with
      | none => throw .authenticationFailed
      | some result =>
        Program.throwIf (result.verified = false ∨ result.userVerified = false)
          .authenticationFailed
        (ServiceCall.passkey (.updateUsage (passkeyUsage input credential result))).request
        return { accountReference := credential.accountReference
                 credentialReference := credential.credentialReference }

/-- The input of `revokeCredential`. -/
structure RevokeCredentialInput where
  credentialReference : String
  accountReference : String
  trustDomain : TrustDomain
  recentlyReauthenticated : Bool
  alternateRecoveryAvailable : Bool
  now : ℤ

/-- `revokeCredential`. -/
def revokeCredential (input : RevokeCredentialInput) : ServiceProgram Unit := do
  Program.throwIf (input.recentlyReauthenticated = false) .reauthenticationRequired
  let active : List StoredPasskeyCredential ←
    (ServiceCall.passkey (.listActive input.accountReference input.trustDomain)).request
  Program.throwIf (active.length ≤ 1 ∧ input.alternateRecoveryAvailable = false)
    .authorizationDenied
  (ServiceCall.passkey
    (.revokeCredential input.credentialReference input.accountReference input.now)).request

end PasskeyService

end ChecksAndBalances
