import ChecksAndBalances.Auth.Services
import ChecksAndBalances.Db.CommitteeAccess
import ChecksAndBalances.Db.PasskeyStore
import ChecksAndBalances.Db.SessionStore

/-!
# The calls of the authentication services

`SessionService` and `PasskeyService` of `packages/auth/src` call further methods of the repository
and the WebAuthn adapter.  A WebAuthn response is opaque but for its identifier, and the options of a
ceremony but for their challenge.
-/

namespace ChecksAndBalances

open Lib

/-! ## Store calls -/

/-- The methods of `SessionStore`. -/
inductive SessionStoreCall where
  | create (record : SessionRecord)
  | findByTokenDigest (trustDomain : TrustDomain) (tokenDigest : String)
  | revoke (sessionId : Uuid) (reasonCategory : String) (atTime : ℤ)
  | revokeAll (accountReference : String) (trustDomain : TrustDomain) (reasonCategory : String)
      (atTime : ℤ)
  | touch (sessionId : Uuid) (idleExpiresAt atTime : ℤ)

/-- The type of the result. -/
def SessionStoreCall.Result : SessionStoreCall → Type
  | create _ => Unit
  | findByTokenDigest _ _ => Option SessionRecord
  | revoke _ _ _ => Unit
  | revokeAll _ _ _ _ => ℕ
  | touch _ _ _ => Unit

/-- The transaction of the call. -/
def SessionStoreCall.exec (sessionKeyVersions : TrustDomain → String) :
    (call : SessionStoreCall) → DbTx call.Result
  | create record => AuthRepository.createSession sessionKeyVersions record
  | findByTokenDigest trustDomain tokenDigest =>
    AuthRepository.findByTokenDigest trustDomain tokenDigest
  | revoke sessionId reasonCategory atTime =>
    AuthRepository.revoke sessionId reasonCategory atTime
  | revokeAll accountReference trustDomain reasonCategory atTime =>
    AuthRepository.revokeAll accountReference trustDomain reasonCategory atTime
  | touch sessionId idleExpiresAt atTime => AuthRepository.touch sessionId idleExpiresAt atTime

/-- The methods of `PasskeyRepository`. -/
inductive PasskeyStoreCall where
  | listActive (accountReference : String) (trustDomain : TrustDomain)
  | findActive (credentialReference : String) (trustDomain : TrustDomain)
  | save (credential : StoredPasskeyCredential) (createdAt : ℤ)
  | updateUsage (input : PasskeyUsage)
  | revokeCredential (credentialReference accountReference : String) (revokedAt : ℤ)

/-- The type of the result. -/
def PasskeyStoreCall.Result : PasskeyStoreCall → Type
  | listActive _ _ => List StoredPasskeyCredential
  | findActive _ _ => Option StoredPasskeyCredential
  | save _ _ => Unit
  | updateUsage _ => Unit
  | revokeCredential _ _ _ => Unit

/-- The transaction of the call. -/
def PasskeyStoreCall.exec : (call : PasskeyStoreCall) → DbTx call.Result
  | listActive accountReference trustDomain =>
    AuthRepository.listActive accountReference trustDomain
  | findActive credentialReference trustDomain =>
    AuthRepository.findActive credentialReference trustDomain
  | save credential createdAt => AuthRepository.save credential createdAt
  | updateUsage input => AuthRepository.updateUsage input
  | revokeCredential credentialReference accountReference revokedAt =>
    AuthRepository.revokeCredential credentialReference accountReference revokedAt

/-- The methods that set up accounts and committee access. -/
inductive AccountStoreCall where
  | createAccount (input : CreateAuthAccountInput)
  | registerVerifiedEmail (input : RegisterVerifiedEmailInput)
  | inviteCommittee (input : CommitteeInvitationInput)
  | approveCommittee (input : CommitteeApprovalInput)
  | activateCommittee (input : CommitteeActivationInput)

/-- The transaction of the call. -/
def AccountStoreCall.exec : AccountStoreCall → DbTx Unit
  | createAccount input => AuthRepository.createAccount input
  | registerVerifiedEmail input => AuthRepository.registerVerifiedEmail input
  | inviteCommittee input => AuthRepository.inviteCommittee input
  | approveCommittee input => AuthRepository.approveCommittee input
  | activateCommittee input => AuthRepository.activateCommittee input

/-! ## WebAuthn -/

/-- The options of a ceremony, of which the service reads the challenge. -/
structure CeremonyOptionsJSON where
  challenge : String
  rest : String
  deriving DecidableEq, Repr

/-- `RegistrationResponseJSON` and `AuthenticationResponseJSON`. -/
structure CredentialResponseJSON where
  id : String
  rest : String
  deriving DecidableEq, Repr

/-- The input of `generateRegistrationOptions`. -/
structure RegistrationOptionsInput where
  rpName : String
  rpID : String
  userName : String
  userDisplayName : String
  userID : List UInt8
  attestationType : String
  excludeCredentials : List (String × List String)
  residentKey : String
  userVerification : String

/-- The input of `verifyRegistrationResponse`. -/
structure RegistrationVerificationInput where
  response : CredentialResponseJSON
  expectedChallenge : String → Bool
  expectedOrigin : String
  expectedRPID : String
  requireUserPresence : Bool
  requireUserVerification : Bool

/-- The `registrationInfo` of a verified registration. -/
structure RegistrationInfo where
  credentialId : String
  publicKey : List UInt8
  counter : ℤ
  transports : Option (List String)
  credentialDeviceType : CredentialDeviceType
  credentialBackedUp : Bool
  deriving DecidableEq, Repr

/-- The credential that a response is verified against. -/
structure VerificationCredential where
  id : String
  publicKey : List UInt8
  counter : ℤ
  transports : List String
  deriving DecidableEq, Repr

/-- The input of `verifyAuthenticationResponse`. -/
structure AuthenticationVerificationInput where
  response : CredentialResponseJSON
  expectedChallenge : String → Bool
  expectedOrigin : String
  expectedRPID : String
  credential : VerificationCredential
  requireUserVerification : Bool

/-- `VerifiedAuthenticationResponse`. -/
structure VerifiedAuthenticationResponse where
  verified : Bool
  newCounter : ℤ
  userVerified : Bool
  credentialDeviceType : CredentialDeviceType
  credentialBackedUp : Bool
  deriving DecidableEq, Repr

/-- The methods of `WebAuthnAdapter`. -/
inductive WebAuthnCall where
  | generateRegistrationOptions (input : RegistrationOptionsInput)
  | generateAuthenticationOptions (rpID userVerification : String)
  | verifyRegistrationResponse (input : RegistrationVerificationInput)
  | verifyAuthenticationResponse (input : AuthenticationVerificationInput)

/-- The type of the answer.  A verification that throws answers `none`; a registration that is not
verified carries no information. -/
def WebAuthnCall.Answer : WebAuthnCall → Type
  | generateRegistrationOptions _ => CeremonyOptionsJSON
  | generateAuthenticationOptions _ _ => CeremonyOptionsJSON
  | verifyRegistrationResponse _ => Option (Option RegistrationInfo)
  | verifyAuthenticationResponse _ => Option VerifiedAuthenticationResponse

/-! ## Configuration -/

/-- `TrustDomainConfig`. -/
structure TrustDomainConfig where
  audience : String
  sessionSecret : String
  idleTimeoutMs : ℤ
  absoluteTimeoutMs : ℤ

/-- `PasskeyDomainConfig`. -/
structure PasskeyDomainConfig where
  relyingPartyName : String
  relyingPartyId : String
  origin : String
  challengeSecret : String
  challengeLifetimeMs : ℤ

/-- What the services and the repository are constructed with. -/
structure AuthConfig where
  email : AuthServices
  sessions : TrustDomain → TrustDomainConfig
  passkeys : TrustDomain → PasskeyDomainConfig
  sessionKeyVersions : TrustDomain → String

/-! ## Service calls -/

/-- The calls of all services. -/
inductive ServiceCall where
  | email (call : AuthCall)
  | session (call : SessionStoreCall)
  | passkey (call : PasskeyStoreCall)
  | account (call : AccountStoreCall)
  | webAuthn (call : WebAuthnCall)

namespace ServiceCall

/-- The type of the answer. -/
def Answer : ServiceCall → Type
  | email call => call.Answer
  | session call => call.Result
  | passkey call => call.Result
  | account _ => Unit
  | webAuthn call => call.Answer

/-- The transaction of a store call. -/
def exec (config : AuthConfig) : (call : ServiceCall) → Option (DbTx call.Answer)
  | email (.store call) => some call.exec
  | email (.host _) => none
  | session call => some (call.exec config.sessionKeyVersions)
  | passkey call => some call.exec
  | account call => some call.exec
  | webAuthn _ => none

end ServiceCall

/-- A service method that returns a value or throws an `AuthError`. -/
abbrev ServiceProgram (α : Type) :=
  ExceptT AuthErrorCode (Program ServiceCall ServiceCall.Answer) α

/-- A call of a service. -/
def ServiceCall.request (call : ServiceCall) : ServiceProgram call.Answer :=
  ExceptT.lift (Program.request call : Program ServiceCall ServiceCall.Answer _)

/-- `consume` of the challenge store. -/
def consumeChallenge (input : ConsumeInput) : ServiceProgram (Option ConsumedAuthChallenge) :=
  (ServiceCall.email (.store (.consume input))).request

/-- `create` of the challenge store. -/
def createAuthChallenge (record : AuthChallengeRecord) : ServiceProgram Unit :=
  (ServiceCall.email (.store (.createChallenge record))).request

/-- `generateOpaqueToken`. -/
def generateOpaqueToken : ServiceProgram String :=
  (ServiceCall.email (.host .generateOpaqueToken)).request

/-- `newId` of the services. -/
def newServiceId : ServiceProgram Uuid := (ServiceCall.email (.host .newId)).request

end ChecksAndBalances
