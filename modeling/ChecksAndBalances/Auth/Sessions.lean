import ChecksAndBalances.Auth.Calls

/-!
# The session service

`SessionService` of `packages/auth/src/session.ts`, as programs over the session store.
-/

namespace ChecksAndBalances

open Lib

namespace SessionService

variable (config : AuthConfig)

/-- The input of `issue`. -/
structure IssueInput where
  accountReference : String
  trustDomain : TrustDomain
  authenticationStrength : AuthenticationStrength
  deviceLabel : String
  now : ℤ
  priorSessionId : Option Uuid

/-- `IssuedSession`. -/
structure IssuedSession where
  record : SessionRecord
  token : String
  csrfToken : String
  deriving DecidableEq, Repr

/-- The rotation of the prior session. -/
def rotate (priorSessionId : Option Uuid) (now : ℤ) : ServiceProgram Unit :=
  match priorSessionId with
  | some id => (ServiceCall.session (.revoke id "session_rotated" now)).request
  | none => pure ()

/-- The record of a new session. -/
def newRecord (input : IssueInput) (id : Uuid) (token csrfToken : String) : SessionRecord :=
  { id
    accountReference := input.accountReference
    trustDomain := input.trustDomain
    audience := (config.sessions input.trustDomain).audience
    tokenDigest := keyedDigest (config.sessions input.trustDomain).sessionSecret token
    csrfDigest := keyedDigest (config.sessions input.trustDomain).sessionSecret csrfToken
    authenticationStrength := input.authenticationStrength
    authenticatedAt := input.now
    reauthenticatedAt := if input.authenticationStrength = .passkey then some input.now else none
    idleExpiresAt := input.now + (config.sessions input.trustDomain).idleTimeoutMs
    absoluteExpiresAt := input.now + (config.sessions input.trustDomain).absoluteTimeoutMs
    revokedAt := none
    deviceLabel := input.deviceLabel }

/-- `issue`. -/
def issue (input : IssueInput) : ServiceProgram IssuedSession := do
  Program.throwIf (input.trustDomain = .committee ∧ input.authenticationStrength ≠ .passkey)
    .authenticationFailed
  rotate input.priorSessionId input.now
  let token ← generateOpaqueToken
  let csrfToken ← generateOpaqueToken
  let id ← newServiceId
  let record := newRecord config input id token csrfToken
  (ServiceCall.session (.create record)).request
  return { record, token, csrfToken }

/-- The input of `authenticate`. -/
structure AuthenticateInput where
  trustDomain : TrustDomain
  token : Option String
  now : ℤ

/-- The idle limit after an authentication. -/
def nextIdle (input : AuthenticateInput) (record : SessionRecord) : ℤ :=
  min (input.now + (config.sessions input.trustDomain).idleTimeoutMs) record.absoluteExpiresAt

/-- `authenticate`. -/
def authenticate (input : AuthenticateInput) : ServiceProgram SessionRecord := do
  match AuthServices.nonEmpty input.token with
  | none => throw .authenticationRequired
  | some token =>
    let digest := keyedDigest (config.sessions input.trustDomain).sessionSecret token
    let stored ← (ServiceCall.session (.findByTokenDigest input.trustDomain digest)).request
    match stored with
    | none => throw .authenticationFailed
    | some record =>
      Program.throwIf (record.audience ≠ (config.sessions input.trustDomain).audience)
        .authenticationFailed
      Program.throwIf (record.revokedAt.isSome = true) .sessionRevoked
      if record.idleExpiresAt ≤ input.now ∨ record.absoluteExpiresAt ≤ input.now then
        (ServiceCall.session (.revoke record.id "session_expired" input.now)).request
        throw .sessionExpired
      else
        (ServiceCall.session
          (.touch record.id (nextIdle config input record) input.now)).request
        return { record with idleExpiresAt := nextIdle config input record }

end SessionService

end ChecksAndBalances
