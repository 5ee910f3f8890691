import ChecksAndBalances.Db.Repository
import ChecksAndBalances.Hosted.Store
import ChecksAndBalances.Lib.Program

/-!
# The routes of the hosted service

`contract.js`, `config.js`, `verus-verify.js` and the routes of `app.js` under
`services/verusid/src`.  A route reads the clock, calls the store and asks its host: the wallet SDK,
the chain and the random generator.  The signing of a token is a parameter; it happens at the time
that the route has read last.
-/

namespace ChecksAndBalances

open Lib

/-! ## Contract and configuration -/

/-- The characters of base 58. -/
def isBase58 (c : Char) : Bool :=
  ('1' ≤ c && c ≤ '9') || (isUpper c && c != 'I' && c != 'O') || (isLower c && c != 'l')

/-- `IADDRESS_PATTERN`, `^i[1-9A-HJ-NP-Za-km-z]{24,34}$`. -/
def iaddressPattern (value : String) : Bool := matchesCode (· == 'i') isBase58 24 34 value

/-- `STATE_PATTERN`, `^[A-Za-z0-9_-]{32,128}$`. -/
def statePattern (value : String) : Bool :=
  32 ≤ value.toList.length && value.toList.length ≤ 128 &&
    value.toList.all fun c => isUpper c || isLower c || isDigit c || c == '_' || c == '-'

/-- `PURPOSES`. -/
def hostedPurposes : List String := ["link_verusid", "revalidate_verusid"]

/-- `REQUESTED_ACCESS`. -/
def requestedAccess : List String := ["identity_view"]

/-- `NETWORK`. -/
def hostedNetwork : String := "VRSCTEST"

/-- `loadConfig`, as far as the routes read it; only the secret differs between deployments. -/
structure HostedConfig where
  jwtSecret : String
  chainId : String := "iJhCezBExJHvtyH3fGhNnt2NhU4Ztkf2yq"
  signingIdentity : String := "iBN1aqx6nYhm71h9UkGsW9mhU6trADx4WP"
  callbackUrl : String := "https://auth.checksandbalances.services/verusidlogin"
  contractVersion : String := "cbc-verusid-auth.v1"
  jwtIssuer : String := "checks-and-balances-verusid-auth"
  allowedAudiences : List String := ["cbc-participant-app", "cbc-committee-console"]
  challengeLifetimeMs : ℤ := 5 * 60000
  resultTokenMaxLifetimeSeconds : ℤ := 120

/-- `PublicError`; any other error is answered as `serviceUnavailable`. -/
structure PublicError where
  status : ℕ
  message : String
  deriving DecidableEq, Repr

def serviceUnavailable : PublicError := { status := 503, message := "Service unavailable" }

/-- The options of `jwt.sign`. -/
structure SignOptions where
  algorithm : String
  audience : String
  expiresIn : ℤ
  issuer : String
  jwtid : String
  typ : String

/-- `jsonwebtoken`. -/
class TokenSigner where
  /-- `jwt.sign` of a payload with a secret, at a time of the clock. -/
  sign : JsonObject → String → SignOptions → ℤ → String

/-! ## Identities -/

def Json.isObject : Json → Bool
  | .obj _ => true
  | _ => false

/-- The value under a key of an object. -/
def Json.member? : Json → String → Option Json
  | .obj members, key => JsonObject.get? members key
  | _, _ => none

/-- A value that counts as true; JSON has no `NaN`. -/
def Json.truthy : Json → Bool
  | .null => false
  | .bool value => value
  | .num value => !value.isZero
  | .str value => value ≠ ""
  | .arr _ => true
  | .obj _ => true

/-- `Number.isSafeInteger(flags) && (flags & REVOKED_FLAG) === 0`. -/
def notRevoked : Option Json → Bool
  | some (.num flags) => flags.isSafeInteger && flags.toInt / 0x10000 % 2 = 0
  | _ => false

/-- What `validateIdentityActive` returns. -/
structure ActiveIdentity where
  identityAddress : String
  displayName : Option String
  deriving DecidableEq, Repr

/-- `validateIdentityActive`, absent where it throws. -/
def validateIdentityActive (result : Option Json) (expectedIdentity expectedSystem : String) :
    Option ActiveIdentity := do
  let result ← result
  let identity ← result.member? "identity"
  if result.text? "status" = some "active" ∧
      identity.text? "identityaddress" = some expectedIdentity ∧
      identity.text? "systemid" = some expectedSystem ∧
      notRevoked (identity.member? "flags") = true then
    some { identityAddress := expectedIdentity, displayName := result.text? "fullyqualifiedname" }
  else none

/-- What `verifyCallback` returns; a field of the wallet that is missing is absent. -/
structure VerifiedCallback where
  challengeID : Option String
  decisionID : Option String
  identityAddress : Option String
  responseSystemID : Option String
  requestSystemID : Option String
  requestSigningIdentity : Option String
  requestObjectDigest : String
  /-- `Number(decisionCreatedAt) * 1000`, absent where it is not an integer. -/
  decisionTime : Option ℤ
  identity : Option Json

/-! ## Calls -/

/-- A challenge that `validateChallengeInput` accepts. -/
structure ChallengeInput where
  state : String
  audience : String
  purpose : String
  issuedAt : ℤ
  expiresAt : ℤ
  deriving DecidableEq, Repr

/-- What the SDK makes of it. -/
structure ChallengePresentation where
  challengeID : String
  deepLink : String
  requestObjectDigest : String
  deriving DecidableEq, Repr

/-- What a route calls. -/
inductive HostedCall where
  /-- `now`. -/
  | now
  | store (call : ChallengeStoreCall)
  /-- The clock advances. -/
  | advance (ms : ℕ)
  | createChallenge (input : ChallengeInput)
  | verifyCallback (payload : Json)
  | getIdentityFromChain (identityAddress : String)
  | randomUUID

namespace HostedCall

/-- What comes back; absent where the call throws. -/
abbrev Answer : HostedCall → Type
  | now => ℤ
  | store call => call.Answer
  | advance _ => Unit
  | createChallenge _ => Option ChallengePresentation
  | verifyCallback _ => Option VerifiedCallback
  | getIdentityFromChain _ => Option Json
  | randomUUID => String

end HostedCall

/-- A route: it returns a response or throws. -/
abbrev HostedProgram (α : Type) := ExceptT PublicError (Program HostedCall HostedCall.Answer) α

/-- A single call. -/
def HostedCall.request (call : HostedCall) : HostedProgram call.Answer :=
  ExceptT.lift (Program.request call : Program HostedCall HostedCall.Answer _)

/-- The value, or the error. -/
def orThrow {α : Type} (value : Option α) (error : PublicError) : HostedProgram α :=
  Program.ofExcept (value.elim (.error error) .ok)

/-! ## Creating a challenge -/

section Challenge

variable [ServiceHost]

/-- `parseIso`. -/
def parseIso : Option Json → Except PublicError ℤ
  | some (.str value) =>
    match dateParse value with
    | some time =>
      if toISOString time = some value then .ok time
      else .error { status := 400, message := "Invalid timestamp" }
    | none => .error { status := 400, message := "Invalid timestamp" }
  | _ => .error { status := 400, message := "Invalid timestamp" }

/-- The sorted keys of a challenge request. -/
def challengeKeys : List String :=
  ["audience", "expiresAt", "issuedAt", "purpose", "requestedAccess", "state"]

/-- The list of the one permission. -/
def isRequestedAccess : Option Json → Bool
  | some (.arr [.str access]) => [access] = requestedAccess
  | _ => false

/-- `validateChallengeInput`. -/
def validateChallengeInput (config : HostedConfig) (body : Json) (currentTime : ℤ) :
    Except PublicError ChallengeInput :=
  match body with
  | .obj members =>
    if (JsonObject.keys members).isPerm challengeKeys = false then
      .error { status := 400, message := "Invalid request fields" }
    else do
      let issuedAt ← parseIso (body.member? "issuedAt")
      let expiresAt ← parseIso (body.member? "expiresAt")
      match body.text? "state", body.text? "audience", body.text? "purpose" with
      | some state, some audience, some purpose =>
        if statePattern state = true ∧ audience ∈ config.allowedAudiences ∧
            purpose ∈ hostedPurposes ∧ isRequestedAccess (body.member? "requestedAccess") = true ∧
            ¬ issuedAt < currentTime - 60000 ∧ ¬ issuedAt > currentTime + 60000 ∧
            ¬ expiresAt ≤ issuedAt ∧ ¬ expiresAt - issuedAt > config.challengeLifetimeMs then
          .ok { state, audience, purpose, issuedAt, expiresAt }
        else .error { status := 400, message := "Invalid request binding" }
      | _, _, _ => .error { status := 400, message := "Invalid request binding" }
  | _ => .error { status := 400, message := "Invalid request" }

/-- The data of the response to a created challenge. -/
structure ChallengeResponse where
  deepLink : String
  challengeID : String
  requestDigest : String
  signingIdentity : String
  callbackUrl : String
  network : String
  contractVersion : String
  issuedAt : String
  expiresAt : String
  deriving DecidableEq, Repr

/-- The SDK returned what the service can store. -/
def ChallengePresentation.valid (presentation : ChallengePresentation) : Bool :=
  iaddressPattern presentation.challengeID &&
    (encodeUtf8 presentation.deepLink).length ≤ 16 * 1024 &&
    isHex64 presentation.requestObjectDigest

/-- `POST /api/auth/verusid/challenge`. -/
def challengeRoute (config : HostedConfig) (body : Json) : HostedProgram ChallengeResponse := do
  let currentTime ← HostedCall.now.request
  let input ← Program.ofExcept (validateChallengeInput config body currentTime)
  let presentation ← (HostedCall.createChallenge input).request
  let presentation ← orThrow presentation serviceUnavailable
  Program.throwIf (presentation.valid = false)
    { status := 503, message := "The signing dependency returned an invalid request" }
  let issuedAt ← orThrow (toISOString input.issuedAt) serviceUnavailable
  let expiresAt ← orThrow (toISOString input.expiresAt) serviceUnavailable
  let challenge : StoredChallenge :=
    { challengeID := presentation.challengeID
      state := input.state
      audience := input.audience
      purpose := input.purpose
      issuedAt
      expiresAt
      signingIdentity := config.signingIdentity
      callbackUrl := config.callbackUrl
      network := hostedNetwork
      requestDigest := sha256 presentation.deepLink
      requestObjectDigest := presentation.requestObjectDigest }
  let created : Bool ← (HostedCall.store (.createChallenge challenge)).request
  Program.throwIf (created = false)
    { status := 503, message := "Could not allocate a one-time request" }
  return {
    deepLink := presentation.deepLink
    challengeID := challenge.challengeID
    requestDigest := challenge.requestDigest
    signingIdentity := challenge.signingIdentity
    callbackUrl := challenge.callbackUrl
    network := challenge.network
    contractVersion := config.contractVersion
    issuedAt := challenge.issuedAt
    expiresAt := challenge.expiresAt }

end Challenge

/-! ## The callback of a wallet -/

def invalidWalletResponse : PublicError := { status := 400, message := "Invalid wallet response" }

def expiredWalletResponse : PublicError :=
  { status := 400, message := "Invalid or expired wallet response" }

def mismatchedWalletResponse : PublicError :=
  { status := 400, message := "Wallet response did not match the signed request" }

def inactiveIdentity : PublicError :=
  { status := 400, message := "Selected identity is not active on VRSCTEST" }

def differentResult : PublicError :=
  { status := 409, message := "A different result already exists" }

def alreadyConsumed : PublicError := { status := 409, message := "Request was already consumed" }

/-- `checkIdentity`, absent where it throws. -/
def checkIdentity (config : HostedConfig) (identityAddress : String) (prefetched : Option Json) :
    HostedProgram (Option ActiveIdentity) := do
  if iaddressPattern identityAddress = false then return none
  else
    match prefetched.filter Json.truthy with
    | some result => return validateIdentityActive (some result) identityAddress config.chainId
    | none =>
      let result ← (HostedCall.getIdentityFromChain identityAddress).request
      return validateIdentityActive result identityAddress config.chainId

/-- `safeDisplayName`. -/
def safeDisplayName (value : Option String) : Option String :=
  value.filter fun name => name ≠ "" && (encodeUtf8 name).length ≤ 200 &&
    name.toList.all fun c => !(c.toNat ≤ 0x1f || c.toNat = 0x7f)

section Callback

variable [ServiceHost]

/-- The decision of the wallet belongs to the challenge; a time that is not a date bounds nothing. -/
def VerifiedCallback.answers (verified : VerifiedCallback) (config : HostedConfig)
    (challenge : StoredChallenge) : Bool :=
  verified.decisionID = some challenge.challengeID &&
    verified.requestObjectDigest = challenge.requestObjectDigest &&
    verified.requestSigningIdentity = some config.signingIdentity &&
    verified.requestSystemID = some config.chainId &&
    verified.responseSystemID = some config.chainId &&
    iaddressPattern (verified.identityAddress.getD "") &&
    verified.decisionTime.any fun time => isSafeInteger time &&
      !((dateParse challenge.issuedAt).any fun issuedAt => time < issuedAt - 60000) &&
      !((dateParse challenge.expiresAt).any fun expiresAt => time > expiresAt + 60000)

variable [TokenSigner]

/-- The claims of a token that the service sets itself. -/
def tokenPayload (challenge : StoredChallenge) (identity : ActiveIdentity) : JsonObject :=
  [("challengeID", .str challenge.challengeID), ("state", .str challenge.state),
    ("idLoggedIn", .str identity.identityAddress)]

/-- The options with which a token is signed. -/
def tokenOptions (config : HostedConfig) (challenge : StoredChallenge) (expiresIn : ℤ)
    (jwtid : String) : SignOptions :=
  { algorithm := "HS256"
    audience := challenge.audience
    expiresIn
    issuer := config.jwtIssuer
    jwtid
    typ := "JWT" }

/-- The result that a token is stored in. -/
def tokenResult (token : String) (identity : ActiveIdentity) (expiresAt : String) : StoredResult :=
  { token
    identityAddress := identity.identityAddress
    displayName := safeDisplayName identity.displayName
    proofDigest := sha256 token
    expiresAt }

/-- The end of the callback: the token is signed and stored. -/
def issueResult (config : HostedConfig) (challenge : StoredChallenge) (identity : ActiveIdentity) :
    HostedProgram Unit := do
  let current : ℤ ← HostedCall.now.request
  let nowSeconds := current / 1000
  let challengeExpiry ← orThrow (dateParse challenge.expiresAt) serviceUnavailable
  let expiresIn := min config.resultTokenMaxLifetimeSeconds (challengeExpiry / 1000 - nowSeconds)
  Program.throwIf (expiresIn < 1) expiredWalletResponse
  let jwtid ← HostedCall.randomUUID.request
  let token := TokenSigner.sign (tokenPayload challenge identity) config.jwtSecret
    (tokenOptions config challenge expiresIn jwtid) current
  let expiresAt ← orThrow (toISOString ((nowSeconds + expiresIn) * 1000)) serviceUnavailable
  let outcome : PutOutcome ← (HostedCall.store
    (.putResult challenge.challengeID (tokenResult token identity expiresAt))).request
  Program.throwIf (outcome = .conflict) differentResult
  Program.throwIf (outcome = .consumed) alreadyConsumed

/-- `POST /verusidlogin`. -/
def callback (config : HostedConfig) (body : Json) : HostedProgram Unit := do
  Program.throwIf (body.isObject = false) invalidWalletResponse
  let verified ← (HostedCall.verifyCallback body).request
  let verified ← orThrow verified invalidWalletResponse
  Program.throwIf (iaddressPattern (verified.challengeID.getD "") = false) invalidWalletResponse
  let challenge ← (HostedCall.store (.getChallenge (verified.challengeID.getD ""))).request
  let challenge ← orThrow challenge expiredWalletResponse
  let current ← HostedCall.now.request
  Program.throwIf (MemoryStore.expired current challenge.expiresAt = true) expiredWalletResponse
  Program.throwIf (verified.answers config challenge = false) mismatchedWalletResponse
  let identity ← checkIdentity config (verified.identityAddress.getD "") verified.identity
  let identity ← orThrow identity inactiveIdentity
  let existing ← (HostedCall.store (.getResult challenge.challengeID)).request
  match existing with
  | some existing =>
    Program.throwIf (existing.identityAddress ≠ identity.identityAddress) differentResult
  | none => issueResult config challenge identity

end Callback

/-! ## Results -/

/-- The response of the result route. -/
inductive ResultResponse where
  | pending
  | verified (jwt iaddress : String) (name : Option String)
  deriving DecidableEq, Repr

/-- The response with a result; an empty name is left out. -/
def StoredResult.response (result : StoredResult) : ResultResponse :=
  .verified result.token result.identityAddress (result.displayName.filter fun name => name ≠ "")

/-- `GET /api/auth/verusid/result/:challengeID`. -/
def resultRoute (challengeID : String) : HostedProgram ResultResponse := do
  Program.throwIf (iaddressPattern challengeID = false)
    { status := 404, message := "Result not found" }
  let result ← (HostedCall.store (.getResult challengeID)).request
  match result with
  | none => return .pending
  | some result => return result.response

/-- `POST /api/auth/verusid/result/:challengeID/ack`, with the proof digest in the body. -/
def acknowledgeRoute (challengeID : String) (proofDigest : Option String) : HostedProgram Unit := do
  Program.throwIf (iaddressPattern challengeID = false ∨ isHex64 (proofDigest.getD "") = false)
    { status := 400, message := "Invalid acknowledgement" }
  let current : ℤ ← HostedCall.now.request
  let acknowledged : Bool ← (HostedCall.store
    (.acknowledge challengeID (proofDigest.getD "") (current + 10 * 60000))).request
  Program.throwIf (acknowledged = false)
    { status := 409, message := "Result could not be acknowledged" }

end ChecksAndBalances
