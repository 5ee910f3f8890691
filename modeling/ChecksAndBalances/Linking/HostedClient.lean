import ChecksAndBalances.Auth.Sessions
import ChecksAndBalances.Hosted.Client
import ChecksAndBalances.Linking.System

/-!
# The calls of wallet linking

`HostedVerusIdAuthHttpClient` of `packages/verus-linking/src/hosted-auth-client.ts` as programs that
send requests to the hosted service.  The calls of linking are these requests, the calls of the
authentication services, the operations of `VerusLinkRepository` and questions to the node.
-/

namespace ChecksAndBalances

open Lib

/-! ## Calls -/

/-- What linking takes from its host besides `ServiceHost`. -/
class LinkingHost extends ServiceHost where
  /-- `new URL(value).protocol`, absent where the constructor throws. -/
  urlProtocol : String → Option String
  /-- `String.prototype.toUpperCase`. -/
  toUpperCase : String → String

export LinkingHost (urlProtocol toUpperCase)

/-- A request to the hosted service. -/
inductive HostedHttpRequest where
  | health
  | challenge (body : String)
  | result (challengeId : String)
  | acknowledge (challengeId body : String)

/-- What linking reads of an identity. -/
structure LinkedIdentityReadback extends VerusIdentityResult where
  fullyQualifiedName : Option String

/-- The calls of linking. -/
inductive LinkingCall where
  | auth (call : ServiceCall)
  | link (command : LinkCommand)
  | hosted (request : HostedHttpRequest)
  /-- `Promise.all` of `getInfo` and `getIdentity`. -/
  | readback (identityAddress : String)
  | randomUUID

namespace LinkingCall

/-- The type of the answer; a request that fails has no response. -/
def Answer : LinkingCall → Type
  | auth call => call.Answer
  | link command => command.Result
  | hosted _ => Option HostedHttpResponse
  | readback _ => Except VerusIntegrationError (VerusInfo × LinkedIdentityReadback)
  | randomUUID => String

/-- The transaction of a store call. -/
def exec (config : AuthConfig) : (call : LinkingCall) → Option (DbTx call.Answer)
  | auth call => call.exec config
  | link command => some command.exec
  | hosted _ => none
  | readback _ => none
  | randomUUID => none

end LinkingCall

/-- A call with its answer. -/
abbrev LinkingItem := Sigma LinkingCall.Answer

/-- A part of a request: it returns a value or throws. -/
abbrev LinkingProgram (ε α : Type) := ExceptT ε (Program LinkingCall LinkingCall.Answer) α

/-- A single call. -/
def LinkingCall.request {ε : Type} (call : LinkingCall) : LinkingProgram ε call.Answer :=
  ExceptT.lift (Program.request call : Program LinkingCall LinkingCall.Answer _)

/-! ## The client -/

/-- `HostedAuthClientConfig`, as far as a request or a response depends on it. -/
structure HostedAuthHttpConfig extends HostedAuthClientConfig where
  contractVersion : String
  serviceVersion : String
  serviceSourceRevision : String
  imageDigest : String
  sdkCommit : String
  primitivesCommit : String
  rpcClientCommit : String
  bitgoCommit : String
  daemonVersion : String
  applicationIdentityAddress : String
  callbackUrl : String

/-- `CreateHostedChallengeInput`. -/
structure CreateHostedChallengeInput where
  state : String
  audience : String
  purpose : String
  issuedAt : ℤ
  expiresAt : ℤ
  deriving DecidableEq, Repr

/-- `HostedChallenge`. -/
structure HostedChallenge where
  challengeId : String
  deepLink : String
  presentationDigest : String
  signerIdentityAddress : String
  callbackUrl : String
  issuedAt : ℤ
  expiresAt : ℤ
  deriving DecidableEq, Repr

/-- `MAX_DEEP_LINK_BYTES`. -/
def maxDeepLinkBytes : ℕ := 16 * 1024

/-- `LOGIN_CONSENT_SCHEME`. -/
def loginConsentScheme : String := "i5jtwbp6zymeay9llnraglgjqgdrffsau4:"

/-- `APPROVED_CHAIN_READ_URL`. -/
def approvedChainReadUrl : String := "https://api.verustest.net"

namespace HostedAuthHttpConfig

variable [LinkingHost] (config : HostedAuthHttpConfig)

/-- `request`. -/
def fetch (request : HostedHttpRequest) : LinkingProgram HostedAuthErrorCode HostedHttpResponse := do
  let response : Option HostedHttpResponse ← (LinkingCall.hosted request).request
  Program.ofExcept (response.elim (.error .unavailable) .ok)

/-- The texts that a healthy service reports. -/
def healthTexts : List (String × String) := [
  ("status", "ok"),
  ("service", "verusid-auth"),
  ("version", config.serviceVersion),
  ("service_source_revision", config.serviceSourceRevision),
  ("image_digest", config.imageDigest),
  ("verusid_ts_client_commit", config.sdkCommit),
  ("verus_primitives_commit", config.primitivesCommit),
  ("verusd_rpc_client_commit", config.rpcClientCommit),
  ("verus_bitgo_commit", config.bitgoCommit),
  ("daemon_version", config.daemonVersion),
  ("chain_read_url", approvedChainReadUrl),
  ("chain", "vrsctest"),
  ("contract_version", config.contractVersion),
  ("signing_identity", config.applicationIdentityAddress),
  ("callback_url", config.callbackUrl),
  ("jwt_issuer", config.issuer),
  ("result_authentication", "client_secret"),
  ("result_delivery", "idempotent_until_ack")]

/-- The flags that a healthy service reports. -/
def healthFlags : List String := ["signing_identity_configured", "chain_configured", "sdk_ready"]

/-- The flag under a key is set. -/
def flagSet (source : JsonObject) (key : String) : Bool :=
  match source.get? key with
  | some (.bool value) => value
  | _ => false

/-- The report of a service that meets the contract. -/
def healthy (health : JsonObject) : Bool :=
  (config.healthTexts.all fun field => (Json.obj health).text? field.1 = some field.2) &&
    healthFlags.all fun key => flagSet health key

/-- `preflight`. -/
def preflight : LinkingProgram HostedAuthErrorCode Unit := do
  let response ← fetch .health
  Program.throwIf (isOkStatus response.status = false) .unavailable
  let health ← Program.ofExcept (readJson response)
  Program.throwIf (config.healthy health = false) .incompatible

/-- `dateValue`. -/
def dateValue (source : JsonObject) (key : String) : Except HostedAuthErrorCode ℤ := do
  let value ← stringValue source key 64
  match dateParse value with
  | some time => if toISOString time = some value then .ok time else .error .invalidResponse
  | none => .error .invalidResponse

/-- The body of the request for a challenge.  A time that is no date throws an error of the language,
which `hostedError` reports as `unavailable` does. -/
def challengeBody (input : CreateHostedChallengeInput) : Except HostedAuthErrorCode String :=
  match toISOString input.issuedAt, toISOString input.expiresAt with
  | some issuedAt, some expiresAt => .ok (Json.obj [
      ("state", .str input.state),
      ("audience", .str input.audience),
      ("purpose", .str input.purpose),
      ("issuedAt", .str issuedAt),
      ("expiresAt", .str expiresAt),
      ("requestedAccess", .arr [.str "identity_view"])]).stringify
  | _, _ => .error .unavailable

/-- What `createChallenge` makes of the data of a response. -/
def challengeOf (input : CreateHostedChallengeInput) (data : JsonObject) :
    Except HostedAuthErrorCode HostedChallenge := do
  let challengeId ← stringValue data "challengeID" 100
  let deepLink ← stringValue data "deepLink" maxDeepLinkBytes
  let reportedDigest ← stringValue data "requestDigest" 64
  let signer ← stringValue data "signingIdentity" 64
  let callbackUrl ← stringValue data "callbackUrl" 2048
  let network ← stringValue data "network" 32
  let contractVersion ← stringValue data "contractVersion" 64
  let issuedAt ← dateValue data "issuedAt"
  let expiresAt ← dateValue data "expiresAt"
  match urlProtocol deepLink with
  | none => throw .invalidResponse
  | some protocol =>
    if iaddressPattern challengeId = false ∨ protocol ≠ loginConsentScheme ∨
        reportedDigest ≠ sha256 deepLink ∨ signer ≠ config.applicationIdentityAddress ∨
        callbackUrl ≠ config.callbackUrl ∨ network ≠ "VRSCTEST" ∨
        contractVersion ≠ config.contractVersion ∨ issuedAt ≠ input.issuedAt ∨
        expiresAt ≠ input.expiresAt then throw .incompatible
    else
      return {
        challengeId, deepLink
        presentationDigest := sha256 deepLink
        signerIdentityAddress := signer
        callbackUrl, issuedAt, expiresAt }

/-- `createChallenge`. -/
def createChallenge (input : CreateHostedChallengeInput) :
    LinkingProgram HostedAuthErrorCode HostedChallenge := do
  config.preflight
  Program.throwIf (input.expiresAt ≤ input.issuedAt ∨ input.expiresAt - input.issuedAt > 5 * 60000)
    .invalidResponse
  let body ← Program.ofExcept (challengeBody input)
  let response ← fetch (.challenge body)
  Program.throwIf (isOkStatus response.status = false) .unavailable
  let body ← Program.ofExcept (readJson response)
  match body.get? "success", body.get? "data" with
  | some (.bool true), some (.obj data) => Program.ofExcept (config.challengeOf input data)
  | _, _ => throw .invalidResponse

/-- `getResult`. -/
def getResult (input : GetHostedResultInput) : LinkingProgram HostedAuthErrorCode HostedResult := do
  Program.throwIf (iaddressPattern input.challengeId = false) .invalidResponse
  let response : Option HostedHttpResponse ← (LinkingCall.hosted (.result input.challengeId)).request
  Program.ofExcept (config.toHostedAuthClientConfig.getResult response input)

/-- `acknowledgeResult`. -/
def acknowledgeResult (challengeId proofDigest : String) :
    LinkingProgram HostedAuthErrorCode Unit := do
  Program.throwIf (iaddressPattern challengeId = false ∨ isHex64 proofDigest = false)
    .invalidResponse
  let body := (Json.obj [("proofDigest", .str proofDigest)]).stringify
  let response ← fetch (.acknowledge challengeId body)
  Program.throwIf (isOkStatus response.status = false) .unavailable

end HostedAuthHttpConfig

end ChecksAndBalances
