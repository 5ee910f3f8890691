import ChecksAndBalances.Config.Numbers
import ChecksAndBalances.Linking.Service

/-!
# The facade of linking

`WalletLinkHttpFacade` of `apps/api/src/wallet-link-http.ts`: a request is authenticated by the one
session cookie that it carries and, unless its method only reads, by its origin and its CSRF token.
-/

namespace ChecksAndBalances

open Lib

/-! ## Requests -/

/-- `RequestAuthentication`. -/
structure RequestAuthentication where
  method : String
  cookieHeader : Option String
  origin : Option String
  csrfToken : Option String

/-- The input of `begin`. -/
structure BeginRequest where
  authentication : RequestAuthentication
  consented : Bool
  now : ℤ
  correlationId : String

/-- The input of `poll`. -/
structure PollRequest where
  authentication : RequestAuthentication
  pollingToken : Option String
  now : ℤ
  correlationId : String

/-- The input of `cancel` and of `unlink`, with the reference of the challenge or the link. -/
structure ReferenceRequest where
  authentication : RequestAuthentication
  reference : String
  now : ℤ
  correlationId : String

/-- What `poll` answers. -/
structure PollResponse where
  challengeReference : String
  state : WalletChallengeState
  expiresAt : String
  linkReference : Option String
  identityAddress : Option String
  deriving DecidableEq, Repr

/-- What the facade is constructed with. -/
structure LinkingConfig where
  /-- `CBC_VERUS_LINKING_ENABLED`. -/
  enabled : Bool
  auth : AuthConfig
  cookieName : TrustDomain → String
  origin : TrustDomain → String
  service : WalletLinkServiceConfig
  hostedAuth : HostedAuthHttpConfig

/-- The service of the facade. -/
def LinkingConfig.linking (config : LinkingConfig) : WalletLinkService :=
  { config := config.service, hostedAuth := config.hostedAuth, rateLimiter := config.auth.email }

/-! ## Cookies -/

/-- The cookie of a part of the header: a name before the first `=`, and a value. -/
def cookieOf (part : List Char) : Option (String × String) :=
  let name := String.ofList (trimSpace (part.takeWhile (· ≠ '=')))
  let value := String.ofList (trimSpace ((part.dropWhile (· ≠ '=')).drop 1))
  if name = "" ∨ value = "" then none else some (name, value)

/-- `parseCookies`: of two cookies of a name the first one counts. -/
def parseCookies (header : Option String) : List (String × String) :=
  ((header.map String.toList).elim [] (List.splitOn ';')).filterMap cookieOf

/-- The value of the cookie. -/
def cookieValue (cookies : List (String × String)) (name : String) : Option String :=
  (cookies.find? fun cookie => cookie.1 = name).map Prod.snd

/-! ## Authentication -/

namespace LinkingConfig

variable [LinkingHost] (config : LinkingConfig)

/-- The trust domains whose session cookie the request carries, with the tokens. -/
def candidates (authentication : RequestAuthentication) : List (TrustDomain × String) :=
  let cookies := parseCookies authentication.cookieHeader
  [TrustDomain.participant, TrustDomain.committee].filterMap fun domain =>
    (cookieValue cookies (config.cookieName domain)).map fun token => (domain, token)

/-- `requireCsrf`. -/
def requireCsrf (session : SessionRecord) (authentication : RequestAuthentication) :
    Except LinkingError Unit :=
  if toUpperCase authentication.method ∈ ["GET", "HEAD", "OPTIONS"] then .ok ()
  else
    match AuthServices.nonEmpty authentication.csrfToken with
    | none => .error (.auth .originRejected)
    | some csrfToken =>
      if authentication.origin ≠ some (config.origin session.trustDomain) ∨
          session.csrfDigest ≠
            keyedDigest (config.auth.sessions session.trustDomain).sessionSecret csrfToken then
        .error (.auth .originRejected)
      else .ok ()

/-- `principalFromSession`. -/
def principalFromSession (session : SessionRecord) : WalletLinkPrincipal :=
  { accountReference := session.accountReference
    trustDomain := session.trustDomain
    authenticationStrength := session.authenticationStrength.name }

/-- `authenticate`. -/
def authenticate (authentication : RequestAuthentication) (now : ℤ) :
    LinkingProgram LinkingError WalletLinkPrincipal :=
  match config.candidates authentication with
  | [(trustDomain, token)] => do
    let session ← LinkingProgram.ofAuth
      (SessionService.authenticate config.auth { trustDomain, token := some token, now })
    Program.ofExcept (config.requireCsrf session authentication)
    return principalFromSession session
  | _ => throw (.auth .authenticationRequired)

/-! ## The facade -/

/-- The facade that stands in while linking is disabled rejects every request. -/
def requireFacade : LinkingProgram LinkingError Unit :=
  Program.throwIf (config.enabled = false) (.walletLink .featureDisabled)

/-- `begin`. -/
def begin (request : BeginRequest) : LinkingProgram LinkingError WalletLinkPresentation := do
  config.requireFacade
  Program.throwIf (request.consented = false) (.walletLink .invalidRequest)
  let principal ← config.authenticate request.authentication request.now
  config.linking.begin
    { principal, scopes := ["verusid:link"], now := request.now
      correlationId := request.correlationId }

/-- `poll`. -/
def poll (request : PollRequest) : LinkingProgram LinkingError PollResponse := do
  config.requireFacade
  match AuthServices.nonEmpty request.pollingToken with
  | none => throw (.walletLink .challengeUnavailable)
  | some pollingToken =>
    let principal ← config.authenticate request.authentication request.now
    let result ← config.linking.poll
      { principal, pollingToken, now := request.now, correlationId := request.correlationId }
    match toISOString result.expiresAt with
    | none => throw .language
    | some expiresAt => return {
        challengeReference := result.challengeReference
        state := result.state
        expiresAt
        linkReference := result.linkReference
        identityAddress := result.identityAddress }

/-- `unlink`. -/
def unlink (request : ReferenceRequest) : LinkingProgram LinkingError Unit := do
  config.requireFacade
  let principal ← config.authenticate request.authentication request.now
  config.linking.unlink
    { principal, reference := request.reference, now := request.now
      correlationId := request.correlationId }

/-- `cancel`. -/
def cancel (request : ReferenceRequest) : LinkingProgram LinkingError Unit := do
  config.requireFacade
  let principal ← config.authenticate request.authentication request.now
  config.linking.cancel
    { principal, reference := request.reference, now := request.now
      correlationId := request.correlationId }

end LinkingConfig

end ChecksAndBalances
