import ChecksAndBalances.Hosted.Service
import ChecksAndBalances.Lib.Base64
import ChecksAndBalances.Verus.Transport

/-!
# The client of the hosted service

`HostedVerusIdAuthHttpClient.getResult` of `packages/verus-linking/src/hosted-auth-client.ts` with
the checks of a token.
-/

namespace ChecksAndBalances

open Lib

/-! ## Texts -/

/-- The character that stands for bytes that are not UTF-8. -/
def replacementChar : Char := Char.ofNat 0xfffd

/-- `Buffer.toString("utf8")`: the longest beginning of a character that does not go on is
replaced. -/
def bufferChars : List UInt8 → List Char
  | [] => []
  | a :: rest =>
    if a.toNat < 0x80 then Char.ofNat a.toNat :: bufferChars rest
    else match rest with
      | [] => [replacementChar]
      | b :: rest =>
        if 0xc2 ≤ a.toNat ∧ a.toNat < 0xe0 then
          if isTail 0x80 0xbf b then
            Char.ofNat (a.toNat % 32 * 64 + tailBits b) :: bufferChars rest
          else replacementChar :: bufferChars (b :: rest)
        else if ¬ (0xe0 ≤ a.toNat ∧ a.toNat < 0xf5) ∨
            isTail (lowestTail a.toNat) (highestTail a.toNat) b = false then
          replacementChar :: bufferChars (b :: rest)
        else match rest with
          | [] => [replacementChar]
          | c :: rest =>
            if isTail 0x80 0xbf c = false then replacementChar :: bufferChars (c :: rest)
            else if a.toNat < 0xf0 then
              Char.ofNat (a.toNat % 16 * 4096 + tailBits b * 64 + tailBits c) :: bufferChars rest
            else match rest with
              | [] => [replacementChar]
              | d :: rest =>
                if isTail 0x80 0xbf d then
                  Char.ofNat (a.toNat % 8 * 262144 + tailBits b * 4096 + tailBits c * 64 +
                    tailBits d) :: bufferChars rest
                else replacementChar :: bufferChars (d :: rest)

/-- `hasControlCharacter`. -/
def hasControlCharacter (value : String) : Bool :=
  value.toList.any fun c => c.toNat ≤ 0x1f || c.toNat = 0x7f

/-! ## Values -/

/-- `HostedAuthErrorCode`. -/
inductive HostedAuthErrorCode where
  | unavailable
  | incompatible
  | invalidResponse
  | invalidToken
  deriving DecidableEq, Repr

/-- `MAX_JSON_BYTES`. -/
def maxJsonBytes : ℕ := 64 * 1024

/-- `MAX_TOKEN_BYTES`. -/
def maxTokenBytes : ℕ := 16 * 1024

/-- `stringValue`. -/
def stringValue (source : JsonObject) (key : String) (maxLength : ℕ) :
    Except HostedAuthErrorCode String :=
  match source.get? key with
  | some (.str value) =>
    if value = "" ∨ (encodeUtf8 value).length > maxLength ∨ hasControlCharacter value = true then
      .error .invalidResponse
    else .ok value
  | _ => .error .invalidResponse

/-- `optionalStringValue`. -/
def optionalStringValue (source : JsonObject) (key : String) (maxLength : ℕ) :
    Except HostedAuthErrorCode (Option String) :=
  match source.get? key with
  | none => .ok none
  | some .null => .ok none
  | some _ => (stringValue source key maxLength).map some

/-- `integerValue`. -/
def integerValue (source : JsonObject) (key : String) : Except HostedAuthErrorCode ℤ :=
  match source.get? key with
  | some (.num value) =>
    if value.isSafeInteger = false ∨ value.toInt ≤ 0 then .error .invalidToken else .ok value.toInt
  | _ => .error .invalidToken

/-! ## Tokens -/

/-- `decodeBase64Url`. -/
def decodeBase64Url (value : List Char) : Except HostedAuthErrorCode (List UInt8) :=
  if value = [] ∨ value.all Base64.isUrlChar = false then .error .invalidToken
  else .ok (Base64.decode value)

section Tokens

variable [ServiceHost]

/-- `parseBase64UrlJson`. -/
def parseBase64UrlJson (value : List Char) : Except HostedAuthErrorCode JsonObject := do
  let bytes ← decodeBase64Url value
  match Json.parse readNumber (String.ofList (bufferChars bytes)) with
  | some (.obj members) => .ok members
  | _ => .error .invalidToken

/-- `ExpectedJwt`. -/
structure ExpectedJwt where
  issuer : String
  audience : String
  challengeId : String
  state : String
  identityAddress : String
  issuedAt : ℤ
  expiresAt : ℤ
  now : ℤ

/-- The claims name what is expected, and their times fit it. -/
def ExpectedJwt.accepts (expected : ExpectedJwt) (claims : JsonObject) (iat exp : ℤ) : Bool :=
  let text := (Json.obj claims).text?
  let nowSeconds := expected.now / 1000
  let earliestSeconds := expected.issuedAt / 1000 - 60
  let latestSeconds := expected.expiresAt / 1000 + 60
  text "iss" = some expected.issuer && text "aud" = some expected.audience &&
    text "challengeID" = some expected.challengeId && text "state" = some expected.state &&
    text "idLoggedIn" = some expected.identityAddress &&
    ((text "jti").any fun jti => 16 ≤ (utf16 jti).length) &&
    iaddressPattern expected.identityAddress &&
    !(iat < earliestSeconds) && !(iat > nowSeconds + 60) && !(exp ≤ nowSeconds) &&
    !(exp > latestSeconds) && !(exp ≤ iat)

/-- `verifyJwt`. -/
def verifyJwt (token secret : String) (expected : ExpectedJwt) :
    Except HostedAuthErrorCode (ℤ × ℤ) :=
  match token.toList.splitOn '.' with
  | [encodedHeader, encodedClaims, encodedSignature] => do
    let header ← parseBase64UrlJson encodedHeader
    let claims ← parseBase64UrlJson encodedClaims
    if (Json.obj header).text? "alg" ≠ some "HS256" ∨ (Json.obj header).text? "typ" ≠ some "JWT" then
      .error .invalidToken
    else
      let suppliedSignature ← decodeBase64Url encodedSignature
      let signingInput := String.ofList (encodedHeader ++ '.' :: encodedClaims)
      if suppliedSignature ≠ Sha256.hmacBytes (encodeUtf8 secret) (encodeUtf8 signingInput) then
        .error .invalidToken
      else
        let iat ← integerValue claims "iat"
        let exp ← integerValue claims "exp"
        if expected.accepts claims iat exp = false then .error .invalidToken else .ok (iat, exp)
  | _ => .error .invalidToken

end Tokens

/-! ## Results -/

/-- The configuration that `getResult` reads. -/
structure HostedAuthClientConfig where
  issuer : String
  jwtSecret : String

/-- `GetHostedResultInput`. -/
structure GetHostedResultInput where
  challengeId : String
  state : String
  audience : String
  issuedAt : ℤ
  expiresAt : ℤ
  now : ℤ

/-- `HostedResult`. -/
inductive HostedResult where
  | pending
  | verified (identityAddress : String) (displayNameSnapshot : Option String) (proofDigest : String)
      (tokenIssuedAt tokenExpiresAt : ℤ)
  deriving DecidableEq, Repr

/-- A response, with the length that its header reports. -/
structure HostedHttpResponse where
  status : ℕ
  contentLength : ℕ
  text : String

variable [ServiceHost]

/-- `readJson`. -/
def readJson (response : HostedHttpResponse) : Except HostedAuthErrorCode JsonObject :=
  if response.contentLength > maxJsonBytes ∨ (encodeUtf8 response.text).length > maxJsonBytes then
    .error .invalidResponse
  else
    match Json.parse readNumber response.text with
    | some (.obj members) => .ok members
    | _ => .error .invalidResponse

/-- `HostedVerusIdAuthHttpClient.getResult`; the response is absent where the request fails. -/
def HostedAuthClientConfig.getResult (config : HostedAuthClientConfig)
    (response : Option HostedHttpResponse) (input : GetHostedResultInput) :
    Except HostedAuthErrorCode HostedResult :=
  if iaddressPattern input.challengeId = false then .error .invalidResponse
  else
    match response with
    | none => .error .unavailable
    | some response =>
      if response.status = 404 ∨ response.status = 202 then .ok .pending
      else if isOkStatus response.status = false then .error .unavailable
      else do
        let body ← readJson response
        match body.get? "success" with
        | some (.bool true) => do
          let token ← stringValue body "JWT" maxTokenBytes
          let identityAddress ← stringValue body "iaddress" 64
          let (iat, exp) ← verifyJwt token config.jwtSecret
            { issuer := config.issuer
              audience := input.audience
              challengeId := input.challengeId
              state := input.state
              identityAddress
              issuedAt := input.issuedAt
              expiresAt := input.expiresAt
              now := input.now }
          let displayName ← optionalStringValue body "name" 200
          .ok (.verified identityAddress (displayName.filter fun name => name ≠ "") (sha256 token)
            (iat * 1000) (exp * 1000))
        | _ => .error .invalidResponse

/-- The response that the service sends. -/
def ResultResponse.http : ResultResponse → HostedHttpResponse
  | .pending =>
    let text := (Json.obj [("success", .bool false), ("status", .str "pending")]).stringify
    { status := 202, contentLength := (encodeUtf8 text).length, text }
  | .verified jwt iaddress name =>
    let text := (Json.obj ([("success", .bool true), ("JWT", .str jwt), ("iaddress", .str iaddress)]
      ++ (name.map fun name => ("name", .str name)).toList)).stringify
    { status := 200, contentLength := (encodeUtf8 text).length, text }

end ChecksAndBalances
