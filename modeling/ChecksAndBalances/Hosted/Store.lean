import ChecksAndBalances.Lib.Expiring
import ChecksAndBalances.Lib.Transaction
import ChecksAndBalances.Verus.Parse

/-!
# The stores of the hosted service

`MemoryStore` and `RedisStore` of `services/verusid/src/store.js`.  Every call is given the time of
the clock.  Redis holds the texts of the stored objects; a key that is set with a lifetime is
present until the lifetime has passed, and a script is one transaction.
-/

namespace ChecksAndBalances

open Lib Lib.Tx

/-- What the service takes from its host besides `Host`. -/
class ServiceHost extends Host where
  /-- The value of a numeral in a JSON text. -/
  readNumber : String → Option JsNumber
  /-- `Date.parse`, absent where it is not a number. -/
  dateParse : String → Option ℤ
  /-- `toISOString` of a time, absent where it throws. -/
  toISOString : ℤ → Option String

export ServiceHost (readNumber dateParse toISOString)

/-! ## Stored objects -/

/-- The string under a key of an object. -/
def Json.text? : Json → String → Option String
  | .obj members, key =>
    match JsonObject.get? members key with
    | some (.str text) => some text
    | _ => none
  | _, _ => none

/-- What the service keeps of a challenge. -/
structure StoredChallenge where
  challengeID : String
  state : String
  audience : String
  purpose : String
  issuedAt : String
  expiresAt : String
  signingIdentity : String
  callbackUrl : String
  network : String
  requestDigest : String
  requestObjectDigest : String
  deriving DecidableEq, Repr

namespace StoredChallenge

def members (c : StoredChallenge) : JsonObject :=
  [("challengeID", .str c.challengeID), ("state", .str c.state),
    ("audience", .str c.audience), ("purpose", .str c.purpose), ("issuedAt", .str c.issuedAt),
    ("expiresAt", .str c.expiresAt), ("signingIdentity", .str c.signingIdentity),
    ("callbackUrl", .str c.callbackUrl), ("network", .str c.network),
    ("requestDigest", .str c.requestDigest),
    ("requestObjectDigest", .str c.requestObjectDigest)]

/-- `JSON.stringify`. -/
def text [Host] (c : StoredChallenge) : String := (Json.obj c.members).stringify

/-- The challenge that the service reads from an object. -/
def ofJson (o : Json) : Option StoredChallenge := do
  return {
    challengeID := ← o.text? "challengeID"
    state := ← o.text? "state"
    audience := ← o.text? "audience"
    purpose := ← o.text? "purpose"
    issuedAt := ← o.text? "issuedAt"
    expiresAt := ← o.text? "expiresAt"
    signingIdentity := ← o.text? "signingIdentity"
    callbackUrl := ← o.text? "callbackUrl"
    network := ← o.text? "network"
    requestDigest := ← o.text? "requestDigest"
    requestObjectDigest := ← o.text? "requestObjectDigest" }

theorem ofTexts (c : StoredChallenge) : Json.OfTexts c.members where
  nodup := by
    show ["challengeID", "state", "audience", "purpose", "issuedAt", "expiresAt", "signingIdentity",
      "callbackUrl", "network", "requestDigest", "requestObjectDigest"].Nodup
    decide
  named := by
    show ∀ key ∈ ["challengeID", "state", "audience", "purpose", "issuedAt", "expiresAt",
      "signingIdentity", "callbackUrl", "network", "requestDigest", "requestObjectDigest"],
      Json.arrayIndex key = none
    decide +kernel
  text := by simp [members]

/-- The service reads what it has stored. -/
theorem parse_text [Host] {readNumber : String → Option JsNumber} (c : StoredChallenge) :
    (Json.parse readNumber c.text).bind ofJson = some c := by
  rw [text, c.ofTexts.parse_eq]
  rfl

end StoredChallenge

/-- The result of a wallet callback. -/
structure StoredResult where
  token : String
  identityAddress : String
  displayName : Option String
  proofDigest : String
  expiresAt : String
  deriving DecidableEq, Repr

namespace StoredResult

def members (r : StoredResult) : JsonObject :=
  [("token", .str r.token), ("identityAddress", .str r.identityAddress)] ++
    (r.displayName.map fun name => ("displayName", .str name)).toList ++
    [("proofDigest", .str r.proofDigest), ("expiresAt", .str r.expiresAt)]

/-- `JSON.stringify`. -/
def text [Host] (r : StoredResult) : String := (Json.obj r.members).stringify

/-- The result that the service reads from an object. -/
def ofJson (o : Json) : Option StoredResult := do
  return {
    token := ← o.text? "token"
    identityAddress := ← o.text? "identityAddress"
    displayName := o.text? "displayName"
    proofDigest := ← o.text? "proofDigest"
    expiresAt := ← o.text? "expiresAt" }

theorem keys_members (r : StoredResult) : r.members.keys =
    if r.displayName.isSome then
      ["token", "identityAddress", "displayName", "proofDigest", "expiresAt"]
    else ["token", "identityAddress", "proofDigest", "expiresAt"] := by
  obtain ⟨token, identityAddress, displayName, proofDigest, expiresAt⟩ := r
  cases displayName <;> rfl

theorem ofTexts (r : StoredResult) : Json.OfTexts r.members where
  nodup := by
    rw [keys_members]
    split_ifs <;> decide
  named := by
    rw [keys_members]
    split_ifs <;> decide +kernel
  text := by
    obtain ⟨token, identityAddress, displayName, proofDigest, expiresAt⟩ := r
    cases displayName <;> simp [members]

/-- The service reads what it has stored. -/
theorem parse_text [Host] {readNumber : String → Option JsNumber} (r : StoredResult) :
    (Json.parse readNumber r.text).bind ofJson = some r := by
  rw [text, r.ofTexts.parse_eq]
  obtain ⟨token, identityAddress, displayName, proofDigest, expiresAt⟩ := r
  cases displayName <;> rfl

theorem text_injective [Host] : Function.Injective text := by
  intro r r' h
  have hparse := @parse_text _ (fun _ => none) r
  rw [h, parse_text] at hparse
  exact (Option.some.inj hparse).symm

theorem proofDigest_members (r : StoredResult) :
    (Json.obj r.members).text? "proofDigest" = some r.proofDigest := by
  obtain ⟨token, identityAddress, displayName, proofDigest, expiresAt⟩ := r
  cases displayName <;> rfl

end StoredResult

/-! ## Calls -/

/-- The answers of `putResult`. -/
inductive PutOutcome where
  | stored
  | same
  | conflict
  | consumed
  deriving DecidableEq, Repr

/-- The calls of a store. -/
inductive ChallengeStoreCall where
  | createChallenge (challenge : StoredChallenge)
  | getChallenge (challengeID : String)
  | putResult (challengeID : String) (result : StoredResult)
  | getResult (challengeID : String)
  | acknowledge (challengeID proofDigest : String) (tombstoneExpiresAt : ℤ)
  deriving DecidableEq, Repr

/-- What a call answers. -/
abbrev ChallengeStoreCall.Answer : ChallengeStoreCall → Type
  | createChallenge _ => Bool
  | getChallenge _ => Option StoredChallenge
  | putResult _ _ => PutOutcome
  | getResult _ => Option StoredResult
  | acknowledge _ _ _ => Bool

/-- Why a call of a store fails. -/
inductive ChallengeStoreError where
  | invalidExpiry
  | invalidText
  deriving DecidableEq, Repr

variable [ServiceHost]

/-! ## In memory -/

/-- The maps of `MemoryStore`. -/
structure MemoryStore where
  challenges : String → Option StoredChallenge
  results : String → Option StoredResult
  consumed : String → Option ℤ

/-- A call of `MemoryStore`. -/
abbrev MemoryTx := Tx MemoryStore ChallengeStoreError

namespace MemoryStore

def empty : MemoryStore :=
  { challenges := fun _ => none, results := fun _ => none, consumed := fun _ => none }

/-- `Date.parse(expiresAt) <= now`; a text that is not a date has not expired. -/
def expired (now : ℤ) (expiresAt : String) : Bool := (dateParse expiresAt).any fun t => t ≤ now

/-- `cleanup`. -/
def cleanup (now : ℤ) (m : MemoryStore) : MemoryStore :=
  { challenges := fun k => (m.challenges k).filter fun c => !expired now c.expiresAt
    results := fun k => (m.results k).filter fun r => !expired now r.expiresAt
    consumed := fun k => (m.consumed k).filter fun t => !(t ≤ now : Bool) }

/-- `createChallenge`. -/
def createChallenge (now : ℤ) (challenge : StoredChallenge) : MemoryTx Bool := do
  modify (cleanup now)
  let m ← get
  if (m.challenges challenge.challengeID).isSome then return false
  else
    modify fun m => { m with
      challenges := Function.update m.challenges challenge.challengeID (some challenge) }
    return true

/-- `getChallenge`. -/
def getChallenge (now : ℤ) (challengeID : String) : MemoryTx (Option StoredChallenge) := do
  modify (cleanup now)
  let m ← get
  return m.challenges challengeID

/-- `putResult`. -/
def putResult (now : ℤ) (challengeID : String) (result : StoredResult) : MemoryTx PutOutcome := do
  modify (cleanup now)
  let m ← get
  if (m.consumed challengeID).isSome || (m.challenges challengeID).isNone then return .consumed
  else
    match m.results challengeID with
    | some existing => return if existing.proofDigest = result.proofDigest then .same else .conflict
    | none =>
      modify fun m => { m with
        results := Function.update m.results challengeID (some result) }
      return .stored

/-- `getResult`. -/
def getResult (now : ℤ) (challengeID : String) : MemoryTx (Option StoredResult) := do
  modify (cleanup now)
  let m ← get
  return m.results challengeID

/-- `acknowledge`. -/
def acknowledge (now : ℤ) (challengeID proofDigest : String) (tombstoneExpiresAt : ℤ) :
    MemoryTx Bool := do
  modify (cleanup now)
  let m ← get
  match m.results challengeID with
  | none => return false
  | some result =>
    if result.proofDigest ≠ proofDigest then return false
    else
      modify fun m => {
        results := Function.update m.results challengeID none
        challenges := Function.update m.challenges challengeID none
        consumed := Function.update m.consumed challengeID (some tombstoneExpiresAt) }
      return true

/-- A call of the store. -/
def exec (now : ℤ) : (call : ChallengeStoreCall) → MemoryTx call.Answer
  | .createChallenge challenge => createChallenge now challenge
  | .getChallenge challengeID => getChallenge now challengeID
  | .putResult challengeID result => putResult now challengeID result
  | .getResult challengeID => getResult now challengeID
  | .acknowledge challengeID proofDigest tombstoneExpiresAt =>
    acknowledge now challengeID proofDigest tombstoneExpiresAt

end MemoryStore

/-! ## In Redis -/

/-- The keys of Redis with their texts. -/
abbrev Redis := Expiring String String

/-- A call of `RedisStore`. -/
abbrev RedisTx := Tx Redis ChallengeStoreError

namespace RedisStore

/-- `PREFIX`. -/
def keyPrefix : String := "cbc:verusid-auth:v1"

/-- `key`. -/
def key (kind challengeID : String) : String := keyPrefix ++ ":" ++ kind ++ ":" ++ challengeID

/-- `SET key value PX ttl`. -/
def set (now : ℤ) (k value : String) (ttl : ℤ) (redis : Redis) : Redis :=
  Function.update redis k (some (value, now + ttl))

/-- `DEL key`. -/
def del (k : String) (redis : Redis) : Redis := Function.update redis k none

/-- `JSON.parse` of a stored text, as the object that the service reads from it. -/
def parse {α : Type} (ofJson : Json → Option α) (text : String) : RedisTx α :=
  found ((Json.parse readNumber text).bind ofJson) .invalidText

/-- `createChallenge`. -/
def createChallenge (now : ℤ) (challenge : StoredChallenge) : RedisTx Bool := do
  let expiresAt ← found (dateParse challenge.expiresAt) .invalidExpiry
  if expiresAt - now ≤ 0 then return false
  else
    let redis ← get
    if (redis.get now (key "challenge" challenge.challengeID)).isSome then return false
    else
      modify (set now (key "challenge" challenge.challengeID) challenge.text
        (expiresAt - now))
      return true

/-- `getChallenge`. -/
def getChallenge (now : ℤ) (challengeID : String) : RedisTx (Option StoredChallenge) := do
  let redis ← get
  match redis.get now (key "challenge" challengeID) with
  | none => return none
  | some text => some <$> parse StoredChallenge.ofJson text

/-- `putResult`. -/
def putResult (now : ℤ) (challengeID : String) (result : StoredResult) : RedisTx PutOutcome := do
  let expiresAt ← found (dateParse result.expiresAt) .invalidExpiry
  if expiresAt - now ≤ 0 then return .consumed
  else
    let redis ← get
    if (redis.get now (key "consumed" challengeID)).isSome ||
        (redis.get now (key "challenge" challengeID)).isNone then return .consumed
    else
      match redis.get now (key "result" challengeID) with
      | some current => return if current = result.text then .same else .conflict
      | none =>
        modify (set now (key "result" challengeID) result.text (expiresAt - now))
        return .stored

/-- `getResult`. -/
def getResult (now : ℤ) (challengeID : String) : RedisTx (Option StoredResult) := do
  let redis ← get
  match redis.get now (key "result" challengeID) with
  | none => return none
  | some text => some <$> parse StoredResult.ofJson text

/-- `acknowledge`. -/
def acknowledge (now : ℤ) (challengeID proofDigest : String) (tombstoneExpiresAt : ℤ) :
    RedisTx Bool := do
  let redis ← get
  match redis.get now (key "result" challengeID) with
  | none => return false
  | some current =>
    let decoded ← parse some current
    if decoded.text? "proofDigest" ≠ some proofDigest then return false
    else
      modify (del (key "result" challengeID))
      modify (del (key "challenge" challengeID))
      modify (set now (key "consumed" challengeID) "1" (max 1 (tombstoneExpiresAt - now)))
      return true

/-- A call of the store. -/
def exec (now : ℤ) : (call : ChallengeStoreCall) → RedisTx call.Answer
  | .createChallenge challenge => createChallenge now challenge
  | .getChallenge challengeID => getChallenge now challengeID
  | .putResult challengeID result => putResult now challengeID result
  | .getResult challengeID => getResult now challengeID
  | .acknowledge challengeID proofDigest tombstoneExpiresAt =>
    acknowledge now challengeID proofDigest tombstoneExpiresAt

end RedisStore

end ChecksAndBalances
