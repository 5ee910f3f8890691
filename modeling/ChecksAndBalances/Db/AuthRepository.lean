import ChecksAndBalances.Db.Audit

/-!
# The authentication repository

`AuthRepository` of `packages/db/src/auth-repository.ts`, as far as sign-in by email, recovery and
the security of an account use it, over the constraints and triggers of
`20260807060000_issue_17_auth_foundation`.  A single statement on the pool is a transaction of its
own.
-/

namespace ChecksAndBalances

open Lib Lib.Tx

/-! ## Inputs and results -/

/-- `CreateAuthAccountInput`. -/
structure CreateAuthAccountInput where
  externalReference : String
  trustDomain : TrustDomain
  participantReference : Option String
  state : Option AuthAccountState

/-- `RegisterVerifiedEmailInput`. -/
structure RegisterVerifiedEmailInput where
  accountReference : String
  participantReference : Option String
  destinationReference : String
  lookupDigest : String
  verifiedAt : ℤ

/-- `AuthChallengeRecord`. -/
structure AuthChallengeRecord where
  id : Uuid
  accountReference : Option String
  trustDomain : TrustDomain
  kind : AuthChallengeKind
  secretDigest : String
  destinationReference : Option String
  lookupDigest : Option String
  expiresAt : ℤ
  createdAt : ℤ
  deriving DecidableEq, Repr

/-- `ConsumedAuthChallenge`. -/
structure ConsumedAuthChallenge extends AuthChallengeRecord where
  consumedAt : ℤ
  deriving DecidableEq, Repr

/-- The input of `consume`. -/
structure ConsumeInput where
  challengeId : Option Uuid := none
  secretDigest : Option String := none
  kind : AuthChallengeKind
  trustDomain : TrustDomain
  atTime : ℤ

/-- The input of `increment`. -/
structure IncrementInput where
  keyDigest : String
  bucket : String
  windowStartedAt : ℤ
  expiresAt : ℤ

/-- `VerifiedEmailAccount`. -/
structure VerifiedEmailAccount where
  accountReference : String
  trustDomain : TrustDomain
  destinationReference : String
  accountState : AuthAccountState
  deriving DecidableEq, Repr

/-- The input of `recoverAndRevokeSessions`. -/
structure RecoverInput where
  accountReference : String
  trustDomain : TrustDomain
  committeeReviewRequired : Bool
  destinationReference : String
  policyVersionReference : String
  softwareVersion : String
  correlationId : String
  atTime : ℤ

/-- `SecurityMutationContext`. -/
structure SecurityMutationContext where
  actorReference : String
  authenticationStrength : AuthenticationStrength
  policyVersionReference : String
  softwareVersion : String
  correlationId : String

/-- The input of `lockAndRevokeSessions`. -/
structure LockInput where
  accountReference : String
  trustDomain : TrustDomain
  reasonCategory : String
  context : SecurityMutationContext
  atTime : ℤ

/-- The input of `changeVerifiedEmail`. -/
structure ChangeEmailInput where
  accountReference : String
  trustDomain : TrustDomain
  newDestinationReference : String
  newLookupDigest : String
  context : SecurityMutationContext
  atTime : ℤ

/-- The result of `changeVerifiedEmail`. -/
structure ChangedEmail where
  oldDestinationReferences : List String
  revokedSessions : ℕ
  deriving DecidableEq, Repr

/-! ## Constraints and triggers -/

/-- `auth_account_subject_domain_check`. -/
def AuthAccount.subjectMatchesDomain (a : AuthAccount) : Bool :=
  match a.trustDomain with
  | .participant => a.participantId.isSome
  | .committee => a.participantId.isNone

/-- `auth_account_state_timestamp_check`. -/
def AuthAccount.stateHasTimestamp (a : AuthAccount) : Bool :=
  match a.state with
  | .locked => a.lockedAt.isSome
  | .suspended => a.suspendedAt.isSome
  | .closed => a.closedAt.isSome
  | _ => true

/-- The kinds whose challenge goes to a destination. -/
def AuthChallengeKind.hasDestination (kind : AuthChallengeKind) : Bool :=
  kind = .emailSignIn || kind = .accountRecovery || kind = .emailChange

/-- The row constraints of `auth_challenge` that an insert can violate. -/
def checkAuthChallenge (c : AuthChallenge) : DbTx Unit := do
  require (c.createdAt < c.expiresAt) (.checkViolation "auth_challenge_time_check")
  require ((c.kind = .passkeyAuthentication) = (c.accountId = none))
    (.checkViolation "auth_challenge_account_check")
  require (c.kind.hasDestination = c.destinationReference.isSome)
    (.checkViolation "auth_challenge_destination_check")
  require ((c.kind = .emailChange) = (c.lookupDigest.isSome = true))
    (.checkViolation "auth_challenge_email_change_lookup_check")

/-- `enforce_auth_trust_domain_match` on `auth_challenge`. -/
def enforceAuthTrustDomainMatch (accounts : List AuthAccount) (c : AuthChallenge) :
    Except RepositoryError Unit :=
  match c.accountId with
  | none => .ok ()
  | some accountId =>
    if (accounts.find? fun a => a.id = accountId).map AuthAccount.trustDomain =
        some c.trustDomain then .ok ()
    else .error (.raised "authentication record crosses trust domains")

/-- `enforce_auth_subject_match` on `contact_preference`. -/
def enforceAuthSubjectMatch (accounts : List AuthAccount) (c : ContactPreference) :
    Except RepositoryError Unit :=
  if (accounts.find? fun a => a.id = c.authAccountId).bind AuthAccount.participantId =
      c.participantId then .ok ()
  else .error (.raised "authentication record crosses participant subjects")

namespace AuthRepository

/-! ## Private methods -/

/-- `account`. -/
def account (externalReference : String) (trustDomain : Option TrustDomain) :
    DbTx AuthAccount := do
  let db ← get
  found (db.authAccounts.find? fun a => a.externalReference = externalReference &&
      trustDomain.all fun d => a.trustDomain = d)
    (.conflict "authentication account is unavailable")

/-- `participantId` of a reference that may be missing. -/
def participantId (reference : Option String) : DbTx (Option Uuid) := do
  if truthy reference then
    let db ← get
    let participant ← found
      (db.participants.find? fun p => some p.externalReference = reference)
      (.conflict "participant account is unavailable")
    return some participant.id
  else return none

/-- The INSERT statement of `contact_preference`. -/
def insertContact (participantId : Option Uuid) (accountId : Uuid)
    (destinationReference lookupDigest : String) (verifiedAt : ℤ) : DbTx Unit := do
  let id ← newId
  let contact : ContactPreference :=
    { id, participantId, authAccountId := accountId, destinationReference, lookupDigest
      verifiedAt := some verifiedAt, disabledAt := none }
  let db ← get
  lift (fun e => e) (enforceAuthSubjectMatch db.authAccounts contact)
  requireUnique db.contactPreferences
    (fun c => participantId.isSome && c.participantId = participantId &&
      c.destinationReference = destinationReference)
    "contact_preference_participant_id_channel_destination_refer_key"
  requireUnique db.contactPreferences (fun c => c.lookupDigest = lookupDigest)
    "contact_preference_lookup_digest_key"
  modify fun db => { db with contactPreferences := db.contactPreferences ++ [contact] }

/-- The UPDATE statement of `auth_session`; the value is its row count. -/
def revokeSessions (accountId : Uuid) (reason : String) (atTime : ℤ) : DbTx ℕ := do
  let db ← get
  let selected := fun (s : AuthSession) => s.accountId = accountId && s.state = .active
  modify fun db => { db with
    authSessions := Table.set selected
      (fun s => { s with
        state := .revoked, revokedAt := some atTime, revocationReason := some reason })
      db.authSessions }
  return db.authSessions.countP selected

/-- `UPDATE "auth_account" SET … WHERE "id" = $1`. -/
def updateAccount (accountId : Uuid) (f : AuthAccount → AuthAccount) : DbTx Unit :=
  modify fun db => { db with
    authAccounts := Table.set (fun a => a.id = accountId) f db.authAccounts }

/-- `appendSecurityAudit`. -/
def appendSecurityAudit (accountReference command : String) (newState : Option String)
    (reasonCategory : String) (context : SecurityMutationContext) : DbTx Unit := do
  let _ ← appendAudit
    { actor :=
        { type := "auth_account"
          reference := context.actorReference
          authenticationStrength := context.authenticationStrength.name }
      committeeReference := "global-auth"
      policyVersionReference := context.policyVersionReference
      softwareVersion := context.softwareVersion
      reasonCategory
      correlationId := context.correlationId
      idempotencyKey := context.correlationId
      requestDigest := context.correlationId }
    none command
    { type := "auth_account", reference := accountReference, priorState := none, newState }

/-! ## Accounts and contacts -/

/-- `createAccount`. -/
def createAccount (input : CreateAuthAccountInput) : DbTx Unit := do
  requireOpaqueReference input.externalReference "accountReference"
  let participantId ← participantId input.participantReference
  let id ← newId
  let account : AuthAccount :=
    { id
      externalReference := input.externalReference
      trustDomain := input.trustDomain
      state := input.state.getD .invited
      participantId
      version := 1
      lockedAt := none, suspendedAt := none, recoveredAt := none, closedAt := none }
  require (account.subjectMatchesDomain = true)
    (.checkViolation "auth_account_subject_domain_check")
  require (account.stateHasTimestamp = true)
    (.checkViolation "auth_account_state_timestamp_check")
  let db ← get
  requireUnique db.authAccounts (fun a => a.id = id) "auth_account_pkey"
  requireUnique db.authAccounts (fun a => a.externalReference = input.externalReference)
    "auth_account_external_reference_key"
  requireUnique db.authAccounts
    (fun a => participantId.isSome && a.participantId = participantId &&
      a.trustDomain = input.trustDomain)
    "auth_account_participant_id_trust_domain_key"
  modify fun db => { db with authAccounts := db.authAccounts ++ [account] }

/-- `registerVerifiedEmail`. -/
def registerVerifiedEmail (input : RegisterVerifiedEmailInput) : DbTx Unit := do
  requireOpaqueReference input.accountReference "accountReference"
  requireOpaqueReference input.destinationReference "destinationReference"
  let account ← account input.accountReference none
  let participantId ← participantId input.participantReference
  insertContact participantId account.id input.destinationReference input.lookupDigest
    input.verifiedAt

/-- `findByLookupDigest`. -/
def findByLookupDigest (trustDomain : TrustDomain) (lookupDigest : String) :
    DbTx (Option VerifiedEmailAccount) := do
  let db ← get
  let rows := db.contactPreferences.flatMap fun contact =>
    (db.authAccounts.filter fun account => account.id = contact.authAccountId &&
        account.trustDomain = trustDomain && contact.lookupDigest = lookupDigest &&
        contact.verifiedAt.isSome && contact.disabledAt.isNone).map fun account =>
      { accountReference := account.externalReference
        trustDomain := account.trustDomain
        destinationReference := contact.destinationReference
        accountState := account.state }
  return rows.head?

/-! ## Challenges and rate limits -/

/-- The account of a challenge, where it names one. -/
def challengeAccount (reference : Option String) (trustDomain : TrustDomain) :
    DbTx (Option Uuid) := do
  if truthy reference then
    let account ← account (reference.getD "") (some trustDomain)
    return some account.id
  else return none

/-- `createChallenge`. -/
def createChallenge (record : AuthChallengeRecord) : DbTx Unit := do
  let accountId ← challengeAccount record.accountReference record.trustDomain
  let challenge : AuthChallenge :=
    { id := record.id
      accountId
      trustDomain := record.trustDomain
      kind := record.kind
      state := .pending
      secretDigest := record.secretDigest
      destinationReference := record.destinationReference
      lookupDigest := record.lookupDigest
      attemptCount := 0
      maximumAttempts := 1
      expiresAt := record.expiresAt
      consumedAt := none
      createdAt := record.createdAt }
  let db ← get
  lift (fun e => e) (enforceAuthTrustDomainMatch db.authAccounts challenge)
  checkAuthChallenge challenge
  requireUnique db.authChallenges (fun c => c.id = record.id) "auth_challenge_pkey"
  requireUnique db.authChallenges (fun c => c.secretDigest = record.secretDigest)
    "auth_challenge_secret_digest_key"
  modify fun db => { db with authChallenges := db.authChallenges ++ [challenge] }

/-- The rows that `consume` updates. -/
def ConsumeInput.selects (input : ConsumeInput) (c : AuthChallenge) : Bool :=
  input.challengeId.all (fun id => c.id = id) &&
    input.secretDigest.all (fun digest => c.secretDigest = digest) &&
    c.kind = input.kind && c.trustDomain = input.trustDomain && c.state = .pending &&
    input.atTime < c.expiresAt && c.attemptCount < c.maximumAttempts

/-- The row that `consume` writes. -/
def consumedRow (atTime : ℤ) (c : AuthChallenge) : AuthChallenge :=
  { c with state := .consumed, consumedAt := some atTime, attemptCount := c.attemptCount + 1 }

/-- The result of `consume` for a row: its account is joined. -/
def toConsumed (accounts : List AuthAccount) (atTime : ℤ) (c : AuthChallenge) :
    ConsumedAuthChallenge :=
  { id := c.id
    accountReference := c.accountId.bind fun id =>
      (accounts.find? fun a => a.id = id).map AuthAccount.externalReference
    trustDomain := c.trustDomain
    kind := c.kind
    secretDigest := c.secretDigest
    destinationReference := c.destinationReference
    lookupDigest := c.lookupDigest
    expiresAt := c.expiresAt
    createdAt := c.createdAt
    consumedAt := atTime }

/-- `consume`. -/
def consume (input : ConsumeInput) : DbTx (Option ConsumedAuthChallenge) := do
  let db ← get
  let authChallenges ← lift (fun e => e)
    (Table.update (ConsumeInput.selects input) (consumedRow input.atTime)
      (fun _ new => enforceAuthTrustDomainMatch db.authAccounts new) db.authChallenges)
  modify fun db => { db with authChallenges }
  return (db.authChallenges.find? (ConsumeInput.selects input)).map
    (toConsumed db.authAccounts input.atTime)

/-- `increment`. -/
def increment (input : IncrementInput) : DbTx ℕ := do
  let db ← get
  match db.authRateLimitBuckets.find? fun b => b.keyDigest = input.keyDigest with
  | some bucket =>
    modify fun db => { db with
      authRateLimitBuckets := Table.set (fun b => b.keyDigest = input.keyDigest)
        (fun b => { b with attemptCount := b.attemptCount + 1 }) db.authRateLimitBuckets }
    return bucket.attemptCount + 1
  | none =>
    require (input.windowStartedAt < input.expiresAt)
      (.checkViolation "auth_rate_limit_bucket_time_check")
    modify fun db => { db with
      authRateLimitBuckets := db.authRateLimitBuckets ++
        [{ keyDigest := input.keyDigest
           bucket := input.bucket
           attemptCount := 1
           windowStartedAt := input.windowStartedAt
           expiresAt := input.expiresAt }] }
    return 1

/-! ## Recovery and security -/

/-- `recoverAndRevokeSessions`. -/
def recoverAndRevokeSessions (input : RecoverInput) : DbTx ℕ := do
  let account ← account input.accountReference (some input.trustDomain)
  require (account.state = .active ∨ account.state = .locked)
    (.conflict "authentication account cannot be recovered")
  let revoked ← revokeSessions account.id "account_recovery" input.atTime
  let state : AuthAccountState := if input.committeeReviewRequired then .suspended else .active
  updateAccount account.id fun a => { a with
    state
    recoveredAt := some input.atTime
    suspendedAt := if state = .suspended then some input.atTime else none
    lockedAt := none
    version := a.version + 1 }
  let _ ← appendAudit
    { actor :=
        { type := "account_recovery"
          reference := input.accountReference
          authenticationStrength := "recovery" }
      committeeReference := "global-auth"
      policyVersionReference := input.policyVersionReference
      softwareVersion := input.softwareVersion
      reasonCategory := if input.committeeReviewRequired then "committee_recovery_suspended"
        else "participant_recovered"
      correlationId := input.correlationId
      idempotencyKey := input.correlationId
      requestDigest := input.correlationId }
    none "recoverAccount"
    { type := "auth_account", reference := input.accountReference, priorState := none
      newState := some state.name }
  return revoked

/-- `lockAndRevokeSessions`. -/
def lockAndRevokeSessions (input : LockInput) : DbTx ℕ := do
  let account ← account input.accountReference (some input.trustDomain)
  require (account.state = .active) (.conflict "authentication account cannot be locked")
  let revoked ← revokeSessions account.id input.reasonCategory input.atTime
  updateAccount account.id fun a => { a with
    state := .locked, lockedAt := some input.atTime, version := a.version + 1 }
  appendSecurityAudit input.accountReference "lockAccount" (some "locked") input.reasonCategory
    input.context
  return revoked

/-- The enabled contacts of an account. -/
def ofAccount (accountId : Uuid) (c : ContactPreference) : Bool :=
  c.authAccountId = accountId && c.disabledAt.isNone

/-- `changeVerifiedEmail`. -/
def changeVerifiedEmail (input : ChangeEmailInput) : DbTx ChangedEmail := do
  requireOpaqueReference input.newDestinationReference "newDestinationReference"
  let account ← account input.accountReference (some input.trustDomain)
  require (account.state = .active) (.conflict "verified email cannot be changed")
  let db ← get
  let prior := db.contactPreferences.filter (ofAccount account.id)
  let contactPreferences ← lift (fun e => e)
    (Table.update (ofAccount account.id) (fun c => { c with disabledAt := some input.atTime })
      (fun _ new => enforceAuthSubjectMatch db.authAccounts new) db.contactPreferences)
  modify fun db => { db with contactPreferences }
  insertContact account.participantId account.id input.newDestinationReference
    input.newLookupDigest input.atTime
  let revokedSessions ← revokeSessions account.id "verified_email_changed" input.atTime
  appendSecurityAudit input.accountReference "changeVerifiedEmail" none "verified_email_changed"
    input.context
  return { oldDestinationReferences := prior.map ContactPreference.destinationReference
           revokedSessions }

end AuthRepository

end ChecksAndBalances
