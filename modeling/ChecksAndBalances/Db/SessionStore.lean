import ChecksAndBalances.Db.AuthRepository
import ChecksAndBalances.Db.LifecycleRepository

/-!
# The session store

The part of `AuthRepository` that implements `SessionStore`, over the constraints and triggers of
`auth_session`.  What triggers forbid to change, no statement changes.
-/

namespace ChecksAndBalances

open Lib Lib.Tx

/-- `SessionRecord`. -/
structure SessionRecord where
  id : Uuid
  accountReference : String
  trustDomain : TrustDomain
  audience : String
  tokenDigest : String
  csrfDigest : String
  authenticationStrength : AuthenticationStrength
  authenticatedAt : ℤ
  reauthenticatedAt : Option ℤ
  idleExpiresAt : ℤ
  absoluteExpiresAt : ℤ
  revokedAt : Option ℤ
  deviceLabel : String
  deriving DecidableEq, Repr

/-! ## Constraints and triggers -/

/-- The CHECK constraints of `auth_session`. -/
def authSessionChecks : List (CheckConstraint AuthSession) := [
  { name := "auth_session_time_check"
    holds := fun s => s.authenticatedAt ≤ s.lastSeenAt && s.lastSeenAt < s.absoluteExpiresAt &&
      s.idleExpiresAt ≤ s.absoluteExpiresAt },
  { name := "auth_session_revocation_check"
    holds := fun s => if s.state = .active then s.revokedAt.isNone && s.revocationReason.isNone
      else s.revokedAt.isSome && s.revocationReason.isSome },
  { name := "auth_session_committee_strength_check"
    holds := fun s => s.trustDomain ≠ .committee || s.authenticationStrength = .passkey }]

/-- `enforce_auth_trust_domain_match` on `auth_session`, and the CHECK constraints. -/
def guardSession (accounts : List AuthAccount) (s : AuthSession) : Except RepositoryError Unit :=
  if (accounts.find? fun a => a.id = s.accountId).map AuthAccount.trustDomain =
      some s.trustDomain then enforceChecks authSessionChecks s
  else .error (.raised "authentication record crosses trust domains")

namespace AuthRepository

/-- The row of a new session. -/
def sessionRow (keyVersion : String) (accountId : Uuid) (record : SessionRecord) : AuthSession :=
  { id := record.id
    accountId
    trustDomain := record.trustDomain
    audience := record.audience
    tokenDigest := record.tokenDigest
    csrfDigest := record.csrfDigest
    keyVersion
    authenticationStrength := record.authenticationStrength
    state := .active
    deviceLabel := record.deviceLabel
    authenticatedAt := record.authenticatedAt
    reauthenticatedAt := record.reauthenticatedAt
    lastSeenAt := record.authenticatedAt
    idleExpiresAt := record.idleExpiresAt
    absoluteExpiresAt := record.absoluteExpiresAt
    revokedAt := none
    revocationReason := none }

/-- `createSession`, with `sessionKeyVersions`. -/
def createSession (sessionKeyVersions : TrustDomain → String) (record : SessionRecord) :
    DbTx Unit := do
  let account ← account record.accountReference (some record.trustDomain)
  require (account.state = .active) (.conflict "authentication account is not active")
  let row := sessionRow (sessionKeyVersions record.trustDomain) account.id record
  let db ← get
  lift (fun e => e) (guardSession db.authAccounts row)
  requireUnique db.authSessions (fun s => s.id = record.id) "auth_session_pkey"
  requireUnique db.authSessions (fun s => s.tokenDigest = record.tokenDigest)
    "auth_session_token_digest_key"
  modify fun db => { db with authSessions := db.authSessions ++ [row] }

/-- `mapSession`. -/
def mapSession (session : AuthSession) (account : AuthAccount) : SessionRecord :=
  { id := session.id
    accountReference := account.externalReference
    trustDomain := session.trustDomain
    audience := session.audience
    tokenDigest := session.tokenDigest
    csrfDigest := session.csrfDigest
    authenticationStrength := session.authenticationStrength
    authenticatedAt := session.authenticatedAt
    reauthenticatedAt := session.reauthenticatedAt
    idleExpiresAt := session.idleExpiresAt
    absoluteExpiresAt := session.absoluteExpiresAt
    revokedAt := session.revokedAt
    deviceLabel := session.deviceLabel }

/-- `findByTokenDigest`. -/
def findByTokenDigest (trustDomain : TrustDomain) (tokenDigest : String) :
    DbTx (Option SessionRecord) := do
  let db ← get
  let rows := db.authSessions.flatMap fun session =>
    (db.authAccounts.filter fun account => account.id = session.accountId &&
        session.trustDomain = trustDomain && session.tokenDigest = tokenDigest &&
        account.state = .active).map (mapSession session)
  return rows.head?

/-- The UPDATE statements of `auth_session`. -/
def updateSessions (selected : AuthSession → Bool) (f : AuthSession → AuthSession) : DbTx Unit := do
  let db ← get
  let authSessions ← lift (fun e => e)
    (Table.update selected f (fun _ new => guardSession db.authAccounts new) db.authSessions)
  modify fun db => { db with authSessions }

/-- The row of a revoked session. -/
def revokedRow (reasonCategory : String) (atTime : ℤ) (s : AuthSession) : AuthSession :=
  { s with state := .revoked, revokedAt := some atTime, revocationReason := some reasonCategory }

/-- `revoke`. -/
def revoke (sessionId : Uuid) (reasonCategory : String) (atTime : ℤ) : DbTx Unit :=
  updateSessions (fun s => s.id = sessionId && s.state = .active) (revokedRow reasonCategory atTime)

/-- `revokeAll`. -/
def revokeAll (accountReference : String) (trustDomain : TrustDomain) (reasonCategory : String)
    (atTime : ℤ) : DbTx ℕ := do
  let db ← get
  let selected := fun (s : AuthSession) => s.trustDomain = trustDomain && s.state = .active &&
    db.authAccounts.any fun a => a.id = s.accountId && a.externalReference = accountReference
  updateSessions selected (revokedRow reasonCategory atTime)
  return db.authSessions.countP selected

/-- `touch`. -/
def touch (sessionId : Uuid) (idleExpiresAt atTime : ℤ) : DbTx Unit :=
  updateSessions (fun s => s.id = sessionId && s.state = .active)
    fun s => { s with idleExpiresAt, lastSeenAt := atTime }

end AuthRepository

end ChecksAndBalances
