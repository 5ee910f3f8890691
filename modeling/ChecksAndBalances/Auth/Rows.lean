import ChecksAndBalances.Db.Repository
import Mathlib.Data.Int.Notation
import Mathlib.Data.Nat.Notation

/-!
# Rows of authentication

The tables of `20260807060000_issue_17_auth_foundation` and the identity links of
`20260808060000_issue_19_verusid_linking`, as far as the modelled repositories read or write them.
-/

namespace ChecksAndBalances

/-- `auth_trust_domain`, `TrustDomain`. -/
inductive TrustDomain where
  | participant
  | committee
  deriving DecidableEq, Repr

/-- `authentication_strength`, `AuthenticationStrength`. -/
inductive AuthenticationStrength where
  | verifiedEmail
  | passkey
  | recovery
  deriving DecidableEq, Repr

/-- The stored name of the strength. -/
def AuthenticationStrength.name : AuthenticationStrength → String
  | verifiedEmail => "verified_email"
  | passkey => "passkey"
  | recovery => "recovery"

/-- `auth_account_state`. -/
inductive AuthAccountState where
  | invited
  | active
  | locked
  | suspended
  | closed
  deriving DecidableEq, Repr

/-- The stored name of the state. -/
def AuthAccountState.name : AuthAccountState → String
  | invited => "invited"
  | active => "active"
  | locked => "locked"
  | suspended => "suspended"
  | closed => "closed"

/-- `auth_account`. -/
structure AuthAccount where
  id : Uuid
  externalReference : String
  trustDomain : TrustDomain
  state : AuthAccountState
  participantId : Option Uuid
  version : ℕ
  lockedAt : Option ℤ
  suspendedAt : Option ℤ
  recoveredAt : Option ℤ
  closedAt : Option ℤ
  deriving DecidableEq, Repr

/-- `auth_session_state`. -/
inductive AuthSessionState where
  | active
  | revoked
  | expired
  deriving DecidableEq, Repr

/-- `auth_session`. -/
structure AuthSession where
  id : Uuid
  accountId : Uuid
  trustDomain : TrustDomain
  audience : String
  tokenDigest : String
  csrfDigest : String
  keyVersion : String
  authenticationStrength : AuthenticationStrength
  state : AuthSessionState
  deviceLabel : String
  authenticatedAt : ℤ
  reauthenticatedAt : Option ℤ
  lastSeenAt : ℤ
  idleExpiresAt : ℤ
  absoluteExpiresAt : ℤ
  revokedAt : Option ℤ
  revocationReason : Option String
  deriving DecidableEq, Repr

/-- `contact_preference`; its only channel is email. -/
structure ContactPreference where
  id : Uuid
  participantId : Option Uuid
  authAccountId : Uuid
  destinationReference : String
  lookupDigest : String
  verifiedAt : Option ℤ
  disabledAt : Option ℤ
  deriving DecidableEq, Repr

/-- `auth_challenge_kind`, `AuthChallengeKind`. -/
inductive AuthChallengeKind where
  | passkeyRegistration
  | passkeyAuthentication
  | emailSignIn
  | accountRecovery
  | recoveryGrant
  | emailChange
  deriving DecidableEq, Repr

/-- `auth_challenge_state`. -/
inductive AuthChallengeState where
  | pending
  | consumed
  | expired
  | rejected
  deriving DecidableEq, Repr

/-- `auth_challenge`. -/
structure AuthChallenge where
  id : Uuid
  accountId : Option Uuid
  trustDomain : TrustDomain
  kind : AuthChallengeKind
  state : AuthChallengeState
  secretDigest : String
  destinationReference : Option String
  lookupDigest : Option String
  attemptCount : ℕ
  maximumAttempts : ℕ
  expiresAt : ℤ
  consumedAt : Option ℤ
  createdAt : ℤ
  deriving DecidableEq, Repr

/-- `auth_rate_limit_bucket`. -/
structure AuthRateLimitBucket where
  keyDigest : String
  bucket : String
  attemptCount : ℕ
  windowStartedAt : ℤ
  expiresAt : ℤ
  deriving DecidableEq, Repr

/-- `credential_state`. -/
inductive CredentialState where
  | active
  | disabled
  | revoked
  deriving DecidableEq, Repr

/-- The values of `credential_device_type`. -/
inductive CredentialDeviceType where
  | singleDevice
  | multiDevice
  deriving DecidableEq, Repr

/-- `passkey_metadata`. -/
structure PasskeyMetadata where
  id : Uuid
  participantId : Option Uuid
  authAccountId : Uuid
  credentialReference : String
  relyingPartyId : String
  publicKey : List UInt8
  transports : List String
  credentialDeviceType : CredentialDeviceType
  backedUp : Bool
  deviceLabel : String
  state : CredentialState
  signCount : ℤ
  createdAt : ℤ
  lastUsedAt : Option ℤ
  revokedAt : Option ℤ
  deriving DecidableEq, Repr

/-- `committee_access_state`. -/
inductive CommitteeAccessState where
  | invited
  | approved
  | active
  | suspended
  | revoked
  deriving DecidableEq, Repr

/-- `auth_committee_access`. -/
structure AuthCommitteeAccess where
  id : Uuid
  accountId : Uuid
  committeeId : Uuid
  memberId : Option Uuid
  state : CommitteeAccessState
  invitedByReference : String
  approvedByReference : Option String
  approvedAt : Option ℤ
  activatedAt : Option ℤ
  deriving DecidableEq, Repr

/-- `identity_link_state`, `PersistedIdentityLinkState`. -/
inductive IdentityLinkState where
  | active
  | revalidationRequired
  | unlinked
  deriving DecidableEq, Repr

/-- The stored name of the state. -/
def IdentityLinkState.name : IdentityLinkState → String
  | active => "active"
  | revalidationRequired => "revalidation_required"
  | unlinked => "unlinked"

/-- `verus_identity_link`; its only network is VRSCTEST. -/
structure VerusIdentityLink where
  id : Uuid
  externalReference : String
  authAccountId : Uuid
  participantId : Option Uuid
  trustDomain : TrustDomain
  identityAddress : String
  displayNameSnapshot : Option String
  proofMethod : String
  proofDigest : String
  requestSignerIdentity : String
  observedIdentityStatus : String
  observedIdentityBlockHeight : ℤ
  observedIdentityTxid : String
  consentedScopes : List String
  state : IdentityLinkState
  linkedAt : ℤ
  revalidatedAt : Option ℤ
  revalidationReason : Option String
  unlinkedAt : Option ℤ
  version : ℕ
  updatedAt : ℤ
  deriving DecidableEq, Repr

/-- The authentication tables. -/
structure AuthTables where
  authAccounts : List AuthAccount
  authSessions : List AuthSession
  contactPreferences : List ContactPreference
  authChallenges : List AuthChallenge
  authRateLimitBuckets : List AuthRateLimitBucket
  passkeys : List PasskeyMetadata := []
  committeeAccesses : List AuthCommitteeAccess := []
  identityLinks : List VerusIdentityLink := []

end ChecksAndBalances
