import ChecksAndBalances.Auth.Rows
import ChecksAndBalances.Db.Repository
import ChecksAndBalances.Domain.Lifecycles
import Mathlib.Data.Int.Notation
import Mathlib.Data.Nat.Notation

/-!
# Rows with a lifecycle

The tables that `LifecycleRepository` moves, besides `committee`, with every column that a command,
a CHECK constraint or an update trigger reads.
-/

namespace ChecksAndBalances

/-- `renewal_cycle`. -/
structure RenewalCycle where
  id : Uuid
  externalReference : String
  committeeId : Uuid
  state : RenewalCycleState
  periodStartsAt : ℤ
  periodEndsAt : ℤ
  version : ℕ
  deriving DecidableEq, Repr

/-- `wallet_challenge`; its only network is VRSCTEST. -/
structure WalletChallenge where
  id : Uuid
  externalReference : String
  participantId : Option Uuid := none
  state : WalletChallengeState
  nonceHash : String
  audience : String
  requestDigest : String
  expiresAt : ℤ
  consumedAt : Option ℤ
  version : ℕ
  authAccountId : Option Uuid
  trustDomain : TrustDomain := .participant
  purpose : String
  requestId : Option String
  pollingTokenDigest : Option String
  callbackUrl : String
  applicationIdentityAddress : String
  consentedScopes : List String
  issuedAt : Option ℤ
  responseDigest : Option String
  linkedIdentityAddress : Option String := none
  rejectionReason : Option String
  deriving DecidableEq, Repr

/-- `consent_receipt`. -/
structure ConsentReceipt where
  id : Uuid
  externalReference : String
  participantId : Option Uuid
  authAccountId : Uuid
  committeeId : Option Uuid
  state : ConsentState
  acknowledgedAt : Option ℤ
  withdrawnAt : Option ℤ
  version : ℕ
  deriving DecidableEq, Repr

/-- `appeal`. -/
structure Appeal where
  id : Uuid
  externalReference : String
  committeeId : Uuid
  state : AppealState
  assignedReference : Option String
  resolvedAt : Option ℤ
  version : ℕ
  deriving DecidableEq, Repr

/-- `privacy_rights_request`. -/
structure PrivacyRightsRequest where
  id : Uuid
  externalReference : String
  committeeId : Option Uuid
  state : PrivacyRequestState
  completedAt : Option ℤ
  version : ℕ
  deriving DecidableEq, Repr

/-- `notification`. -/
structure Notification where
  id : Uuid
  externalReference : String
  committeeId : Option Uuid
  participantId : Option Uuid
  authAccountId : Uuid
  state : NotificationState
  deliveredAt : Option ℤ
  version : ℕ
  deriving DecidableEq, Repr

/-- `relying_party_client`. -/
structure RelyingPartyClient where
  id : Uuid
  externalReference : String
  committeeId : Option Uuid
  state : RelyingPartyClientState
  version : ℕ
  deriving DecidableEq, Repr

/-- The lifecycle tables.  Of the artifacts of a renewal cycle (`eligible_snapshot`,
`cycle_selection`, `cycle_report`) only the cycle they belong to is read. -/
structure LifecycleTables where
  renewalCycles : List RenewalCycle
  eligibleSnapshots : List Uuid
  cycleSelections : List Uuid
  cycleReports : List Uuid
  walletChallenges : List WalletChallenge
  consentReceipts : List ConsentReceipt
  appeals : List Appeal
  privacyRightsRequests : List PrivacyRightsRequest
  notifications : List Notification
  relyingPartyClients : List RelyingPartyClient

end ChecksAndBalances
