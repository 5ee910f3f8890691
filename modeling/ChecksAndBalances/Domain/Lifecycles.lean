import ChecksAndBalances.Domain.Verification

/-!
# Lifecycles of the other aggregates

The state machines of `packages/domain/src` that `LifecycleRepository` drives: `committee.ts`,
`renewal-cycle.ts`, `wallet-challenge.ts`, `consent.ts`, `appeal.ts`, `privacy-request.ts`,
`notification.ts` and `relying-party-client.ts`.  Every command is `applyTransition` at its own
expected states and next state.
-/

namespace ChecksAndBalances

/-- A lifecycle command of the domain. -/
abbrev LifecycleStep (State : Type) := State → Except InvalidTransitionError State

/-! ## Committees -/

/-- `COMMITTEE_STATES`. -/
inductive CommitteeState where
  | proposed
  | forming
  | policyReview
  | testnetProvisioning
  | testnetReady
  | pilotReview
  | pilotApproved
  | active
  | suspended
  | retired
  deriving DecidableEq, Repr

/-- The stored name of the state. -/
def CommitteeState.name : CommitteeState → String
  | proposed => "proposed"
  | forming => "forming"
  | policyReview => "policy_review"
  | testnetProvisioning => "testnet_provisioning"
  | testnetReady => "testnet_ready"
  | pilotReview => "pilot_review"
  | pilotApproved => "pilot_approved"
  | active => "active"
  | suspended => "suspended"
  | retired => "retired"

instance : ToString CommitteeState := ⟨CommitteeState.name⟩

def beginCommitteeFormation : LifecycleStep CommitteeState := fun s =>
  applyTransition .committee "beginCommitteeFormation" s [.proposed] .forming

def beginCommitteePolicyReview : LifecycleStep CommitteeState := fun s =>
  applyTransition .committee "beginCommitteePolicyReview" s [.forming] .policyReview

def beginTestnetProvisioning : LifecycleStep CommitteeState := fun s =>
  applyTransition .committee "beginTestnetProvisioning" s [.policyReview] .testnetProvisioning

def markCommitteeTestnetReady : LifecycleStep CommitteeState := fun s =>
  applyTransition .committee "markCommitteeTestnetReady" s [.testnetProvisioning] .testnetReady

def beginCommitteePilotReview : LifecycleStep CommitteeState := fun s =>
  applyTransition .committee "beginCommitteePilotReview" s [.testnetReady] .pilotReview

def approveCommitteePilot : LifecycleStep CommitteeState := fun s =>
  applyTransition .committee "approveCommitteePilot" s [.pilotReview] .pilotApproved

def activateCommittee : LifecycleStep CommitteeState := fun s =>
  applyTransition .committee "activateCommittee" s [.pilotApproved] .active

def suspendCommittee : LifecycleStep CommitteeState := fun s =>
  applyTransition .committee "suspendCommittee" s [.pilotApproved] .suspended

def retireCommittee : LifecycleStep CommitteeState := fun s =>
  applyTransition .committee "retireCommittee" s [.pilotApproved] .retired

def reactivateCommittee : LifecycleStep CommitteeState := fun s =>
  applyTransition .committee "reactivateCommittee" s [.suspended] .active

def retireSuspendedCommittee : LifecycleStep CommitteeState := fun s =>
  applyTransition .committee "retireSuspendedCommittee" s [.suspended] .retired

/-! ## Renewal cycles -/

/-- `RENEWAL_CYCLE_STATES`. -/
inductive RenewalCycleState where
  | draft
  | snapshotCommitted
  | selectionPending
  | selectionReady
  | noticesPending
  | inProgress
  | reporting
  | published
  | cancelled
  deriving DecidableEq, Repr

/-- The stored name of the state. -/
def RenewalCycleState.name : RenewalCycleState → String
  | draft => "draft"
  | snapshotCommitted => "snapshot_committed"
  | selectionPending => "selection_pending"
  | selectionReady => "selection_ready"
  | noticesPending => "notices_pending"
  | inProgress => "in_progress"
  | reporting => "reporting"
  | published => "published"
  | cancelled => "cancelled"

instance : ToString RenewalCycleState := ⟨RenewalCycleState.name⟩

def commitEligibleSnapshot : LifecycleStep RenewalCycleState := fun s =>
  applyTransition .renewalCycle "commitEligibleSnapshot" s [.draft] .snapshotCommitted

def requestRenewalSelection : LifecycleStep RenewalCycleState := fun s =>
  applyTransition .renewalCycle "requestRenewalSelection" s [.snapshotCommitted] .selectionPending

def recordRenewalSelection : LifecycleStep RenewalCycleState := fun s =>
  applyTransition .renewalCycle "recordRenewalSelection" s [.selectionPending] .selectionReady

def queueRenewalNotices : LifecycleStep RenewalCycleState := fun s =>
  applyTransition .renewalCycle "queueRenewalNotices" s [.selectionReady] .noticesPending

def beginRenewalCycle : LifecycleStep RenewalCycleState := fun s =>
  applyTransition .renewalCycle "beginRenewalCycle" s [.noticesPending] .inProgress

def beginRenewalReporting : LifecycleStep RenewalCycleState := fun s =>
  applyTransition .renewalCycle "beginRenewalReporting" s [.inProgress] .reporting

def publishRenewalReport : LifecycleStep RenewalCycleState := fun s =>
  applyTransition .renewalCycle "publishRenewalReport" s [.reporting] .published

def cancelDraftRenewalCycle : LifecycleStep RenewalCycleState := fun s =>
  applyTransition .renewalCycle "cancelDraftRenewalCycle" s [.draft] .cancelled

/-! ## Wallet challenges -/

/-- `wallet_challenge_state`: `WALLET_CHALLENGE_STATES` and `cancelled`, which only the linking
repository writes. -/
inductive WalletChallengeState where
  | created
  | presented
  | responseReceived
  | consumed
  | expired
  | rejected
  | cancelled
  deriving DecidableEq, Repr

/-- The stored name of the state. -/
def WalletChallengeState.name : WalletChallengeState → String
  | created => "created"
  | presented => "presented"
  | responseReceived => "response_received"
  | consumed => "consumed"
  | expired => "expired"
  | rejected => "rejected"
  | cancelled => "cancelled"

instance : ToString WalletChallengeState := ⟨WalletChallengeState.name⟩

def presentWalletChallenge : LifecycleStep WalletChallengeState := fun s =>
  applyTransition .walletChallenge "presentWalletChallenge" s [.created] .presented

def recordWalletResponse : LifecycleStep WalletChallengeState := fun s =>
  applyTransition .walletChallenge "recordWalletResponse" s [.presented] .responseReceived

def consumeWalletChallenge : LifecycleStep WalletChallengeState := fun s =>
  applyTransition .walletChallenge "consumeWalletChallenge" s [.responseReceived] .consumed

def rejectWalletResponse : LifecycleStep WalletChallengeState := fun s =>
  applyTransition .walletChallenge "rejectWalletResponse" s [.responseReceived] .rejected

def expireWalletChallenge : LifecycleStep WalletChallengeState := fun s =>
  applyTransition .walletChallenge "expireWalletChallenge" s [.created, .presented] .expired

/-! ## Consents -/

/-- `CONSENT_STATES`. -/
inductive ConsentState where
  | pending
  | acknowledged
  | withdrawn
  deriving DecidableEq, Repr

/-- The stored name of the state. -/
def ConsentState.name : ConsentState → String
  | pending => "pending"
  | acknowledged => "acknowledged"
  | withdrawn => "withdrawn"

instance : ToString ConsentState := ⟨ConsentState.name⟩

def acknowledgeConsent : LifecycleStep ConsentState := fun s =>
  applyTransition .consent "acknowledgeConsent" s [.pending] .acknowledged

def withdrawConsent : LifecycleStep ConsentState := fun s =>
  applyTransition .consent "withdrawConsent" s [.acknowledged] .withdrawn

/-! ## Appeals -/

/-- `APPEAL_STATES`. -/
inductive AppealState where
  | opened
  | assigned
  | underReview
  | upheld
  | denied
  | remanded
  | withdrawn
  deriving DecidableEq, Repr

/-- The stored name of the state. -/
def AppealState.name : AppealState → String
  | opened => "opened"
  | assigned => "assigned"
  | underReview => "under_review"
  | upheld => "upheld"
  | denied => "denied"
  | remanded => "remanded"
  | withdrawn => "withdrawn"

instance : ToString AppealState := ⟨AppealState.name⟩

def assignAppeal : LifecycleStep AppealState := fun s =>
  applyTransition .appeal "assignAppeal" s [.opened] .assigned

def beginAppealReview : LifecycleStep AppealState := fun s =>
  applyTransition .appeal "beginAppealReview" s [.assigned] .underReview

def upholdAppealCase : LifecycleStep AppealState := fun s =>
  applyTransition .appeal "upholdAppealCase" s [.underReview] .upheld

def denyAppealCase : LifecycleStep AppealState := fun s =>
  applyTransition .appeal "denyAppealCase" s [.underReview] .denied

def remandAppealCase : LifecycleStep AppealState := fun s =>
  applyTransition .appeal "remandAppealCase" s [.underReview] .remanded

def withdrawAppealCase : LifecycleStep AppealState := fun s =>
  applyTransition .appeal "withdrawAppealCase" s [.opened, .assigned, .underReview] .withdrawn

/-! ## Privacy requests -/

/-- `PRIVACY_REQUEST_STATES`. -/
inductive PrivacyRequestState where
  | requested
  | identityConfirmed
  | processing
  | completed
  | denied
  | withdrawn
  deriving DecidableEq, Repr

/-- The stored name of the state. -/
def PrivacyRequestState.name : PrivacyRequestState → String
  | requested => "requested"
  | identityConfirmed => "identity_confirmed"
  | processing => "processing"
  | completed => "completed"
  | denied => "denied"
  | withdrawn => "withdrawn"

instance : ToString PrivacyRequestState := ⟨PrivacyRequestState.name⟩

def confirmPrivacyRequester : LifecycleStep PrivacyRequestState := fun s =>
  applyTransition .privacyRequest "confirmPrivacyRequester" s [.requested] .identityConfirmed

def beginPrivacyRequest : LifecycleStep PrivacyRequestState := fun s =>
  applyTransition .privacyRequest "beginPrivacyRequest" s [.identityConfirmed] .processing

def completePrivacyRequest : LifecycleStep PrivacyRequestState := fun s =>
  applyTransition .privacyRequest "completePrivacyRequest" s [.processing] .completed

def denyPrivacyRequest : LifecycleStep PrivacyRequestState := fun s =>
  applyTransition .privacyRequest "denyPrivacyRequest" s [.processing] .denied

def withdrawPrivacyRequest : LifecycleStep PrivacyRequestState := fun s =>
  applyTransition .privacyRequest "withdrawPrivacyRequest" s
    [.requested, .identityConfirmed, .processing] .withdrawn

/-! ## Notifications -/

/-- `NOTIFICATION_STATES`. -/
inductive NotificationState where
  | pending
  | claimed
  | delivered
  | retryableFailed
  | terminalFailed
  | deadLetter
  | cancelled
  deriving DecidableEq, Repr

/-- The stored name of the state. -/
def NotificationState.name : NotificationState → String
  | pending => "pending"
  | claimed => "claimed"
  | delivered => "delivered"
  | retryableFailed => "retryable_failed"
  | terminalFailed => "terminal_failed"
  | deadLetter => "dead_letter"
  | cancelled => "cancelled"

instance : ToString NotificationState := ⟨NotificationState.name⟩

def claimNotification : LifecycleStep NotificationState := fun s =>
  applyTransition .notification "claimNotification" s [.pending] .claimed

def recordNotificationDelivery : LifecycleStep NotificationState := fun s =>
  applyTransition .notification "recordNotificationDelivery" s [.claimed] .delivered

def recordRetryableNotificationFailure : LifecycleStep NotificationState := fun s =>
  applyTransition .notification "recordRetryableNotificationFailure" s [.claimed] .retryableFailed

def retryNotification : LifecycleStep NotificationState := fun s =>
  applyTransition .notification "retryNotification" s [.retryableFailed] .pending

def recordTerminalNotificationFailure : LifecycleStep NotificationState := fun s =>
  applyTransition .notification "recordTerminalNotificationFailure" s [.claimed] .terminalFailed

def deadLetterNotification : LifecycleStep NotificationState := fun s =>
  applyTransition .notification "deadLetterNotification" s [.terminalFailed] .deadLetter

def cancelPendingNotification : LifecycleStep NotificationState := fun s =>
  applyTransition .notification "cancelPendingNotification" s [.pending] .cancelled

/-! ## Relying-party clients -/

/-- `RELYING_PARTY_CLIENT_STATES`. -/
inductive RelyingPartyClientState where
  | proposed
  | securityReview
  | approved
  | active
  | suspended
  | revoked
  deriving DecidableEq, Repr

/-- The stored name of the state. -/
def RelyingPartyClientState.name : RelyingPartyClientState → String
  | proposed => "proposed"
  | securityReview => "security_review"
  | approved => "approved"
  | active => "active"
  | suspended => "suspended"
  | revoked => "revoked"

instance : ToString RelyingPartyClientState := ⟨RelyingPartyClientState.name⟩

def beginClientSecurityReview : LifecycleStep RelyingPartyClientState := fun s =>
  applyTransition .relyingPartyClient "beginClientSecurityReview" s [.proposed] .securityReview

def approveRelyingPartyClient : LifecycleStep RelyingPartyClientState := fun s =>
  applyTransition .relyingPartyClient "approveRelyingPartyClient" s [.securityReview] .approved

def activateRelyingPartyClient : LifecycleStep RelyingPartyClientState := fun s =>
  applyTransition .relyingPartyClient "activateRelyingPartyClient" s [.approved, .suspended] .active

def suspendRelyingPartyClient : LifecycleStep RelyingPartyClientState := fun s =>
  applyTransition .relyingPartyClient "suspendRelyingPartyClient" s [.active] .suspended

def revokeRelyingPartyClient : LifecycleStep RelyingPartyClientState := fun s =>
  applyTransition .relyingPartyClient "revokeRelyingPartyClient" s
    [.approved, .active, .suspended] .revoked

end ChecksAndBalances
