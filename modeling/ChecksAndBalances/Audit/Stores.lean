import ChecksAndBalances.Audit.Bounds
import ChecksAndBalances.Auth.Effects
import ChecksAndBalances.Linking.Effects
import ChecksAndBalances.Worker.Store

/-!
# Bounds of the stores

The stores of the worker, of the identity links and of the authentication services write the ledgers
through `appendAudit` only, so what bounds the commands bounds them as well.
-/

namespace ChecksAndBalances

open Lib Lib.Tx

variable {R : Db → Db → Prop} [IsPreorder Db R] (hR : Audits R)

include hR

namespace Audits

/-! ## The outbox -/

section Outbox

open OutboxRepository

variable (worker : OutboxWorkerContext) (observedAt : ℤ)

theorem auditChange (o : OutboxEvent) (command reasonCategory : String) (state : OutboxState)
    (result : AuditResult) :
    Within R (auditChange worker o command reasonCategory state result) :=
  within_get.bind fun _ => (hR.audit _ _ _ _ _).bind fun _ => within_pure

omit [IsPreorder Db R] in
theorem recordAttempt (o : OutboxEvent) (reference : String) (result : AuditResult)
    (errorClass : Option String) (startedAt finishedAt : ℤ) :
    Within R (recordAttempt o reference result errorClass startedAt finishedAt) :=
  hR.keeps (keeps_recordAttempt (fun _ _ _ => rfl) _ _ _ _ _ _)

theorem updateOutboxEvent (eventId : Uuid) (f : OutboxEvent → OutboxEvent) :
    Within R (updateOutboxEvent eventId f) := by
  refine within_get.bind fun _ => within_lift.bind fun _ => hR.update ?_
  intro db
  rfl

theorem takeLease (leaseDurationMs : ℤ) (o : OutboxEvent) :
    Within R (takeLease worker observedAt leaseDurationMs o) := by
  refine Within.bind ?_ fun _ => (hR.updateOutboxEvent _ _).bind fun _ => ?_
  · unfold OutboxRepository.recoverExpired
    split_ifs
    · exact (hR.recordAttempt _ _ _ _ _ _).bind fun _ => hR.auditChange _ _ _ _ _ _
    · exact within_pure
  · exact (hR.auditChange _ _ _ _ _ _).bind fun _ => within_get.bind fun _ => within_pure

theorem claimNext (leaseDurationMs : ℤ) (options : OutboxClaimOptions) (locked : List Uuid) :
    Within R (claimNext worker observedAt leaseDurationMs options locked) := by
  refine within_require.bind fun _ => within_require.bind fun _ => Within.bind ?_ fun _ => ?_
  · exact within_require.bind fun _ => within_pure
  refine within_get.bind fun _ => ?_
  split
  · exact within_pure
  · rw [map_eq_pure_bind]
    exact (hR.takeLease _ _ _ _).bind fun _ => within_pure

omit hR in
theorem queueStats (eventTypes : Option (List String)) :
    Within R (queueStats observedAt eventTypes) :=
  (within_require.bind fun _ => within_pure).bind fun _ => within_get.bind fun _ => within_pure

omit hR in
theorem loadClaim (eventId : Uuid) (reference : String) :
    Within R (loadClaim eventId reference observedAt) :=
  within_get.bind fun _ => within_found

theorem heartbeat (eventId : Uuid) (leaseDurationMs : ℤ) :
    Within R (OutboxRepository.heartbeat eventId worker observedAt leaseDurationMs) := by
  refine (loadClaim _ _ _).bind fun _ => within_require.bind fun _ => ?_
  refine (hR.updateOutboxEvent _ _).bind fun _ => (hR.auditChange _ _ _ _ _ _).bind fun _ => ?_
  exact within_pure

theorem closeAttempt (o : OutboxEvent) (f : OutboxEvent → OutboxEvent)
    (command reasonCategory : String) (state : OutboxState) (result : AuditResult)
    (errorClass : Option String) :
    Within R (closeAttempt worker o observedAt f command reasonCategory state result errorClass) :=
  (hR.recordAttempt _ _ _ _ _ _).bind fun _ => (hR.updateOutboxEvent _ _).bind fun _ =>
    hR.auditChange _ _ _ _ _ _

theorem succeed (eventId : Uuid) : Within R (succeed eventId worker observedAt) :=
  (loadClaim _ _ _).bind fun _ => hR.closeAttempt _ _ _ _ _ _ _ _ _

theorem failRetryable (eventId : Uuid) (settings : RetrySettings) (errorClass : String) :
    Within R (failRetryable eventId worker observedAt settings errorClass) := by
  refine (within_require.bind fun _ => within_require).bind fun _ => ?_
  refine (loadClaim _ _ _).bind fun _ => (hR.closeAttempt _ _ _ _ _ _ _ _ _).bind fun _ => ?_
  exact within_pure

theorem failTerminal (eventId : Uuid) (errorClass : String) :
    Within R (failTerminal eventId worker observedAt errorClass) :=
  within_require.bind fun _ => (loadClaim _ _ _).bind fun _ => hR.closeAttempt _ _ _ _ _ _ _ _ _

end Outbox

/-! ## Jobs -/

section Jobs

open VerusJobRepository

variable (eventId : Uuid) (worker : OutboxWorkerContext) (observedAt : ℤ)

omit hR in
theorem load : Within R (VerusJobRepository.load eventId) :=
  within_get.bind fun _ => within_found.bind fun _ => within_lift

omit hR in
theorem requireLease : Within R (requireLease eventId worker observedAt) :=
  within_get.bind fun _ => within_require

omit hR in
theorem validateEvidence (evidence : TransitionEvidence) : Within R (validateEvidence evidence) :=
  within_require.bind fun _ => within_require.bind fun _ => within_require

theorem updateJob (version : ℕ) (f : VerusJobRow → VerusJobRow) :
    Within R (updateJob eventId version f) := by
  refine within_get.bind fun _ => within_lift.bind fun _ => Within.bind (hR.update ?_) fun _ => ?_
  · intro db
    rfl
  · exact within_pure

theorem transitionAnchor (next : VerusJobState) (evidence : TransitionEvidence) :
    Within R (transitionAnchor eventId next evidence observedAt) := by
  unfold VerusJobRepository.transitionAnchor
  split
  · exact within_pure
  · refine within_get.bind fun _ => within_lift.bind fun _ => Within.bind (hR.update ?_) fun _ => ?_
    · intro db
      rfl
    · exact within_require

theorem auditTransition (before : VerusJobRecord) (command : String) (next : VerusJobState)
    (result : AuditResult) :
    Within R (auditTransition worker eventId before command next result) :=
  within_get.bind fun _ => (hR.audit _ _ _ _ _).bind fun _ => within_pure

theorem jobTransition (expected : List VerusJobState) (next : VerusJobState)
    (evidence : TransitionEvidence) (syncAnchor : Bool) :
    Within R (VerusJobRepository.transition eventId worker observedAt expected next evidence
      syncAnchor) := by
  refine (validateEvidence _).bind fun _ => (requireLease _ _ _).bind fun _ => ?_
  refine (load _).bind fun _ => within_require.bind fun _ => (hR.updateJob _ _ _).bind fun _ => ?_
  refine within_require.bind fun _ => Within.bind ?_ fun _ => ?_
  · unfold VerusJobRepository.synchronizeAnchor
    split_ifs
    · exact hR.transitionAnchor _ _ _ _
    · exact within_pure
  · exact (hR.auditTransition _ _ _ _ _ _).bind fun _ => load _

theorem markDeadLetter (errorClass : String) :
    Within R (markDeadLetter eventId worker observedAt errorClass) := by
  refine (validateEvidence _).bind fun _ => within_get.bind fun _ => within_require.bind fun _ => ?_
  refine (load _).bind fun _ => within_require.bind fun _ => (hR.updateJob _ _ _).bind fun _ => ?_
  refine (hR.transitionAnchor _ _ _ _).bind fun _ => ?_
  exact (hR.auditTransition _ _ _ _ _ _).bind fun _ => load _

/-- Every method of the job store. -/
theorem jobOperation (operation : JobOperation) :
    Within R (operation.exec eventId worker observedAt) := by
  cases operation with
  | loadForClaim => exact (requireLease _ _ _).bind fun _ => load _
  | markDeadLetter errorClass => exact hR.markDeadLetter _ _ _ _
  | _ => exact hR.jobTransition _ _ _ _ _ _ _

theorem enqueueAnchor [Host] (input : EnqueueVerusAnchorInput) (context : CommandContext) :
    Within R (enqueueAnchor input context) := by
  refine (hR.keeps (keeps_validateInput _ _ _)).bind fun _ => ?_
  refine (hR.keeps (keeps_resolveCommittee _ _)).bind fun _ => within_get.bind fun _ => ?_
  split
  · exact within_lift.bind fun _ => within_require.bind fun _ => within_pure
  · refine hR.newId.bind fun _ => hR.newId.bind fun _ => ?_
    refine (hR.insertOutboxEvent _ _ _ _ _ _ _ _ _).bind fun _ => within_get.bind fun _ => ?_
    refine Within.bind ?_ fun _ => hR.newId.bind fun _ => Within.bind ?_ fun _ => ?_
    · refine within_get.bind fun _ => within_require.bind fun _ => within_require.bind fun _ => ?_
      refine within_require.bind fun _ => within_require.bind fun _ => within_require.bind fun _ => ?_
      refine within_require.bind fun _ => hR.update ?_
      intro db
      rfl
    · refine within_get.bind fun _ => within_require.bind fun _ => within_require.bind fun _ => ?_
      refine within_require.bind fun _ => within_require.bind fun _ => hR.update ?_
      intro db
      rfl
    · exact (hR.audit _ _ _ _ _).bind fun _ => load _

end Jobs

/-! ## Identity links -/

section Links

open VerusLinkRepository

omit hR in
theorem challengeSelect (predicate : WalletChallenge → AuthAccount → Bool) :
    Within R (challengeSelect predicate) :=
  within_get.bind fun _ => within_found

omit hR in
theorem linkForAccountAndIdentity (accountId : Uuid) (identityAddress : String) :
    Within R (linkForAccountAndIdentity accountId identityAddress) :=
  within_get.bind fun _ => within_found.bind fun _ => within_pure

theorem updateChallenge (id : Uuid) (f : WalletChallenge → WalletChallenge) :
    Within R (updateChallenge id f) := by
  refine within_get.bind fun _ => within_lift.bind fun _ => hR.update ?_
  intro db
  rfl

theorem updateLink (id : Uuid) (f : VerusIdentityLink → VerusIdentityLink) :
    Within R (updateLink id f) := by
  refine within_get.bind fun _ => within_lift.bind fun _ => hR.update ?_
  intro db
  rfl

theorem expireChallenge (challenge : WalletChallenge) (context : CommandContext) :
    Within R (expireChallenge challenge context) :=
  (hR.updateChallenge _ _).bind fun _ => (hR.audit _ _ _ _ _).bind fun _ => within_pure

theorem createLinkChallenge (input : CreateWalletLinkChallengeInput) (context : CommandContext) :
    Within R (VerusLinkRepository.createChallenge input context) := by
  refine within_require.bind fun _ => within_require.bind fun _ => within_require.bind fun _ => ?_
  refine within_require.bind fun _ => within_require.bind fun _ => within_require.bind fun _ => ?_
  refine within_require.bind fun _ => Within.bind ?_ fun account => hR.newId.bind fun id => ?_
  · refine within_get.bind fun _ => within_found.bind fun _ => within_require.bind fun _ => ?_
    exact within_pure
  refine within_lift.bind fun _ => within_get.bind fun _ => within_require.bind fun _ => ?_
  refine within_require.bind fun _ => within_require.bind fun _ => within_require.bind fun _ => ?_
  refine within_require.bind fun _ => Within.bind (hR.update ?_) fun _ => ?_
  · intro db
    rfl
  · refine (hR.audit _ _ _ _ _).bind fun _ => (challengeSelect _).bind fun _ => ?_
    exact within_get.bind fun _ => within_pure

theorem insertLink (id accountId : Uuid) (linkReference : String)
    (input : CompleteWalletLinkChallengeInput) (challenge : WalletChallenge) :
    Within R (insertLink id accountId linkReference input challenge) := by
  refine (hR.keeps (keeps_linkParticipant _)).bind fun _ => within_lift.bind fun _ => ?_
  refine within_get.bind fun _ => within_require.bind fun _ => within_require.bind fun _ => ?_
  refine within_require.bind fun _ => hR.update ?_
  intro db
  rfl

theorem consumeChallenge (accountId : Uuid) (input : CompleteWalletLinkChallengeInput)
    (challenge : WalletChallenge) (context : CommandContext) :
    Within R (VerusLinkRepository.consumeChallenge accountId input challenge context) := by
  refine Within.bind ?_ fun _ => (hR.updateChallenge _ _).bind fun _ => ?_
  · refine within_get.bind fun _ => ?_
    split
    · exact (hR.updateLink _ _).bind fun _ => within_pure
    · refine hR.newId.bind fun _ => hR.newId.bind fun _ => (hR.insertLink _ _ _ _ _).bind fun _ => ?_
      exact within_pure
  · exact (hR.audit _ _ _ _ _).bind fun _ => (hR.audit _ _ _ _ _).bind fun _ => within_pure

theorem completeChallenge (input : CompleteWalletLinkChallengeInput) (context : CommandContext) :
    Within R (completeChallenge input context) := by
  refine within_require.bind fun _ => within_require.bind fun _ => within_require.bind fun _ => ?_
  refine (challengeSelect _).bind fun selected => ?_
  dsimp only
  split_ifs
  · refine within_require.bind fun _ => (linkForAccountAndIdentity _ _).bind fun _ => ?_
    exact within_pure
  · refine within_require.bind fun _ => (hR.expireChallenge _ _).bind fun _ => ?_
    exact within_pure
  · exact within_require.bind fun _ => hR.consumeChallenge _ _ _ _

theorem pollChallenge (accountReference pollingTokenDigest : String) (now : ℤ)
    (context : CommandContext) :
    Within R (pollChallenge accountReference pollingTokenDigest now context) := by
  refine within_require.bind fun _ => within_require.bind fun _ => ?_
  refine (challengeSelect _).bind fun selected => ?_
  dsimp only
  split_ifs
  · exact (hR.expireChallenge _ _).bind fun _ => within_pure
  · exact (linkForAccountAndIdentity _ _).bind fun _ => within_pure
  · exact within_pure

theorem cancelChallenge (accountReference challengeReference : String) (cancelledAt : ℤ)
    (context : CommandContext) :
    Within R (cancelChallenge accountReference challengeReference cancelledAt context) := by
  refine within_require.bind fun _ => within_require.bind fun _ => ?_
  refine (challengeSelect _).bind fun selected => ?_
  dsimp only
  split_ifs
  · exact within_pure
  · exact within_require.bind fun _ => hR.expireChallenge _ _
  · refine within_require.bind fun _ => (hR.updateChallenge _ _).bind fun _ => ?_
    exact (hR.audit _ _ _ _ _).bind fun _ => within_pure

theorem unlink (accountReference linkReference : String) (unlinkedAt : ℤ)
    (context : CommandContext) :
    Within R (unlink accountReference linkReference unlinkedAt context) := by
  refine within_require.bind fun _ => within_require.bind fun _ => within_get.bind fun _ => ?_
  refine within_found.bind fun _ => within_require.bind fun _ => (hR.updateLink _ _).bind fun _ => ?_
  exact (hR.audit _ _ _ _ _).bind fun _ => within_pure

theorem suspendLinks (reason : RevalidationReason) (observedAt : ℤ) (context : CommandContext)
    (links : List VerusIdentityLink) :
    Within R (links.forM (suspendLink reason observedAt context)) := by
  induction links with
  | nil => exact within_pure
  | cons link rest ih =>
    have hlink : Within R (suspendLink reason observedAt context link) :=
      (hR.updateLink _ _).bind fun _ => (hR.audit _ _ _ _ _).bind fun _ => within_pure
    exact hlink.bind fun _ => ih

/-- Every operation on the links. -/
theorem linkCommand (command : LinkCommand) : Within R command.exec := by
  cases command with
  | createChallenge input context => exact hR.createLinkChallenge _ _
  | challengeForPoll accountReference pollingTokenDigest =>
    refine within_require.bind fun _ => within_require.bind fun _ => ?_
    exact (challengeSelect _).bind fun _ => within_get.bind fun _ => within_pure
  | completeChallenge input context => exact hR.completeChallenge _ _
  | pollChallenge accountReference pollingTokenDigest now context =>
    exact hR.pollChallenge _ _ _ _
  | cancelChallenge accountReference challengeReference cancelledAt context =>
    exact hR.cancelChallenge _ _ _ _
  | unlink accountReference linkReference unlinkedAt context => exact hR.unlink _ _ _ _
  | requireRevalidation identityAddress reason observedAt context =>
    exact within_get.bind fun _ => (hR.suspendLinks _ _ _ _).bind fun _ => within_pure

end Links

/-! ## Authentication -/

section Auth

open AuthRepository

omit [IsPreorder Db R] in
theorem account (reference : String) (trustDomain : Option TrustDomain) :
    Within R (account reference trustDomain) :=
  hR.keeps (keeps_account _ _)

omit [IsPreorder Db R] in
theorem revokeSessions (accountId : Uuid) (reason : String) (atTime : ℤ) :
    Within R (revokeSessions accountId reason atTime) :=
  hR.keeps (keeps_revokeSessions (fun _ _ => rfl) _ _ _)

omit [IsPreorder Db R] in
theorem updateAccount (accountId : Uuid) (f : AuthAccount → AuthAccount) :
    Within R (updateAccount accountId f) := by
  apply hR.update
  intro db
  rfl

theorem appendSecurityAudit (accountReference command : String) (newState : Option String)
    (reasonCategory : String) (context : SecurityMutationContext) :
    Within R (appendSecurityAudit accountReference command newState reasonCategory context) :=
  (hR.audit _ _ _ _ _).bind fun _ => within_pure

theorem insertContact (participantId : Option Uuid) (accountId : Uuid)
    (destinationReference lookupDigest : String) (verifiedAt : ℤ) :
    Within R (insertContact participantId accountId destinationReference lookupDigest verifiedAt) := by
  refine hR.newId.bind fun _ => within_get.bind fun _ => within_lift.bind fun _ => ?_
  refine within_require.bind fun _ => within_require.bind fun _ => hR.update ?_
  intro db
  rfl

theorem updateSessions (selected : AuthSession → Bool) (f : AuthSession → AuthSession) :
    Within R (updateSessions selected f) := by
  refine within_get.bind fun _ => within_lift.bind fun _ => hR.update ?_
  intro db
  rfl

theorem updatePasskey (selected : PasskeyMetadata → Bool) (f : PasskeyMetadata → PasskeyMetadata)
    (message : String) : Within R (updatePasskey selected f message) := by
  refine within_get.bind fun _ => within_lift.bind fun _ => within_require.bind fun _ => hR.update ?_
  intro db
  rfl

omit [IsPreorder Db R] in
theorem updateAccess (selected : AuthCommitteeAccess → Bool)
    (f : AuthCommitteeAccess → AuthCommitteeAccess) (message : String) :
    Within R (updateAccess selected f message) :=
  hR.keeps (keeps_updateAccess (fun _ _ => rfl) _ _ _)

theorem authStoreCall (call : AuthStoreCall) : Within R call.exec := by
  cases call with
  | increment input =>
    refine within_get.bind fun _ => ?_
    split
    · refine Within.bind (hR.update ?_) fun _ => within_pure
      intro db
      rfl
    · refine within_require.bind fun _ => Within.bind (hR.update ?_) fun _ => within_pure
      intro db
      rfl
  | findByLookupDigest trustDomain lookupDigest => exact within_get.bind fun _ => within_pure
  | createChallenge record =>
    refine (hR.keeps (keeps_challengeAccount _ _)).bind fun _ => within_get.bind fun _ => ?_
    refine within_lift.bind fun _ => (hR.keeps (keeps_checkAuthChallenge _)).bind fun _ => ?_
    refine within_require.bind fun _ => within_require.bind fun _ => hR.update ?_
    intro db
    rfl
  | consume input =>
    refine within_get.bind fun _ => within_lift.bind fun _ => ?_
    refine Within.bind (hR.update ?_) fun _ => within_pure
    intro db
    rfl
  | recoverAndRevokeSessions input =>
    refine (hR.account _ _).bind fun _ => within_require.bind fun _ => ?_
    refine (hR.revokeSessions _ _ _).bind fun _ => (hR.updateAccount _ _).bind fun _ => ?_
    exact (hR.audit _ _ _ _ _).bind fun _ => within_pure
  | lockAndRevokeSessions input =>
    refine (hR.account _ _).bind fun _ => within_require.bind fun _ => ?_
    refine (hR.revokeSessions _ _ _).bind fun _ => (hR.updateAccount _ _).bind fun _ => ?_
    exact (hR.appendSecurityAudit _ _ _ _ _).bind fun _ => within_pure
  | changeVerifiedEmail input =>
    refine within_require.bind fun _ => (hR.account _ _).bind fun _ => within_require.bind fun _ => ?_
    refine within_get.bind fun _ => within_lift.bind fun _ => Within.bind (hR.update ?_) fun _ => ?_
    · intro db
      rfl
    · refine (hR.insertContact _ _ _ _ _).bind fun _ => (hR.revokeSessions _ _ _).bind fun _ => ?_
      exact (hR.appendSecurityAudit _ _ _ _ _).bind fun _ => within_pure

theorem sessionStoreCall (sessionKeyVersions : TrustDomain → String) (call : SessionStoreCall) :
    Within R (call.exec sessionKeyVersions) := by
  cases call with
  | create record =>
    refine (hR.account _ _).bind fun _ => within_require.bind fun _ => within_get.bind fun _ => ?_
    refine within_lift.bind fun _ => within_require.bind fun _ => within_require.bind fun _ => ?_
    apply hR.update
    intro db
    rfl
  | findByTokenDigest trustDomain tokenDigest => exact within_get.bind fun _ => within_pure
  | revoke sessionId reasonCategory atTime => exact hR.updateSessions _ _
  | revokeAll accountReference trustDomain reasonCategory atTime =>
    exact within_get.bind fun _ => (hR.updateSessions _ _).bind fun _ => within_pure
  | touch sessionId idleExpiresAt atTime => exact hR.updateSessions _ _

theorem passkeyStoreCall (call : PasskeyStoreCall) : Within R call.exec := by
  cases call with
  | listActive accountReference trustDomain => exact within_get.bind fun _ => within_pure
  | findActive credentialReference trustDomain => exact within_get.bind fun _ => within_pure
  | save credential createdAt =>
    refine (hR.account _ _).bind fun _ => within_require.bind fun _ => hR.newId.bind fun _ => ?_
    refine within_get.bind fun _ => within_lift.bind fun _ => within_require.bind fun _ => ?_
    refine within_require.bind fun _ => hR.update ?_
    intro db
    rfl
  | updateUsage input => exact hR.updatePasskey _ _ _
  | revokeCredential credentialReference accountReference revokedAt =>
    exact within_get.bind fun _ => hR.updatePasskey _ _ _

theorem accountStoreCall (call : AccountStoreCall) : Within R call.exec := by
  cases call with
  | createAccount input =>
    refine within_require.bind fun _ => (hR.keeps (keeps_participantId _)).bind fun _ => ?_
    refine hR.newId.bind fun _ => within_require.bind fun _ => within_require.bind fun _ => ?_
    refine within_get.bind fun _ => within_require.bind fun _ => within_require.bind fun _ => ?_
    refine within_require.bind fun _ => hR.update ?_
    intro db
    rfl
  | registerVerifiedEmail input =>
    refine within_require.bind fun _ => within_require.bind fun _ => (hR.account _ _).bind fun _ => ?_
    exact (hR.keeps (keeps_participantId _)).bind fun _ => hR.insertContact _ _ _ _ _
  | inviteCommittee input =>
    refine (hR.account _ _).bind fun _ => Within.bind ?_ fun _ => hR.newId.bind fun _ => ?_
    · exact within_get.bind fun _ => within_found
    refine within_get.bind fun _ => within_lift.bind fun _ => within_require.bind fun _ => ?_
    refine within_require.bind fun _ => hR.update ?_
    intro db
    rfl
  | approveCommittee input => exact within_get.bind fun _ => hR.updateAccess _ _ _
  | activateCommittee input =>
    refine within_get.bind fun _ => (hR.updateAccess _ _ _).bind fun _ => hR.update ?_
    intro db
    rfl

/-- Every call of the services on a store. -/
theorem serviceCall (config : AuthConfig) {call : ServiceCall} {t : DbTx call.Answer}
    (h : call.exec config = some t) : Within R t := by
  cases call with
  | email call =>
    cases call with
    | store call =>
      obtain rfl := Option.some.inj h
      exact hR.authStoreCall call
    | host call => cases h
  | session call =>
    obtain rfl := Option.some.inj h
    exact hR.sessionStoreCall _ call
  | passkey call =>
    obtain rfl := Option.some.inj h
    exact hR.passkeyStoreCall call
  | account call =>
    obtain rfl := Option.some.inj h
    exact hR.accountStoreCall call
  | webAuthn call => cases h

end Auth

end Audits

end ChecksAndBalances
