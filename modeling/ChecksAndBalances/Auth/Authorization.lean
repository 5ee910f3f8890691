import ChecksAndBalances.Db.LifecycleRepository

/-!
# Authorization

`authorize` of `packages/auth/src/authorization.ts`: the denial of a request is the first check that
fails, in the order of the source.
-/

namespace ChecksAndBalances

/-- `AUTHORIZATION_ROLES`. -/
inductive AuthorizationRole where
  | scheduler
  | reviewer
  | signer
  | administrator
  | privacy
  | security
  | support
  | steward
  | relyingParty
  deriving DecidableEq, Repr

/-- `AUTHORIZATION_ACTIONS`. -/
inductive AuthorizationAction where
  | participantReadOwn
  | participantUpdateOwn
  | participantAppeal
  | participantCloseAccount
  | participantExportSensitive
  | participantLinkVerus
  | participantUnlinkVerus
  | participantPublishPublicProof
  | sessionSchedule
  | sessionAssign
  | verificationReview
  | verificationApprove
  | attestationSign
  | attestationIssue
  | attestationRevoke
  | privacyFulfilRequest
  | securityInspect
  | securityRevokeSessions
  | supportRecoverAccount
  | committeeManageRoles
  | committeeSuspend
  | clientRotateKey
  | policyManage
  | releaseManage
  | relyingPartyReadStatus
  deriving DecidableEq, Repr

/-- The name of the action. -/
def AuthorizationAction.name : AuthorizationAction → String
  | participantReadOwn => "participant.read_own"
  | participantUpdateOwn => "participant.update_own"
  | participantAppeal => "participant.appeal"
  | participantCloseAccount => "participant.close_account"
  | participantExportSensitive => "participant.export_sensitive"
  | participantLinkVerus => "participant.link_verus"
  | participantUnlinkVerus => "participant.unlink_verus"
  | participantPublishPublicProof => "participant.publish_public_proof"
  | sessionSchedule => "session.schedule"
  | sessionAssign => "session.assign"
  | verificationReview => "verification.review"
  | verificationApprove => "verification.approve"
  | attestationSign => "attestation.sign"
  | attestationIssue => "attestation.issue"
  | attestationRevoke => "attestation.revoke"
  | privacyFulfilRequest => "privacy.fulfil_request"
  | securityInspect => "security.inspect"
  | securityRevokeSessions => "security.revoke_sessions"
  | supportRecoverAccount => "support.recover_account"
  | committeeManageRoles => "committee.manage_roles"
  | committeeSuspend => "committee.suspend"
  | clientRotateKey => "client.rotate_key"
  | policyManage => "policy.manage"
  | releaseManage => "release.manage"
  | relyingPartyReadStatus => "relying_party.read_status"

/-- `AuthorizationDenial`. -/
inductive AuthorizationDenial where
  | accountInactive
  | actionNotGranted
  | committeeInactive
  | conflictDeclared
  | crossCommittee
  | featureDisabled
  | fourEyesRequired
  | membershipInactive
  | notOwnResource
  | policyMissingOrExpired
  | reauthenticationRequired
  | sessionNotAssigned
  | statePreconditionFailed
  | wrongTrustDomain
  deriving DecidableEq, Repr

/-- The name of the denial. -/
def AuthorizationDenial.name : AuthorizationDenial → String
  | accountInactive => "account_inactive"
  | actionNotGranted => "action_not_granted"
  | committeeInactive => "committee_inactive"
  | conflictDeclared => "conflict_declared"
  | crossCommittee => "cross_committee"
  | featureDisabled => "feature_disabled"
  | fourEyesRequired => "four_eyes_required"
  | membershipInactive => "membership_inactive"
  | notOwnResource => "not_own_resource"
  | policyMissingOrExpired => "policy_missing_or_expired"
  | reauthenticationRequired => "reauthentication_required"
  | sessionNotAssigned => "session_not_assigned"
  | statePreconditionFailed => "state_precondition_failed"
  | wrongTrustDomain => "wrong_trust_domain"

/-- The trust domain of an actor. -/
inductive ActorTrustDomain where
  | participant
  | committee
  | service
  deriving DecidableEq, Repr

/-- The committee states that a request can carry. -/
inductive RequestCommitteeState where
  | active
  | pilotApproved
  | testnetReady
  | suspended
  | retired
  deriving DecidableEq, Repr

/-- The stored state of the same name. -/
def RequestCommitteeState.stored : RequestCommitteeState → CommitteeState
  | active => .active
  | pilotApproved => .pilotApproved
  | testnetReady => .testnetReady
  | suspended => .suspended
  | retired => .retired

/-- `CurrentPolicyGate`. -/
structure CurrentPolicyGate where
  policyKey : String
  version : String
  effectiveAt : ℤ
  expiresAt : Option ℤ
  acknowledgedVersion : Option String
  deriving DecidableEq, Repr

/-- `FourEyesApproval`. -/
structure FourEyesApproval where
  approverReference : String
  approverRoles : List AuthorizationRole
  active : Bool
  authenticationStrength : AuthenticationStrength
  reauthenticatedAt : Option ℤ
  deriving DecidableEq, Repr

/-- `AuthorizationRequest`. -/
structure AuthorizationRequest where
  action : AuthorizationAction
  actorReference : String
  actorAccountState : AuthAccountState
  actorTrustDomain : ActorTrustDomain
  roles : List AuthorizationRole
  authenticationStrength : AuthenticationStrength
  reauthenticatedAt : Option ℤ
  now : ℤ
  reauthenticationWindowMs : ℤ
  actorCommitteeReference : Option String
  targetCommitteeReference : Option String
  resourceOwnerReference : Option String
  membershipState : Option MembershipState
  committeeState : Option RequestCommitteeState
  assignedToSession : Bool
  conflicted : Bool
  enabledFeatures : List String
  requiredFeatures : List String
  requiredPolicyKeys : List String
  policies : List CurrentPolicyGate
  statePreconditionsSatisfied : Bool
  fourEyesApproval : Option FourEyesApproval
  deriving DecidableEq, Repr

/-- `AuthorizationDecision`. -/
structure AuthorizationDecision where
  allowed : Bool
  action : AuthorizationAction
  denial : Option AuthorizationDenial
  policyVersions : List String
  digest : String
  deriving DecidableEq, Repr

/-- `capabilities`. -/
def capabilities : AuthorizationRole → List AuthorizationAction
  | .scheduler => [.sessionSchedule, .sessionAssign]
  | .reviewer => [.verificationReview, .verificationApprove]
  | .signer => [.attestationSign, .attestationIssue]
  | .administrator => [.sessionSchedule, .sessionAssign, .attestationIssue, .attestationRevoke,
      .committeeManageRoles, .clientRotateKey]
  | .privacy => [.participantExportSensitive, .privacyFulfilRequest]
  | .security => [.securityInspect, .securityRevokeSessions]
  | .support => [.supportRecoverAccount]
  | .steward => [.committeeManageRoles, .committeeSuspend, .clientRotateKey, .policyManage,
      .releaseManage, .securityRevokeSessions]
  | .relyingParty => [.relyingPartyReadStatus]

def ownResourceActions : List AuthorizationAction := [
  .participantReadOwn, .participantUpdateOwn, .participantAppeal, .participantCloseAccount,
  .participantExportSensitive, .participantLinkVerus, .participantUnlinkVerus,
  .participantPublishPublicProof]

def privilegedActions : List AuthorizationAction := [
  .participantAppeal, .participantCloseAccount, .participantExportSensitive,
  .participantLinkVerus, .participantUnlinkVerus, .participantPublishPublicProof,
  .attestationIssue, .attestationRevoke, .committeeManageRoles, .committeeSuspend,
  .clientRotateKey, .policyManage, .releaseManage, .securityRevokeSessions]

def decisionActions : List AuthorizationAction := [
  .verificationReview, .verificationApprove, .attestationSign]

def fourEyesActions : List AuthorizationAction := [.committeeSuspend, .policyManage, .releaseManage]

/-- `JSON.stringify` of a value that may be `null`. -/
def nullableText : Option String → String
  | some value => Json.quote value
  | none => "null"

/-- `makeDecision`. -/
def makeDecision (request : AuthorizationRequest) (denial : Option AuthorizationDenial) :
    AuthorizationDecision :=
  let versions := request.policies.map fun p => p.policyKey ++ ":" ++ p.version
  let member (key value : String) := Json.quote key ++ ":" ++ value
  let canonical := "\x7b" ++ ",".intercalate [
    member "action" (Json.quote request.action.name),
    member "actorReference" (Json.quote request.actorReference),
    member "targetCommitteeReference" (nullableText request.targetCommitteeReference),
    member "allowed" (toString denial.isNone),
    member "denial" (nullableText (denial.map AuthorizationDenial.name)),
    member "policyVersions" ("[" ++ ",".intercalate (versions.map Json.quote) ++ "]")] ++ "\x7d"
  { allowed := denial.isNone
    action := request.action
    denial
    policyVersions := versions
    digest := sha256 canonical }

/-- `recentStrong`. -/
def recentStrong (strength : AuthenticationStrength) (reauthenticatedAt : Option ℤ)
    (now windowMs : ℤ) : Bool :=
  match reauthenticatedAt with
  | some at' => strength = .passkey && 0 ≤ now - at' && now - at' ≤ windowMs
  | none => false

/-- `currentPolicies`. -/
def currentPolicies (request : AuthorizationRequest) : Bool :=
  request.requiredPolicyKeys.all fun requiredPolicyKey =>
    match request.policies.find? fun p => p.policyKey = requiredPolicyKey with
    | some policy =>
      policy.effectiveAt ≤ request.now &&
        policy.expiresAt.all (fun expiresAt => request.now < expiresAt) &&
        policy.acknowledgedVersion = some policy.version
    | none => false

/-- The checks of `authorize` on the actor, its grants and its committee. -/
def grantDenial (request : AuthorizationRequest) : Option AuthorizationDenial :=
  if request.actorAccountState ≠ .active then some .accountInactive
  else if request.action ∈ ownResourceActions then
    if request.actorTrustDomain ≠ .participant then some .wrongTrustDomain
    else if request.resourceOwnerReference ≠ some request.actorReference then some .notOwnResource
    else none
  else if request.actorTrustDomain ≠
      (if .relyingParty ∈ request.roles then .service else .committee) then some .wrongTrustDomain
  else if ¬ request.roles.any (fun role => request.action ∈ capabilities role) then
    some .actionNotGranted
  else if request.action ≠ .relyingPartyReadStatus ∧
      request.actorCommitteeReference ≠ request.targetCommitteeReference then some .crossCommittee
  else if request.action ≠ .relyingPartyReadStatus ∧ request.committeeState ≠ some .active then
    some .committeeInactive
  else if request.action ≠ .relyingPartyReadStatus ∧ request.membershipState ≠ some .active then
    some .membershipInactive
  else if request.action ∈ decisionActions ∧ request.conflicted then some .conflictDeclared
  else if request.action ∈ decisionActions ∧ ¬ request.assignedToSession then
    some .sessionNotAssigned
  else none

/-- The approval that `authorize` asks for is missing. -/
def lacksApproval (request : AuthorizationRequest) : Bool :=
  match request.fourEyesApproval with
  | some approval =>
    !approval.active || approval.approverReference = request.actorReference ||
      !approval.approverRoles.contains .steward ||
      !recentStrong approval.authenticationStrength approval.reauthenticatedAt request.now
        request.reauthenticationWindowMs
  | none => true

/-- `authorize`. -/
def authorize (request : AuthorizationRequest) : AuthorizationDecision :=
  let denial := grantDenial request
  let denial := denial <|>
    if !request.statePreconditionsSatisfied then some .statePreconditionFailed else none
  let denial := denial <|>
    if request.requiredFeatures.any (fun feature => !request.enabledFeatures.contains feature) then
      some .featureDisabled
    else none
  let denial := denial <|>
    if !currentPolicies request then some .policyMissingOrExpired else none
  let denial := denial <|>
    if privilegedActions.contains request.action &&
        !recentStrong request.authenticationStrength request.reauthenticatedAt request.now
          request.reauthenticationWindowMs then some .reauthenticationRequired
    else none
  let denial := denial <|>
    if fourEyesActions.contains request.action && lacksApproval request then some .fourEyesRequired
    else none
  makeDecision request denial

/-- A request is allowed when every check passes. -/
theorem authorize_allowed_iff (request : AuthorizationRequest) :
    (authorize request).allowed = true ↔
      grantDenial request = none ∧ request.statePreconditionsSatisfied = true ∧
      (∀ feature ∈ request.requiredFeatures, feature ∈ request.enabledFeatures) ∧
      currentPolicies request = true ∧
      (request.action ∈ privilegedActions → recentStrong request.authenticationStrength
        request.reauthenticatedAt request.now request.reauthenticationWindowMs = true) ∧
      (request.action ∈ fourEyesActions → lacksApproval request = false) := by
  simp only [authorize, makeDecision, Option.isNone_iff_eq_none, Option.orElse_eq_orElse,
    Option.orElse_eq_or, Option.or_eq_none_iff, and_assoc]
  refine and_congr_right fun _ => ?_
  simp only [ite_eq_right_iff, reduceCtorEq, imp_false]
  simp

/-- An action on a committee is granted to its active members, while the committee is active. -/
theorem committee_active_of_granted {request : AuthorizationRequest}
    (h : grantDenial request = none) (hown : request.action ∉ ownResourceActions)
    (hread : request.action ≠ .relyingPartyReadStatus) :
    request.committeeState = some .active := by
  unfold grantDenial at h
  by_contra hstate
  have hinactive : request.action ≠ .relyingPartyReadStatus ∧
    request.committeeState ≠ some .active := ⟨hread, hstate⟩
  rw [if_neg hown] at h
  -- the committee check is passed on the way to `none`, whatever the domain of the actor
  split_ifs at h

end ChecksAndBalances
