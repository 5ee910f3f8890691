import Mathlib.Data.List.Basic

/-!
# Verification request lifecycle

The state machine of `packages/domain/src/verification.ts` over `applyTransition` of
`transition.ts`: every named command moves one expected state to one next state and raises
`InvalidTransitionError` from any other.
-/

namespace ChecksAndBalances

/-- Aggregates named by a transition error. -/
inductive DomainAggregate where
  | verification
  | committee
  | verusJob
  | renewalCycle
  | walletChallenge
  | consent
  | appeal
  | privacyRequest
  | notification
  | relyingPartyClient
  deriving DecidableEq, Repr

/-- `InvalidTransitionError`. -/
structure InvalidTransitionError where
  aggregate : DomainAggregate
  command : String
  currentState : String
  expectedStates : List String
  deriving DecidableEq, Repr

/-- `applyTransition`: the next state, when the current one is expected. -/
def applyTransition {State : Type} [DecidableEq State] [ToString State]
    (aggregate : DomainAggregate) (command : String) (currentState : State)
    (expectedStates : List State) (nextState : State) : Except InvalidTransitionError State :=
  if currentState ∈ expectedStates then .ok nextState
  else .error
    { aggregate, command, currentState := toString currentState
      expectedStates := expectedStates.map toString }

theorem applyTransition_eq_ok_iff {State : Type} [DecidableEq State] [ToString State]
    {aggregate : DomainAggregate} {command : String} {current next r : State}
    {expected : List State} :
    applyTransition aggregate command current expected next = .ok r ↔
      current ∈ expected ∧ r = next := by
  unfold applyTransition
  split_ifs with h
  · simp [h, eq_comm]
  · simp [h]

/-- `VERIFICATION_STATES`. -/
inductive VerificationState where
  | requested
  | scheduled
  | checkedIn
  | underReview
  | approved
  | rejected
  | needsMoreInformation
  | withdrawn
  | issuancePending
  | issued
  | active
  | expired
  | revoked
  | superseded
  | appealed
  | appealUpheld
  | appealDenied
  | appealRemanded
  deriving DecidableEq, Repr

namespace VerificationState

/-- The stored name of the state. -/
def name : VerificationState → String
  | requested => "requested"
  | scheduled => "scheduled"
  | checkedIn => "checked_in"
  | underReview => "under_review"
  | approved => "approved"
  | rejected => "rejected"
  | needsMoreInformation => "needs_more_information"
  | withdrawn => "withdrawn"
  | issuancePending => "issuance_pending"
  | issued => "issued"
  | active => "active"
  | expired => "expired"
  | revoked => "revoked"
  | superseded => "superseded"
  | appealed => "appealed"
  | appealUpheld => "appeal_upheld"
  | appealDenied => "appeal_denied"
  | appealRemanded => "appeal_remanded"

instance : ToString VerificationState := ⟨name⟩

end VerificationState

/-- `VerificationCommand`. -/
abbrev VerificationCommand :=
  VerificationState → Except InvalidTransitionError VerificationState

namespace Verification

/-- `transition`: one expected state, one next state. -/
def transition (command : String) (currentState expectedState nextState : VerificationState) :
    Except InvalidTransitionError VerificationState :=
  applyTransition .verification command currentState [expectedState] nextState

theorem transition_eq_ok_iff {command : String} {current expected next r : VerificationState} :
    transition command current expected next = .ok r ↔ current = expected ∧ r = next := by
  unfold transition
  rw [applyTransition_eq_ok_iff, List.mem_singleton]

/-! ## The named commands -/

def scheduleRequest : VerificationCommand := fun s =>
  transition "scheduleRequest" s .requested .scheduled

def checkInParticipant : VerificationCommand := fun s =>
  transition "checkInParticipant" s .scheduled .checkedIn

def beginReview : VerificationCommand := fun s =>
  transition "beginReview" s .checkedIn .underReview

def approveVerification : VerificationCommand := fun s =>
  transition "approveVerification" s .underReview .approved

def rejectVerification : VerificationCommand := fun s =>
  transition "rejectVerification" s .underReview .rejected

def requestMoreInformation : VerificationCommand := fun s =>
  transition "requestMoreInformation" s .underReview .needsMoreInformation

def withdrawVerification : VerificationCommand := fun s =>
  transition "withdrawVerification" s .underReview .withdrawn

def rescheduleAfterMoreInformation : VerificationCommand := fun s =>
  transition "rescheduleAfterMoreInformation" s .needsMoreInformation .scheduled

def rejectAfterMoreInformation : VerificationCommand := fun s =>
  transition "rejectAfterMoreInformation" s .needsMoreInformation .rejected

def withdrawAfterMoreInformation : VerificationCommand := fun s =>
  transition "withdrawAfterMoreInformation" s .needsMoreInformation .withdrawn

def requestIssuance : VerificationCommand := fun s =>
  transition "requestIssuance" s .approved .issuancePending

def recordIssuance : VerificationCommand := fun s =>
  transition "recordIssuance" s .issuancePending .issued

def activateAttestation : VerificationCommand := fun s =>
  transition "activateAttestation" s .issued .active

def expireAttestation : VerificationCommand := fun s =>
  transition "expireAttestation" s .active .expired

def revokeAttestation : VerificationCommand := fun s =>
  transition "revokeAttestation" s .active .revoked

def supersedeAttestation : VerificationCommand := fun s =>
  transition "supersedeAttestation" s .active .superseded

def openAppeal : VerificationCommand := fun s =>
  transition "openAppeal" s .rejected .appealed

def upholdAppeal : VerificationCommand := fun s =>
  transition "upholdAppeal" s .appealed .appealUpheld

def denyAppeal : VerificationCommand := fun s =>
  transition "denyAppeal" s .appealed .appealDenied

def remandAppeal : VerificationCommand := fun s =>
  transition "remandAppeal" s .appealed .appealRemanded

end Verification

/-! ## Reviewer eligibility -/

/-- `ReviewerIneligibilityCode`. -/
inductive ReviewerIneligibilityCode where
  | reviewerNotAuthorized
  | reviewerConflicted
  | crossCommitteeReview
  deriving DecidableEq, Repr

/-- `ReviewerAuthorizationDecision`. -/
structure ReviewerAuthorizationDecision where
  actorReference : String
  actorCommitteeReference : String
  targetCommitteeReference : String
  authorized : Bool
  conflicted : Bool
  policyVersionReference : String
  deriving DecidableEq, Repr

/-- `EligibleReviewer`. -/
structure EligibleReviewer where
  actorReference : String
  committeeReference : String
  policyVersionReference : String
  deriving DecidableEq, Repr

/-- `requireEligibleReviewer`. -/
def requireEligibleReviewer (decision : ReviewerAuthorizationDecision) :
    Except ReviewerIneligibilityCode EligibleReviewer :=
  if decision.actorCommitteeReference ≠ decision.targetCommitteeReference then
    .error .crossCommitteeReview
  else if !decision.authorized then .error .reviewerNotAuthorized
  else if decision.conflicted then .error .reviewerConflicted
  else if decision.policyVersionReference = "" then .error .reviewerNotAuthorized
  else .ok
    { actorReference := decision.actorReference
      committeeReference := decision.targetCommitteeReference
      policyVersionReference := decision.policyVersionReference }

end ChecksAndBalances
