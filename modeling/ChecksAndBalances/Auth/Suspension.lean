import ChecksAndBalances.Auth.Authorization
import ChecksAndBalances.Lifecycle.Transition

/-!
# Suspending a committee

Authorization grants `committee.suspend` only while the committee is active; the committee lifecycle
and its SQL trigger suspend a committee only from `pilot_approved`.
-/

namespace ChecksAndBalances

open Lib Lib.Tx LifecycleRepository

/-- A transition whose domain guard fails does not commit under an unused key. -/
theorem TableConfig.not_accepted_of_domain {Row State Command : Type}
    (t : TableConfig Row State Command) (db : Db) {command : Command}
    (input : LifecycleTransitionInput) {row : Row}
    (hrow : (t.rows db).find? (fun r => t.externalReference r = input.externalReference) = some row)
    (hdomain : ∀ next, t.apply command (t.state row) ≠ .ok next)
    (hkey : db.idempotencyAt (scope (t.committeeId row) input.context)
      (sha256 input.context.idempotencyKey) = none) :
    ¬ Accepted (t.transition command input) db := by
  rintro ⟨record, db', h⟩
  obtain ⟨-, row', hrow', -, -, idempotency, db₁, hbegin, h⟩ := t.commits_transition.1 h
  obtain rfl : row = row' := Option.some.inj (hrow.symm.trans hrow')
  rcases commits_beginIdempotencyIn.1 hbegin with ⟨-, rfl, -⟩ | ⟨taken, htaken, -⟩
  · rcases h with ⟨hreplayed, -⟩ | ⟨-, next, version, db₂, -, hadvance, -⟩
    · cases hreplayed
    · exact hdomain next (t.commits_advance.1 hadvance).2.1
  · rw [hkey] at htaken
    cases htaken

/-- An authorised suspension fails: the domain guard and the SQL trigger both refuse the stored
state, so a new call of `transitionCommittee` does not commit. -/
theorem authorized_suspension_refused (request : AuthorizationRequest) (db : Db)
    (input : LifecycleTransitionInput) {c : Committee}
    (haction : request.action = .committeeSuspend) (hallowed : (authorize request).allowed = true)
    (hc : db.committees.find? (fun c => c.externalReference = input.externalReference) = some c)
    (hstate : request.committeeState.map RequestCommitteeState.stored = some c.state) :
    (∀ next, applyCommittee .suspendCommittee c.state ≠ .ok next) ∧
    (∀ new : Committee, new.state = .suspended → guardCommitteeTransition c new ≠ .ok ()) ∧
    (db.idempotencyAt (TableConfig.scope (some c.id) input.context)
        (sha256 input.context.idempotencyKey) = none →
      ¬ Accepted (transitionCommittee .suspendCommittee input) db) := by
  have hgranted := ((authorize_allowed_iff request).1 hallowed).1
  have hactive := committee_active_of_granted hgranted (by rw [haction]; decide)
    (by rw [haction]; decide)
  rw [hactive] at hstate
  have hstored : c.state = .active := (Option.some.inj hstate).symm
  have hdomain : ∀ next, applyCommittee .suspendCommittee c.state ≠ .ok next := by
    intro next h
    have hexpected := (applyTransition_eq_ok_iff.1 h).1
    rw [hstored] at hexpected
    exact absurd hexpected (by decide)
  refine ⟨hdomain, fun new hnew h => ?_, committeeTable.not_accepted_of_domain db input hc hdomain⟩
  unfold guardCommitteeTransition at h
  rw [hstored, hnew] at h
  split_ifs at h with hversion hallowed
  exact absurd hallowed (by decide)

namespace SuspensionSample

def context (key : String) : CommandContext :=
  { actor :=
      { type := "steward", reference := "steward_one", authenticationStrength := "passkey" }
    committeeReference := "committee_one"
    policyVersionReference := "policy_one"
    softwareVersion := "0.0.0"
    reasonCategory := "routine"
    correlationId := "correlation_one"
    idempotencyKey := key
    requestDigest := "digest" }

def input (key : String) (expectedVersion : ℕ) : LifecycleTransitionInput :=
  { externalReference := "committee_one", expectedVersion, observedAt := 0
    assignmentReference := none, context := context key }

/-- The commands that bring a proposed committee to activity. -/
def formation : List CommitteeLifecycleCommand := [
  .beginCommitteeFormation, .beginCommitteePolicyReview, .beginTestnetProvisioning,
  .markCommitteeTestnetReady, .beginCommitteePilotReview, .approveCommitteePilot,
  .activateCommittee]

/-- The committee after its formation. -/
def db : Db :=
  formation.foldl (fun db command =>
      commit (transitionCommittee command
        (input command.name (db.committees.head?.map Committee.version |>.getD 0))) db)
    { Db.empty with committees := [{ id := 1, externalReference := "committee_one" }] }

/-- A steward asks to suspend the active committee, with a second steward's approval. -/
def request : AuthorizationRequest :=
  { action := .committeeSuspend, actorReference := "steward_one", actorAccountState := .active
    actorTrustDomain := .committee, roles := [.steward], authenticationStrength := .passkey
    reauthenticatedAt := some 0, now := 0, reauthenticationWindowMs := 300000
    actorCommitteeReference := some "committee_one"
    targetCommitteeReference := some "committee_one"
    resourceOwnerReference := none, membershipState := some .active
    committeeState := some .active, assignedToSession := false, conflicted := false
    enabledFeatures := [], requiredFeatures := [], requiredPolicyKeys := [], policies := []
    statePreconditionsSatisfied := true
    fourEyesApproval := some
      { approverReference := "steward_two", approverRoles := [.steward], active := true
        authenticationStrength := .passkey, reauthenticatedAt := some 0 } }

/-- The committee, once it is active. -/
def committee : Committee :=
  { id := 1, externalReference := "committee_one", state := .active, version := 8 }

/-- What the formation leaves. -/
theorem evaluation : db.committees = [committee] ∧
    db.idempotencyAt (TableConfig.scope (some 1) (context "suspend")) (sha256 "suspend") = none := by
  decide +kernel

/-- A database that holds the committee alone refuses the suspension. -/
theorem suspension_refused {db : Db} (hcommittees : db.committees = [committee])
    (hkey : db.idempotencyAt (TableConfig.scope (some 1) (context "suspend"))
      (sha256 "suspend") = none) :
    ¬ Accepted (transitionCommittee .suspendCommittee (input "suspend" 8)) db := by
  have hfound : db.committees.find? (fun c =>
      c.externalReference = (input "suspend" 8).externalReference) = some committee := by
    rw [hcommittees]
    rfl
  exact committeeTable.not_accepted_of_domain db (input "suspend" 8) hfound nofun hkey

/-- The suspension of the active committee is allowed, and it is refused. -/
theorem active_suspension_refused :
    request.action = .committeeSuspend ∧ (authorize request).allowed = true ∧
    request.committeeState.map RequestCommitteeState.stored = some committee.state ∧
    db.committees = [committee] ∧ committee.version = (input "suspend" 8).expectedVersion ∧
    applyCommittee .suspendCommittee committee.state = .error
      { aggregate := .committee, command := "suspendCommittee", currentState := "active"
        expectedStates := ["pilot_approved"] } ∧
    guardCommitteeTransition committee { committee with state := .suspended, version := 9 } =
      .error (.raised "invalid committee transition: active -> suspended") ∧
    ¬ Accepted (transitionCommittee .suspendCommittee (input "suspend" 8)) db := by
  obtain ⟨hcommittees, hkey⟩ := evaluation
  exact ⟨rfl, by decide, rfl, hcommittees, rfl, by decide, by decide,
    suspension_refused hcommittees hkey⟩

theorem active_suspension_refused_by_both :
    (∀ next, applyCommittee .suspendCommittee committee.state ≠ .ok next) ∧
    (∀ new : Committee, new.state = .suspended → guardCommitteeTransition committee new ≠ .ok ()) ∧
    (db.idempotencyAt (TableConfig.scope (some committee.id) (context "suspend"))
        (sha256 "suspend") = none →
      ¬ Accepted (transitionCommittee .suspendCommittee (input "suspend" 8)) db) :=
  authorized_suspension_refused request db (input "suspend" 8) rfl (by decide)
    (by rw [evaluation.1]; rfl) rfl

end SuspensionSample

end ChecksAndBalances
