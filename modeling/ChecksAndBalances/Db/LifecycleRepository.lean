import ChecksAndBalances.Db.Idempotency

/-!
# Lifecycles

`LifecycleRepository` of `packages/db/src/lifecycle-repository.ts`.  One generic `transition` serves
eight tables; what the source decides by the name of the table (the columns that `load` selects, the
preconditions, the additional assignments, and the constraints and triggers of the migrations) is
part of the `TableConfig` of the table.
-/

namespace ChecksAndBalances

open Lib Lib.Tx

/-- `LifecycleTransitionInput`. -/
structure LifecycleTransitionInput where
  externalReference : String
  expectedVersion : ℕ
  observedAt : ℤ
  assignmentReference : Option String
  context : CommandContext
  deriving DecidableEq, Repr

/-- `LifecycleRecord`. -/
structure LifecycleRecord where
  externalReference : String
  state : String
  version : ℕ
  replayed : Bool
  deriving DecidableEq, Repr

/-! ## Constraints -/

/-- A CHECK constraint; a condition that is null holds. -/
structure CheckConstraint (Row : Type) where
  name : String
  holds : Row → Bool

/-- A row is stored when it meets every CHECK constraint of its table. -/
def enforceChecks {Row : Type} (checks : List (CheckConstraint Row)) (row : Row) :
    Except RepositoryError Unit :=
  match checks.find? fun c => !c.holds row with
  | some c => .error (.checkViolation c.name)
  | none => .ok ()

/-- `"version" > 0`. -/
def versionPositive {Row : Type} (name : String) (version : Row → ℕ) : CheckConstraint Row :=
  { name, holds := fun row => 0 < version row }

/-- What the database holds besides the domain and lifecycle tables. -/
def Db.besides (db : Db) :=
  (db.toWorkTables, db.toAuthTables, db.idempotency, db.audit, db.auditChainHeads, db.nextId,
    db.currentTimestamp)

/-- `TableConfig`, with what the generic statements do in the table it names. -/
structure TableConfig (Row State Command : Type) where
  table : String
  targetType : String
  eventAggregate : String
  rows : Db → List Row
  withRows : Db → List Row → Db
  id : Row → Uuid
  externalReference : Row → String
  /-- The selected `committee_id`. -/
  committeeId : Row → Option Uuid
  /-- The selected `committee_reference`. -/
  committeeReference : DomainTables → Row → Option String
  state : Row → State
  version : Row → ℕ
  stateName : State → String
  commandName : Command → String
  /-- The `apply` argument of `transition`. -/
  apply : Command → State → Except InvalidTransitionError State
  validatePreconditions : LifecycleTables → Command → Row → LifecycleTransitionInput →
    Except RepositoryError Unit
  /-- The assignments of the UPDATE statement. -/
  assign : State → LifecycleTransitionInput → Row → Row
  /-- The update trigger, on the row before and the row after. -/
  trigger : AuthTables → Row → Row → Except RepositoryError Unit
  checks : List (CheckConstraint Row)
  rows_congr : ∀ db db' : Db, db'.toDomainTables = db.toDomainTables →
    db'.toLifecycleTables = db.toLifecycleTables → rows db' = rows db
  rows_withRows : ∀ db new, rows (withRows db new) = new
  besides_withRows : ∀ db new, (withRows db new).besides = db.besides
  id_assign : ∀ next input row, id (assign next input row) = id row
  state_assign : ∀ next input row, state (assign next input row) = next
  version_assign : ∀ next input row, version (assign next input row) = version row + 1

namespace TableConfig

variable {Row State Command : Type} (t : TableConfig Row State Command)

/-- The trigger and the constraints an updated row has to pass. -/
def guard (auth : AuthTables) (old new : Row) : Except RepositoryError Unit := do
  t.trigger auth old new
  enforceChecks t.checks new

/-- `load`; the value is the row with the reference of its committee. -/
def load (reference : String) : DbTx (Row × Option String) := do
  let db ← get
  let row ← found ((t.rows db).find? fun r => t.externalReference r = reference) .tenantBoundary
  return (row, t.committeeReference db.toDomainTables row)

/-- The scope of the idempotency keys of a lifecycle command. -/
def scope (committeeId : Option Uuid) (context : CommandContext) : String :=
  if committeeId.isSome then "committee:" ++ context.committeeReference
  else "global:" ++ context.actor.reference

/-- The UPDATE statement of `transition`; the value is what it returns. -/
def updateRow (row : Row) (next : State) (input : LifecycleTransitionInput) :
    DbTx (List Row) := do
  let db ← get
  let selected := fun r => t.id r = t.id row && t.version r = input.expectedVersion
  let rows ← lift (fun e => e)
    (Table.update selected (t.assign next input) (t.guard db.toAuthTables) (t.rows db))
  modify fun db => t.withRows db rows
  return ((t.rows db).filter selected).map (t.assign next input)

/-- The part of `transition` that checks the command and writes the row; the value is the new state
and the new version. -/
def advance (command : Command) (row : Row) (input : LifecycleTransitionInput) :
    DbTx (State × ℕ) := do
  require (t.version row = input.expectedVersion)
    (.conflict (t.targetType ++ " version is stale"))
  let next ← lift .invalidTransition (t.apply command (t.state row))
  let db ← get
  lift (fun e => e) (t.validatePreconditions db.toLifecycleTables command row input)
  let rows ← t.updateRow row next input
  let updated ← found rows.head? (.conflict (t.targetType ++ " version is stale"))
  return (next, t.version updated)

/-- The audit event and the outbox event of `transition`. -/
def announce (command : Command) (row : Row) (next : State) (version : ℕ)
    (input : LifecycleTransitionInput) : DbTx Unit := do
  let _ ← appendAudit input.context (t.committeeId row) (t.commandName command)
    { type := t.targetType, reference := input.externalReference
      priorState := some (t.stateName (t.state row)), newState := some (t.stateName next) }
  let id ← newId
  insertOutboxEvent id (t.committeeId row) (t.commandName command) t.eventAggregate
    input.externalReference "issue-16-v1"
    ("domain:" ++ input.externalReference ++ ":v" ++ toString version)
    (sha256 (t.commandName command ++ "|" ++ input.externalReference ++ "|" ++
      toString version ++ "|" ++ t.stateName next))
    (outboxKeyHash input.context (t.commandName command))

/-- `transition`. -/
def transition (command : Command) (input : LifecycleTransitionInput) : DbTx LifecycleRecord := do
  requireOpaqueReference input.externalReference (t.targetType ++ " reference")
  let (row, committeeReference) ← t.load input.externalReference
  require (truthy committeeReference = true →
    committeeReference = some input.context.committeeReference) .tenantBoundary
  require (t.table = "committee" → t.externalReference row = input.context.committeeReference)
    .tenantBoundary
  let idempotency ← beginIdempotencyIn (scope (t.committeeId row) input.context)
    (t.committeeId row) (t.commandName command) input.context
  if idempotency.replayed then
    require (idempotency.resultReference = some input.externalReference ∧
      truthy idempotency.resultState = true ∧ 0 < idempotency.resultVersion.getD 0)
      .idempotencyConflict
    return { externalReference := input.externalReference
             state := idempotency.resultState.getD ""
             version := idempotency.resultVersion.getD 0
             replayed := true }
  else
    let (next, version) ← t.advance command row input
    t.announce command row next version input
    completeIdempotency idempotency.id input.externalReference version (t.stateName next)
    return { externalReference := input.externalReference
             state := t.stateName next
             version
             replayed := false }

end TableConfig

/-- `LEFT JOIN "committee" c ON c."id" = t."committee_id"`. -/
def joinedReference (d : DomainTables) (committeeId : Option Uuid) : Option String :=
  committeeId.bind fun id =>
    (d.committees.find? fun c => c.id = id).map Committee.externalReference

namespace LifecycleRepository

/-! ## Committees -/

/-- `CommitteeLifecycleCommand`. -/
inductive CommitteeLifecycleCommand where
  | beginCommitteeFormation
  | beginCommitteePolicyReview
  | beginTestnetProvisioning
  | markCommitteeTestnetReady
  | beginCommitteePilotReview
  | approveCommitteePilot
  | activateCommittee
  | suspendCommittee
  | retireCommittee
  | reactivateCommittee
  | retireSuspendedCommittee
  deriving DecidableEq, Repr

def CommitteeLifecycleCommand.name : CommitteeLifecycleCommand → String
  | beginCommitteeFormation => "beginCommitteeFormation"
  | beginCommitteePolicyReview => "beginCommitteePolicyReview"
  | beginTestnetProvisioning => "beginTestnetProvisioning"
  | markCommitteeTestnetReady => "markCommitteeTestnetReady"
  | beginCommitteePilotReview => "beginCommitteePilotReview"
  | approveCommitteePilot => "approveCommitteePilot"
  | activateCommittee => "activateCommittee"
  | suspendCommittee => "suspendCommittee"
  | retireCommittee => "retireCommittee"
  | reactivateCommittee => "reactivateCommittee"
  | retireSuspendedCommittee => "retireSuspendedCommittee"

/-- `applyCommittee`. -/
def applyCommittee : CommitteeLifecycleCommand → LifecycleStep CommitteeState
  | .beginCommitteeFormation => beginCommitteeFormation
  | .beginCommitteePolicyReview => beginCommitteePolicyReview
  | .beginTestnetProvisioning => beginTestnetProvisioning
  | .markCommitteeTestnetReady => markCommitteeTestnetReady
  | .beginCommitteePilotReview => beginCommitteePilotReview
  | .approveCommitteePilot => approveCommitteePilot
  | .activateCommittee => activateCommittee
  | .suspendCommittee => suspendCommittee
  | .retireCommittee => retireCommittee
  | .reactivateCommittee => reactivateCommittee
  | .retireSuspendedCommittee => retireSuspendedCommittee

/-- The state pairs that `cbc_guard_committee_transition` lets through. -/
def committeeTransitionAllowed : CommitteeState → CommitteeState → Bool
  | .proposed, .forming => true
  | .forming, .policyReview => true
  | .policyReview, .testnetProvisioning => true
  | .testnetProvisioning, .testnetReady => true
  | .testnetReady, .pilotReview => true
  | .pilotReview, .pilotApproved => true
  | .pilotApproved, .active | .pilotApproved, .suspended | .pilotApproved, .retired => true
  | .suspended, .active | .suspended, .retired => true
  | _, _ => false

/-- `cbc_guard_committee_transition`. -/
def guardCommitteeTransition (old new : Committee) : Except RepositoryError Unit :=
  if new.version ≠ old.version + 1 then .error (.raised "committee version conflict")
  else if committeeTransitionAllowed old.state new.state then .ok ()
  else .error (.raised ("invalid committee transition: " ++ old.state.name ++ " -> " ++
    new.state.name))

/-- The table of `transitionCommittee`. -/
def committeeTable : TableConfig Committee CommitteeState CommitteeLifecycleCommand where
  table := "committee"
  targetType := "committee"
  eventAggregate := "committee"
  rows := fun db => db.committees
  withRows := fun db committees => { db with committees }
  id := Committee.id
  externalReference := Committee.externalReference
  committeeId := fun c => some c.id
  committeeReference := fun _ c => some c.externalReference
  state := Committee.state
  version := Committee.version
  stateName := CommitteeState.name
  commandName := CommitteeLifecycleCommand.name
  apply := applyCommittee
  validatePreconditions := fun _ _ _ _ => .ok ()
  assign := fun next _ c => { c with state := next, version := c.version + 1 }
  trigger := fun _ => guardCommitteeTransition
  checks := [versionPositive "committee_version_positive" Committee.version]
  rows_congr _ _ h _ := congrArg DomainTables.committees h
  rows_withRows _ _ := rfl
  besides_withRows _ _ := rfl
  id_assign _ _ _ := rfl
  state_assign _ _ _ := rfl
  version_assign _ _ _ := rfl

def transitionCommittee := committeeTable.transition

/-! ## Renewal cycles -/

/-- `RenewalLifecycleCommand`. -/
inductive RenewalLifecycleCommand where
  | commitEligibleSnapshot
  | requestRenewalSelection
  | recordRenewalSelection
  | queueRenewalNotices
  | beginRenewalCycle
  | beginRenewalReporting
  | publishRenewalReport
  | cancelDraftRenewalCycle
  deriving DecidableEq, Repr

def RenewalLifecycleCommand.name : RenewalLifecycleCommand → String
  | commitEligibleSnapshot => "commitEligibleSnapshot"
  | requestRenewalSelection => "requestRenewalSelection"
  | recordRenewalSelection => "recordRenewalSelection"
  | queueRenewalNotices => "queueRenewalNotices"
  | beginRenewalCycle => "beginRenewalCycle"
  | beginRenewalReporting => "beginRenewalReporting"
  | publishRenewalReport => "publishRenewalReport"
  | cancelDraftRenewalCycle => "cancelDraftRenewalCycle"

/-- `applyRenewal`. -/
def applyRenewal : RenewalLifecycleCommand → LifecycleStep RenewalCycleState
  | .commitEligibleSnapshot => commitEligibleSnapshot
  | .requestRenewalSelection => requestRenewalSelection
  | .recordRenewalSelection => recordRenewalSelection
  | .queueRenewalNotices => queueRenewalNotices
  | .beginRenewalCycle => beginRenewalCycle
  | .beginRenewalReporting => beginRenewalReporting
  | .publishRenewalReport => publishRenewalReport
  | .cancelDraftRenewalCycle => cancelDraftRenewalCycle

/-- The artifact that a command requires, as the cycles that have one. -/
def RenewalLifecycleCommand.artifact (d : LifecycleTables) :
    RenewalLifecycleCommand → Option (List Uuid)
  | commitEligibleSnapshot => some d.eligibleSnapshots
  | recordRenewalSelection => some d.cycleSelections
  | publishRenewalReport => some d.cycleReports
  | _ => none

/-- `validatePreconditions` of a renewal cycle. -/
def requireArtifact (d : LifecycleTables) (command : RenewalLifecycleCommand)
    (cycle : RenewalCycle) : Except RepositoryError Unit :=
  match command.artifact d with
  | some cycles =>
    if cycle.id ∈ cycles then .ok ()
    else .error (.conflict (command.name ++ " requires its immutable lifecycle artifact"))
  | none => .ok ()

/-- The table of `transitionRenewalCycle`. -/
def renewalCycleTable : TableConfig RenewalCycle RenewalCycleState RenewalLifecycleCommand where
  table := "renewal_cycle"
  targetType := "renewal_cycle"
  eventAggregate := "renewal_cycle"
  rows := fun db => db.renewalCycles
  withRows := fun db renewalCycles => { db with renewalCycles }
  id := RenewalCycle.id
  externalReference := RenewalCycle.externalReference
  committeeId := fun r => some r.committeeId
  committeeReference := fun d r => joinedReference d (some r.committeeId)
  state := RenewalCycle.state
  version := RenewalCycle.version
  stateName := RenewalCycleState.name
  commandName := RenewalLifecycleCommand.name
  apply := applyRenewal
  validatePreconditions := fun d command r _ => requireArtifact d command r
  assign := fun next _ r => { r with state := next, version := r.version + 1 }
  trigger := fun _ _ _ => .ok ()
  checks := [
    { name := "renewal_cycle_period_order"
      holds := fun r => r.periodStartsAt < r.periodEndsAt },
    versionPositive "renewal_cycle_version_positive" RenewalCycle.version]
  rows_congr _ _ _ h := congrArg LifecycleTables.renewalCycles h
  rows_withRows _ _ := rfl
  besides_withRows _ _ := rfl
  id_assign _ _ _ := rfl
  state_assign _ _ _ := rfl
  version_assign _ _ _ := rfl

def transitionRenewalCycle := renewalCycleTable.transition

/-! ## Wallet challenges -/

/-- `WalletChallengeCommand`. -/
inductive WalletChallengeCommand where
  | presentWalletChallenge
  | recordWalletResponse
  | consumeWalletChallenge
  | rejectWalletResponse
  | expireWalletChallenge
  deriving DecidableEq, Repr

def WalletChallengeCommand.name : WalletChallengeCommand → String
  | presentWalletChallenge => "presentWalletChallenge"
  | recordWalletResponse => "recordWalletResponse"
  | consumeWalletChallenge => "consumeWalletChallenge"
  | rejectWalletResponse => "rejectWalletResponse"
  | expireWalletChallenge => "expireWalletChallenge"

/-- `applyWalletChallenge`. -/
def applyWalletChallenge : WalletChallengeCommand → LifecycleStep WalletChallengeState
  | .presentWalletChallenge => presentWalletChallenge
  | .recordWalletResponse => recordWalletResponse
  | .consumeWalletChallenge => consumeWalletChallenge
  | .rejectWalletResponse => rejectWalletResponse
  | .expireWalletChallenge => expireWalletChallenge

/-- `validatePreconditions` of a wallet challenge. -/
def requireBoundary (command : WalletChallengeCommand) (challenge : WalletChallenge)
    (observedAt : ℤ) : Except RepositoryError Unit :=
  if command = .expireWalletChallenge ∧ observedAt < challenge.expiresAt then
    .error (.conflict "wallet challenge cannot expire before its boundary")
  else if command ≠ .expireWalletChallenge ∧ challenge.expiresAt ≤ observedAt then
    .error (.conflict "expired wallet challenge cannot progress")
  else .ok ()

/-- The CHECK constraints of `wallet_challenge`. -/
def walletChallengeChecks : List (CheckConstraint WalletChallenge) := [
  { name := "wallet_challenge_consumption_consistent"
    holds := fun w => w.state = .consumed ↔ w.consumedAt ≠ none },
  { name := "wallet_challenge_https_callback"
    holds := fun w => "https://".toList.isPrefixOf w.callbackUrl.toList },
  { name := "wallet_challenge_link_fields_complete"
    holds := fun w =>
      !(["link_verusid", "revalidate_verusid"].contains w.purpose) ||
        (w.authAccountId.isSome && w.requestId.isSome && w.pollingTokenDigest.isSome &&
          w.callbackUrl != "https://invalid.local/legacy" &&
          w.applicationIdentityAddress != "legacy_unapproved" &&
          w.consentedScopes == ["verusid:link"] && w.issuedAt.isSome) },
  { name := "wallet_challenge_nonce_hash_sha256", holds := fun w => isHex64 w.nonceHash },
  { name := "wallet_challenge_request_digest_sha256", holds := fun w => isHex64 w.requestDigest },
  { name := "wallet_challenge_response_digest_sha256"
    holds := fun w => w.responseDigest.all isHex64 },
  { name := "wallet_challenge_terminal_reason"
    holds := fun w => w.state = .rejected ∨ w.state = .cancelled ↔ w.rejectionReason ≠ none },
  { name := "wallet_challenge_time_order"
    holds := fun w => w.issuedAt.all fun issuedAt => issuedAt < w.expiresAt },
  versionPositive "wallet_challenge_version_positive" WalletChallenge.version]

/-- The table of `transitionWalletChallenge`. -/
def walletChallengeTable :
    TableConfig WalletChallenge WalletChallengeState WalletChallengeCommand where
  table := "wallet_challenge"
  targetType := "wallet_challenge"
  eventAggregate := "wallet_challenge"
  rows := fun db => db.walletChallenges
  withRows := fun db walletChallenges => { db with walletChallenges }
  id := WalletChallenge.id
  externalReference := WalletChallenge.externalReference
  committeeId := fun _ => none
  committeeReference := fun _ _ => none
  state := WalletChallenge.state
  version := WalletChallenge.version
  stateName := WalletChallengeState.name
  commandName := WalletChallengeCommand.name
  apply := applyWalletChallenge
  validatePreconditions := fun _ command w input => requireBoundary command w input.observedAt
  assign := fun next input w => { w with
    state := next
    version := w.version + 1
    consumedAt := if next = .consumed then some input.observedAt else w.consumedAt }
  trigger := fun _ _ _ => .ok ()
  checks := walletChallengeChecks
  rows_congr _ _ _ h := congrArg LifecycleTables.walletChallenges h
  rows_withRows _ _ := rfl
  besides_withRows _ _ := rfl
  id_assign _ _ _ := rfl
  state_assign _ _ _ := rfl
  version_assign _ _ _ := rfl

def transitionWalletChallenge := walletChallengeTable.transition

/-! ## Consents -/

/-- The commands of `transitionConsent`. -/
inductive ConsentLifecycleCommand where
  | acknowledgeConsent
  | withdrawConsent
  deriving DecidableEq, Repr

def ConsentLifecycleCommand.name : ConsentLifecycleCommand → String
  | acknowledgeConsent => "acknowledgeConsent"
  | withdrawConsent => "withdrawConsent"

def applyConsent : ConsentLifecycleCommand → LifecycleStep ConsentState
  | .acknowledgeConsent => acknowledgeConsent
  | .withdrawConsent => withdrawConsent

/-- `enforce_auth_subject_match`. -/
def enforceAuthSubjectMatch (d : AuthTables) (authAccountId : Uuid)
    (participantId : Option Uuid) : Except RepositoryError Unit :=
  if (d.authAccounts.find? fun a => a.id = authAccountId).bind AuthAccount.participantId =
      participantId then .ok ()
  else .error (.raised "authentication record crosses participant subjects")

/-- The CHECK constraints of `consent_receipt`. -/
def consentReceiptChecks : List (CheckConstraint ConsentReceipt) := [
  { name := "consent_lifecycle_consistent"
    holds := fun r => match r.state, r.acknowledgedAt, r.withdrawnAt with
      | .pending, none, none => true
      | .acknowledged, some _, none => true
      | .withdrawn, some acknowledgedAt, some withdrawnAt => acknowledgedAt ≤ withdrawnAt
      | _, _, _ => false },
  { name := "consent_receipt_withdrawal_order"
    holds := fun r => match r.acknowledgedAt, r.withdrawnAt with
      | some acknowledgedAt, some withdrawnAt => acknowledgedAt ≤ withdrawnAt
      | _, _ => true },
  versionPositive "consent_version_positive" ConsentReceipt.version]

/-- The table of `transitionConsent`. -/
def consentReceiptTable : TableConfig ConsentReceipt ConsentState ConsentLifecycleCommand where
  table := "consent_receipt"
  targetType := "consent_receipt"
  eventAggregate := "consent"
  rows := fun db => db.consentReceipts
  withRows := fun db consentReceipts => { db with consentReceipts }
  id := ConsentReceipt.id
  externalReference := ConsentReceipt.externalReference
  committeeId := ConsentReceipt.committeeId
  committeeReference := fun d r => joinedReference d r.committeeId
  state := ConsentReceipt.state
  version := ConsentReceipt.version
  stateName := ConsentState.name
  commandName := ConsentLifecycleCommand.name
  apply := applyConsent
  validatePreconditions := fun _ _ _ _ => .ok ()
  assign := fun next input r => { r with
    state := next
    version := r.version + 1
    acknowledgedAt := if next = .acknowledged then some input.observedAt else r.acknowledgedAt
    withdrawnAt := if next = .withdrawn then some input.observedAt else r.withdrawnAt }
  trigger := fun d _ new => enforceAuthSubjectMatch d new.authAccountId new.participantId
  checks := consentReceiptChecks
  rows_congr _ _ _ h := congrArg LifecycleTables.consentReceipts h
  rows_withRows _ _ := rfl
  besides_withRows _ _ := rfl
  id_assign _ _ _ := rfl
  state_assign _ _ _ := rfl
  version_assign _ _ _ := rfl

def transitionConsent := consentReceiptTable.transition

/-! ## Appeals -/

/-- `AppealLifecycleCommand`. -/
inductive AppealLifecycleCommand where
  | assignAppeal
  | beginAppealReview
  | upholdAppealCase
  | denyAppealCase
  | remandAppealCase
  | withdrawAppealCase
  deriving DecidableEq, Repr

def AppealLifecycleCommand.name : AppealLifecycleCommand → String
  | assignAppeal => "assignAppeal"
  | beginAppealReview => "beginAppealReview"
  | upholdAppealCase => "upholdAppealCase"
  | denyAppealCase => "denyAppealCase"
  | remandAppealCase => "remandAppealCase"
  | withdrawAppealCase => "withdrawAppealCase"

/-- `applyAppeal`. -/
def applyAppeal : AppealLifecycleCommand → LifecycleStep AppealState
  | .assignAppeal => assignAppeal
  | .beginAppealReview => beginAppealReview
  | .upholdAppealCase => upholdAppealCase
  | .denyAppealCase => denyAppealCase
  | .remandAppealCase => remandAppealCase
  | .withdrawAppealCase => withdrawAppealCase

/-- `validatePreconditions` of an appeal. -/
def requireAssignee (command : AppealLifecycleCommand) (assignmentReference : Option String) :
    Except RepositoryError Unit :=
  if command ≠ .assignAppeal then .ok ()
  else match assignmentReference with
    | none => .error (.conflict "appeal assignment requires an opaque assignee reference")
    | some reference =>
      if reference = "" then
        .error (.conflict "appeal assignment requires an opaque assignee reference")
      else if isOpaqueReference reference = true ∧ '@' ∉ reference.toList then .ok ()
      else .error (.conflict "appeal assignee reference must be an opaque reference")

/-- The states of an appeal that has been decided. -/
def isResolved (s : AppealState) : Bool := s = .upheld ∨ s = .denied ∨ s = .remanded

/-- The table of `transitionAppeal`. -/
def appealTable : TableConfig Appeal AppealState AppealLifecycleCommand where
  table := "appeal"
  targetType := "appeal"
  eventAggregate := "appeal"
  rows := fun db => db.appeals
  withRows := fun db appeals => { db with appeals }
  id := Appeal.id
  externalReference := Appeal.externalReference
  committeeId := fun a => some a.committeeId
  committeeReference := fun d a => joinedReference d (some a.committeeId)
  state := Appeal.state
  version := Appeal.version
  stateName := AppealState.name
  commandName := AppealLifecycleCommand.name
  apply := applyAppeal
  validatePreconditions := fun _ command _ input =>
    requireAssignee command input.assignmentReference
  assign := fun next input a => { a with
    state := next
    version := a.version + 1
    assignedReference :=
      if next = .assigned then input.assignmentReference else a.assignedReference
    resolvedAt := if isResolved next then some input.observedAt else a.resolvedAt }
  trigger := fun _ _ _ => .ok ()
  checks := [
    { name := "appeal_resolution_consistent"
      holds := fun a => isResolved a.state = true ↔ a.resolvedAt ≠ none },
    versionPositive "appeal_version_positive" Appeal.version]
  rows_congr _ _ _ h := congrArg LifecycleTables.appeals h
  rows_withRows _ _ := rfl
  besides_withRows _ _ := rfl
  id_assign _ _ _ := rfl
  state_assign _ _ _ := rfl
  version_assign _ _ _ := rfl

def transitionAppeal := appealTable.transition

/-! ## Privacy requests -/

/-- `PrivacyLifecycleCommand`. -/
inductive PrivacyLifecycleCommand where
  | confirmPrivacyRequester
  | beginPrivacyRequest
  | completePrivacyRequest
  | denyPrivacyRequest
  | withdrawPrivacyRequest
  deriving DecidableEq, Repr

def PrivacyLifecycleCommand.name : PrivacyLifecycleCommand → String
  | confirmPrivacyRequester => "confirmPrivacyRequester"
  | beginPrivacyRequest => "beginPrivacyRequest"
  | completePrivacyRequest => "completePrivacyRequest"
  | denyPrivacyRequest => "denyPrivacyRequest"
  | withdrawPrivacyRequest => "withdrawPrivacyRequest"

/-- `applyPrivacy`. -/
def applyPrivacy : PrivacyLifecycleCommand → LifecycleStep PrivacyRequestState
  | .confirmPrivacyRequester => confirmPrivacyRequester
  | .beginPrivacyRequest => beginPrivacyRequest
  | .completePrivacyRequest => completePrivacyRequest
  | .denyPrivacyRequest => denyPrivacyRequest
  | .withdrawPrivacyRequest => withdrawPrivacyRequest

/-- The table of `transitionPrivacyRequest`. -/
def privacyRightsRequestTable :
    TableConfig PrivacyRightsRequest PrivacyRequestState PrivacyLifecycleCommand where
  table := "privacy_rights_request"
  targetType := "privacy_rights_request"
  eventAggregate := "privacy_request"
  rows := fun db => db.privacyRightsRequests
  withRows := fun db privacyRightsRequests => { db with privacyRightsRequests }
  id := PrivacyRightsRequest.id
  externalReference := PrivacyRightsRequest.externalReference
  committeeId := PrivacyRightsRequest.committeeId
  committeeReference := fun d r => joinedReference d r.committeeId
  state := PrivacyRightsRequest.state
  version := PrivacyRightsRequest.version
  stateName := PrivacyRequestState.name
  commandName := PrivacyLifecycleCommand.name
  apply := applyPrivacy
  validatePreconditions := fun _ _ _ _ => .ok ()
  assign := fun next input r => { r with
    state := next
    version := r.version + 1
    completedAt :=
      if next = .completed ∨ next = .denied then some input.observedAt else r.completedAt }
  trigger := fun _ _ _ => .ok ()
  checks := [versionPositive "privacy_request_version_positive" PrivacyRightsRequest.version]
  rows_congr _ _ _ h := congrArg LifecycleTables.privacyRightsRequests h
  rows_withRows _ _ := rfl
  besides_withRows _ _ := rfl
  id_assign _ _ _ := rfl
  state_assign _ _ _ := rfl
  version_assign _ _ _ := rfl

def transitionPrivacyRequest := privacyRightsRequestTable.transition

/-! ## Notifications -/

/-- `NotificationLifecycleCommand`. -/
inductive NotificationLifecycleCommand where
  | claimNotification
  | recordNotificationDelivery
  | recordRetryableNotificationFailure
  | retryNotification
  | recordTerminalNotificationFailure
  | deadLetterNotification
  | cancelPendingNotification
  deriving DecidableEq, Repr

def NotificationLifecycleCommand.name : NotificationLifecycleCommand → String
  | claimNotification => "claimNotification"
  | recordNotificationDelivery => "recordNotificationDelivery"
  | recordRetryableNotificationFailure => "recordRetryableNotificationFailure"
  | retryNotification => "retryNotification"
  | recordTerminalNotificationFailure => "recordTerminalNotificationFailure"
  | deadLetterNotification => "deadLetterNotification"
  | cancelPendingNotification => "cancelPendingNotification"

/-- `applyNotification`. -/
def applyNotification : NotificationLifecycleCommand → LifecycleStep NotificationState
  | .claimNotification => claimNotification
  | .recordNotificationDelivery => recordNotificationDelivery
  | .recordRetryableNotificationFailure => recordRetryableNotificationFailure
  | .retryNotification => retryNotification
  | .recordTerminalNotificationFailure => recordTerminalNotificationFailure
  | .deadLetterNotification => deadLetterNotification
  | .cancelPendingNotification => cancelPendingNotification

/-- The table of `transitionNotification`. -/
def notificationTable :
    TableConfig Notification NotificationState NotificationLifecycleCommand where
  table := "notification"
  targetType := "notification"
  eventAggregate := "notification"
  rows := fun db => db.notifications
  withRows := fun db notifications => { db with notifications }
  id := Notification.id
  externalReference := Notification.externalReference
  committeeId := Notification.committeeId
  committeeReference := fun d n => joinedReference d n.committeeId
  state := Notification.state
  version := Notification.version
  stateName := NotificationState.name
  commandName := NotificationLifecycleCommand.name
  apply := applyNotification
  validatePreconditions := fun _ _ _ _ => .ok ()
  assign := fun next input n => { n with
    state := next
    version := n.version + 1
    deliveredAt := if next = .delivered then some input.observedAt else n.deliveredAt }
  trigger := fun d _ new => enforceAuthSubjectMatch d new.authAccountId new.participantId
  checks := [
    { name := "notification_delivery_consistent"
      holds := fun n => n.state = .delivered ↔ n.deliveredAt ≠ none },
    versionPositive "notification_version_positive" Notification.version]
  rows_congr _ _ _ h := congrArg LifecycleTables.notifications h
  rows_withRows _ _ := rfl
  besides_withRows _ _ := rfl
  id_assign _ _ _ := rfl
  state_assign _ _ _ := rfl
  version_assign _ _ _ := rfl

def transitionNotification := notificationTable.transition

/-! ## Relying-party clients -/

/-- `RelyingPartyLifecycleCommand`. -/
inductive RelyingPartyLifecycleCommand where
  | beginClientSecurityReview
  | approveRelyingPartyClient
  | activateRelyingPartyClient
  | suspendRelyingPartyClient
  | revokeRelyingPartyClient
  deriving DecidableEq, Repr

def RelyingPartyLifecycleCommand.name : RelyingPartyLifecycleCommand → String
  | beginClientSecurityReview => "beginClientSecurityReview"
  | approveRelyingPartyClient => "approveRelyingPartyClient"
  | activateRelyingPartyClient => "activateRelyingPartyClient"
  | suspendRelyingPartyClient => "suspendRelyingPartyClient"
  | revokeRelyingPartyClient => "revokeRelyingPartyClient"

/-- `applyRelyingParty`. -/
def applyRelyingParty : RelyingPartyLifecycleCommand → LifecycleStep RelyingPartyClientState
  | .beginClientSecurityReview => beginClientSecurityReview
  | .approveRelyingPartyClient => approveRelyingPartyClient
  | .activateRelyingPartyClient => activateRelyingPartyClient
  | .suspendRelyingPartyClient => suspendRelyingPartyClient
  | .revokeRelyingPartyClient => revokeRelyingPartyClient

/-- The table of `transitionRelyingPartyClient`. -/
def relyingPartyClientTable :
    TableConfig RelyingPartyClient RelyingPartyClientState RelyingPartyLifecycleCommand where
  table := "relying_party_client"
  targetType := "relying_party_client"
  eventAggregate := "relying_party_client"
  rows := fun db => db.relyingPartyClients
  withRows := fun db relyingPartyClients => { db with relyingPartyClients }
  id := RelyingPartyClient.id
  externalReference := RelyingPartyClient.externalReference
  committeeId := RelyingPartyClient.committeeId
  committeeReference := fun d r => joinedReference d r.committeeId
  state := RelyingPartyClient.state
  version := RelyingPartyClient.version
  stateName := RelyingPartyClientState.name
  commandName := RelyingPartyLifecycleCommand.name
  apply := applyRelyingParty
  validatePreconditions := fun _ _ _ _ => .ok ()
  assign := fun next _ r => { r with state := next, version := r.version + 1 }
  trigger := fun _ _ _ => .ok ()
  checks := [versionPositive "relying_party_version_positive" RelyingPartyClient.version]
  rows_congr _ _ _ h := congrArg LifecycleTables.relyingPartyClients h
  rows_withRows _ _ := rfl
  besides_withRows _ _ := rfl
  id_assign _ _ _ := rfl
  state_assign _ _ _ := rfl
  version_assign _ _ _ := rfl

def transitionRelyingPartyClient := relyingPartyClientTable.transition

end LifecycleRepository

/-! ## The eight tables -/

/-- The entities that `LifecycleRepository` handles. -/
inductive LifecycleEntity where
  | committee
  | renewalCycle
  | walletChallenge
  | consentReceipt
  | appeal
  | privacyRightsRequest
  | notification
  | relyingPartyClient
  deriving DecidableEq, Repr

namespace LifecycleEntity

open LifecycleRepository

/-- The rows of the entity. -/
abbrev Row : LifecycleEntity → Type
  | committee => Committee
  | renewalCycle => RenewalCycle
  | walletChallenge => WalletChallenge
  | consentReceipt => ConsentReceipt
  | appeal => Appeal
  | privacyRightsRequest => PrivacyRightsRequest
  | notification => Notification
  | relyingPartyClient => RelyingPartyClient

/-- The states of the entity. -/
abbrev State : LifecycleEntity → Type
  | committee => CommitteeState
  | renewalCycle => RenewalCycleState
  | walletChallenge => WalletChallengeState
  | consentReceipt => ConsentState
  | appeal => AppealState
  | privacyRightsRequest => PrivacyRequestState
  | notification => NotificationState
  | relyingPartyClient => RelyingPartyClientState

/-- The commands on the entity. -/
abbrev Command : LifecycleEntity → Type
  | committee => CommitteeLifecycleCommand
  | renewalCycle => RenewalLifecycleCommand
  | walletChallenge => WalletChallengeCommand
  | consentReceipt => ConsentLifecycleCommand
  | appeal => AppealLifecycleCommand
  | privacyRightsRequest => PrivacyLifecycleCommand
  | notification => NotificationLifecycleCommand
  | relyingPartyClient => RelyingPartyLifecycleCommand

/-- The table of the entity. -/
def config : (e : LifecycleEntity) → TableConfig e.Row e.State e.Command
  | committee => committeeTable
  | renewalCycle => renewalCycleTable
  | walletChallenge => walletChallengeTable
  | consentReceipt => consentReceiptTable
  | appeal => appealTable
  | privacyRightsRequest => privacyRightsRequestTable
  | notification => notificationTable
  | relyingPartyClient => relyingPartyClientTable

end LifecycleEntity

end ChecksAndBalances
