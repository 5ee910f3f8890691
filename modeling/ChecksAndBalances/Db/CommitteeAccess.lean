import ChecksAndBalances.Db.AuthRepository
import ChecksAndBalances.Db.LifecycleRepository

/-!
# Access to committees

The methods of `AuthRepository` that invite, approve and activate the committee access of an account,
over the constraints and the trigger of `auth_committee_access`.
-/

namespace ChecksAndBalances

open Lib Lib.Tx

/-- `CommitteeInvitationInput`. -/
structure CommitteeInvitationInput where
  accountReference : String
  committeeReference : String
  invitedByReference : String

/-- The input of `approveCommittee`. -/
structure CommitteeApprovalInput where
  accountReference : String
  committeeReference : String
  approvedByReference : String
  approvedAt : ℤ

/-- The input of `activateCommittee`. -/
structure CommitteeActivationInput where
  accountReference : String
  committeeReference : String
  memberReference : String
  activatedAt : ℤ

/-- The CHECK constraints of `auth_committee_access`. -/
def committeeAccessChecks : List (CheckConstraint AuthCommitteeAccess) := [
  { name := "auth_committee_access_approval_check"
    holds := fun c => c.state = .invited || (c.approvedByReference.isSome && c.approvedAt.isSome &&
      c.approvedByReference ≠ some c.invitedByReference) },
  { name := "auth_committee_access_activation_check"
    holds := fun c => c.state ≠ .active || (c.memberId.isSome && c.activatedAt.isSome) }]

/-- `enforce_committee_access_account_domain`, and the CHECK constraints. -/
def guardCommitteeAccess (accounts : List AuthAccount) (c : AuthCommitteeAccess) :
    Except RepositoryError Unit :=
  if (accounts.find? fun a => a.id = c.accountId).map AuthAccount.trustDomain = some .committee then
    enforceChecks committeeAccessChecks c
  else .error (.raised "committee access requires a committee authentication account")

namespace AuthRepository

/-- `committee`. -/
def committee (externalReference : String) : DbTx Committee := do
  let db ← get
  found (db.committees.find? fun c => c.externalReference = externalReference)
    (.conflict "committee is unavailable")

/-- `inviteCommittee`. -/
def inviteCommittee (input : CommitteeInvitationInput) : DbTx Unit := do
  let account ← account input.accountReference (some .committee)
  let committee ← committee input.committeeReference
  let id ← newId
  let row : AuthCommitteeAccess :=
    { id
      accountId := account.id
      committeeId := committee.id
      memberId := none
      state := .invited
      invitedByReference := input.invitedByReference
      approvedByReference := none
      approvedAt := none
      activatedAt := none }
  let db ← get
  lift (fun e => e) (guardCommitteeAccess db.authAccounts row)
  requireUnique db.committeeAccesses (fun c => c.id = id) "auth_committee_access_pkey"
  requireUnique db.committeeAccesses
    (fun c => c.accountId = account.id && c.committeeId = committee.id)
    "auth_committee_access_account_id_committee_id_key"
  modify fun db => { db with committeeAccesses := db.committeeAccesses ++ [row] }

/-- The joined rows of an access in the state: its account and its committee. -/
def isAccess (db : Db) (accountReference committeeReference : String) (state : CommitteeAccessState)
    (c : AuthCommitteeAccess) : Bool :=
  c.state = state &&
    (db.authAccounts.any fun a => a.id = c.accountId && a.externalReference = accountReference) &&
    (db.committees.any fun k => k.id = c.committeeId && k.externalReference = committeeReference)

/-- The UPDATE statements of `auth_committee_access`, which have to update one row. -/
def updateAccess (selected : AuthCommitteeAccess → Bool)
    (f : AuthCommitteeAccess → AuthCommitteeAccess) (message : String) : DbTx Unit := do
  let db ← get
  let committeeAccesses ← lift (fun e => e)
    (Table.update selected f (fun _ new => guardCommitteeAccess db.authAccounts new)
      db.committeeAccesses)
  require (db.committeeAccesses.countP selected = 1) (.conflict message)
  modify fun db => { db with committeeAccesses }

/-- `approveCommittee`. -/
def approveCommittee (input : CommitteeApprovalInput) : DbTx Unit := do
  let db ← get
  updateAccess (isAccess db input.accountReference input.committeeReference .invited)
    (fun c => { c with
      state := .approved
      approvedByReference := some input.approvedByReference
      approvedAt := some input.approvedAt })
    "committee invitation is unavailable"

/-- The active member of the committee of an access. -/
def accessMember (db : Db) (memberReference : String) (c : AuthCommitteeAccess) :
    Option CommitteeMember :=
  db.members.find? fun m => m.committeeId = c.committeeId &&
    m.externalReference = memberReference && m.state = .active

/-- `activateCommittee`. -/
def activateCommittee (input : CommitteeActivationInput) : DbTx Unit := do
  let db ← get
  updateAccess
    (fun c => isAccess db input.accountReference input.committeeReference .approved c &&
      (accessMember db input.memberReference c).isSome)
    (fun c => { c with
      state := .active
      memberId := (accessMember db input.memberReference c).map CommitteeMember.id
      activatedAt := some input.activatedAt })
    "committee access cannot be activated"
  modify fun db => { db with
    authAccounts := Table.set
      (fun a => a.externalReference = input.accountReference && a.trustDomain = .committee)
      (fun a => { a with state := .active, version := a.version + 1 }) db.authAccounts }

end AuthRepository

end ChecksAndBalances
