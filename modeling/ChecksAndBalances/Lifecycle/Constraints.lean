import ChecksAndBalances.Lifecycle.Transition

/-!
# Lifecycle commands and the constraints of their tables

Which of the rows that the generic transition writes pass the CHECK constraints and triggers of the
migrations: all of them, except that a rejected wallet challenge is written without the reason that
`wallet_challenge_terminal_reason` asks for.
-/

namespace ChecksAndBalances

open Lib Lib.Tx LifecycleRepository

namespace LifecycleEntity

/-- The timestamps that earlier commands have written into the row. -/
def timestamps : (e : LifecycleEntity) → e.Row → List ℤ
  | committee, _ | renewalCycle, _ | relyingPartyClient, _ => []
  | walletChallenge, w => w.consumedAt.toList
  | consentReceipt, r => r.acknowledgedAt.toList ++ r.withdrawnAt.toList
  | appeal, a => a.resolvedAt.toList
  | privacyRightsRequest, r => r.completedAt.toList
  | notification, n => n.deliveredAt.toList

/-- The participant of the row is the one of its account, as the insert trigger has checked. -/
def OwnSubject (auth : AuthTables) : (e : LifecycleEntity) → e.Row → Prop
  | consentReceipt, r =>
    LifecycleRepository.enforceAuthSubjectMatch auth r.authAccountId r.participantId = .ok ()
  | notification, n =>
    LifecycleRepository.enforceAuthSubjectMatch auth n.authAccountId n.participantId = .ok ()
  | _, _ => True

/-- The command gives no reason for a state that requires one. -/
def OmitsReason : (e : LifecycleEntity) → e.Command → Prop
  | walletChallenge, c => c = .rejectWalletResponse
  | _, _ => False

end LifecycleEntity

/-! ## Table by table -/

section Tables

variable {auth : AuthTables} {d : LifecycleTables} {input : LifecycleTransitionInput}

theorem committee_guard {c : Committee} {command : CommitteeLifecycleCommand} {next : CommitteeState}
    (hnext : applyCommittee command c.state = .ok next) :
    committeeTable.guard auth c (committeeTable.assign next input c) = .ok () := by
  have hallowed : committeeTransitionAllowed c.state next = true := by
    cases command
    all_goals
      obtain ⟨hstate, rfl⟩ := applyTransition_eq_ok_iff.1 hnext
      rw [List.mem_singleton.1 hstate]
      rfl
  rw [TableConfig.guard_eq_ok_iff]
  refine ⟨?_, by simp [committeeTable, versionPositive]⟩
  simp [committeeTable, guardCommitteeTransition, hallowed]

theorem renewalCycle_guard {r : RenewalCycle} {next : RenewalCycleState}
    (hchecks : ∀ c ∈ renewalCycleTable.checks, c.holds r = true) :
    renewalCycleTable.guard auth r (renewalCycleTable.assign next input r) = .ok () := by
  rw [TableConfig.guard_eq_ok_iff]
  refine ⟨rfl, ?_⟩
  simp only [renewalCycleTable, List.forall_mem_cons] at hchecks ⊢
  exact ⟨hchecks.1, by simp [versionPositive]⟩

theorem walletChallenge_guard_iff {w : WalletChallenge} {command : WalletChallengeCommand}
    {next : WalletChallengeState} (hnext : applyWalletChallenge command w.state = .ok next)
    (hchecks : ∀ c ∈ walletChallengeTable.checks, c.holds w = true) :
    walletChallengeTable.guard auth w (walletChallengeTable.assign next input w) = .ok () ↔
      command ≠ .rejectWalletResponse := by
  rw [TableConfig.guard_eq_ok_iff]
  simp only [walletChallengeTable, walletChallengeChecks, List.forall_mem_cons] at hchecks ⊢
  obtain ⟨hconsumed, hcallback, hlink, hnonce, hrequest, hresponse, hreason, htime, -⟩ := hchecks
  have before : w.state ≠ .consumed ∧ w.state ≠ .rejected ∧ w.state ≠ .cancelled ∧
      (next = .rejected ↔ command = .rejectWalletResponse) ∧ next ≠ .cancelled := by
    cases command
    all_goals
      obtain ⟨hstate, rfl⟩ := applyTransition_eq_ok_iff.1 hnext
      simp only [List.mem_cons, List.not_mem_nil, or_false] at hstate
      grind
  obtain ⟨hactive, hrejected, hcancelled, hnextRejected, hnextCancelled⟩ := before
  have hnone : w.consumedAt = none := by simpa [hactive] using hconsumed
  have hreasonless : w.rejectionReason = none := by
    simpa [hrejected, hcancelled] using hreason
  constructor
  · rintro ⟨-, -, -, -, -, -, -, hreason', -⟩ hcommand
    simp [hreasonless, hnextRejected.2 hcommand] at hreason'
  · intro hcommand
    have hnotRejected : next ≠ .rejected := fun h => hcommand (hnextRejected.1 h)
    refine ⟨trivial, ?_, hcallback, hlink, hnonce, hrequest, hresponse, ?_, htime, ?_⟩
    · by_cases h : next = .consumed <;> simp [h, hnone]
    · simp [hreasonless, hnotRejected, hnextCancelled]
    · simp [versionPositive]

theorem consentReceipt_guard_iff {r : ConsentReceipt} {command : ConsentLifecycleCommand}
    {next : ConsentState} (hnext : applyConsent command r.state = .ok next)
    (hchecks : ∀ c ∈ consentReceiptTable.checks, c.holds r = true)
    (htime : ∀ at' ∈ LifecycleEntity.consentReceipt.timestamps r, at' ≤ input.observedAt) :
    consentReceiptTable.guard auth r (consentReceiptTable.assign next input r) = .ok () ↔
      LifecycleEntity.consentReceipt.OwnSubject auth r := by
  rw [TableConfig.guard_eq_ok_iff]
  refine and_iff_left ?_
  simp only [consentReceiptTable, consentReceiptChecks, List.forall_mem_cons] at hchecks ⊢
  obtain ⟨hlifecycle, -⟩ := hchecks
  cases command with
  | acknowledgeConsent =>
    obtain ⟨hstate, rfl⟩ := applyTransition_eq_ok_iff.1 hnext
    rw [List.mem_singleton.1 hstate] at hlifecycle
    cases ha : r.acknowledgedAt <;> cases hw : r.withdrawnAt <;>
      simp [ha, hw, versionPositive] at hlifecycle ⊢
  | withdrawConsent =>
    obtain ⟨hstate, rfl⟩ := applyTransition_eq_ok_iff.1 hnext
    rw [List.mem_singleton.1 hstate] at hlifecycle
    cases ha : r.acknowledgedAt <;> cases hw : r.withdrawnAt <;>
      simp [ha, hw, versionPositive] at hlifecycle ⊢
    -- the withdrawal is not earlier than the acknowledgement
    exact htime _ (by simp [LifecycleEntity.timestamps, ha])

theorem appeal_guard {a : Appeal} {command : AppealLifecycleCommand} {next : AppealState}
    (hnext : applyAppeal command a.state = .ok next)
    (hchecks : ∀ c ∈ appealTable.checks, c.holds a = true) :
    appealTable.guard auth a (appealTable.assign next input a) = .ok () := by
  rw [TableConfig.guard_eq_ok_iff]
  refine ⟨rfl, ?_⟩
  simp only [appealTable, List.forall_mem_cons] at hchecks ⊢
  have hopen : isResolved a.state = false := by
    cases command
    all_goals
      have hstate := (applyTransition_eq_ok_iff.1 hnext).1
      simp only [List.mem_cons, List.not_mem_nil, or_false] at hstate
      grind [isResolved]
  have hnone : a.resolvedAt = none := by simpa [hopen] using hchecks.1
  refine ⟨?_, by simp [versionPositive]⟩
  cases isResolved next <;> simp [hnone]

theorem privacyRightsRequest_guard {r : PrivacyRightsRequest} {next : PrivacyRequestState} :
    privacyRightsRequestTable.guard auth r (privacyRightsRequestTable.assign next input r) =
      .ok () := by
  rw [TableConfig.guard_eq_ok_iff]
  exact ⟨rfl, by simp [privacyRightsRequestTable, versionPositive]⟩

theorem notification_guard_iff {n : Notification} {command : NotificationLifecycleCommand}
    {next : NotificationState} (hnext : applyNotification command n.state = .ok next)
    (hchecks : ∀ c ∈ notificationTable.checks, c.holds n = true) :
    notificationTable.guard auth n (notificationTable.assign next input n) = .ok () ↔
      LifecycleEntity.notification.OwnSubject auth n := by
  rw [TableConfig.guard_eq_ok_iff]
  refine and_iff_left ?_
  simp only [notificationTable, List.forall_mem_cons] at hchecks ⊢
  have hundelivered : n.state ≠ .delivered := by
    cases command
    all_goals
      have hstate := (applyTransition_eq_ok_iff.1 hnext).1
      simp only [List.mem_cons, List.not_mem_nil, or_false] at hstate
      grind
  have hnone : n.deliveredAt = none := by simpa [hundelivered] using hchecks.1
  refine ⟨?_, by simp [versionPositive]⟩
  by_cases h : next = .delivered <;> simp [h, hnone]

theorem relyingPartyClient_guard {r : RelyingPartyClient} {next : RelyingPartyClientState} :
    relyingPartyClientTable.guard auth r (relyingPartyClientTable.assign next input r) =
      .ok () := by
  rw [TableConfig.guard_eq_ok_iff]
  exact ⟨rfl, by simp [relyingPartyClientTable, versionPositive]⟩

end Tables

/-! ## All tables -/

/-- The row that a command writes passes the trigger and the constraints of its table, unless it
omits a required reason or the row does not belong to its account. -/
theorem guard_assign_iff (e : LifecycleEntity) {auth : AuthTables} {command : e.Command}
    {input : LifecycleTransitionInput} {row : e.Row} {next : e.State}
    (hnext : e.config.apply command (e.config.state row) = .ok next)
    (hchecks : ∀ c ∈ e.config.checks, c.holds row = true)
    (htime : ∀ at' ∈ e.timestamps row, at' ≤ input.observedAt) :
    e.config.guard auth row (e.config.assign next input row) = .ok () ↔
      ¬ e.OmitsReason command ∧ e.OwnSubject auth row := by
  cases e with
  | committee => exact iff_of_true (committee_guard hnext) ⟨not_false, trivial⟩
  | renewalCycle => exact iff_of_true (renewalCycle_guard hchecks) ⟨not_false, trivial⟩
  | walletChallenge =>
    exact (walletChallenge_guard_iff hnext hchecks).trans (and_iff_left trivial).symm
  | consentReceipt =>
    exact (consentReceipt_guard_iff hnext hchecks htime).trans (and_iff_right not_false).symm
  | appeal => exact iff_of_true (appeal_guard hnext hchecks) ⟨not_false, trivial⟩
  | privacyRightsRequest => exact iff_of_true privacyRightsRequest_guard ⟨not_false, trivial⟩
  | notification =>
    exact (notification_guard_iff hnext hchecks).trans (and_iff_right not_false).symm
  | relyingPartyClient => exact iff_of_true relyingPartyClient_guard ⟨not_false, trivial⟩

/-- A lifecycle command that has passed its own checks on a stored row is let through by the
database exactly when it does not omit a required reason and the row belongs to its account; so
it commits, under unused keys, in exactly these cases. -/
theorem lifecycle_command_commits_iff (e : LifecycleEntity) (db : Db) (command : e.Command)
    (input : LifecycleTransitionInput) (row : e.Row) (next : e.State)
    (hnext : e.config.apply command (e.config.state row) = .ok next)
    (hchecks : ∀ c ∈ e.config.checks, c.holds row = true)
    (htime : ∀ at' ∈ e.timestamps row, at' ≤ input.observedAt) :
    (e.config.guard db.toAuthTables row (e.config.assign next input row) = .ok () ↔
      ¬ e.OmitsReason command ∧ e.OwnSubject db.toAuthTables row) ∧
    (e.config.Prepared db command input row next → e.config.Unused db command input.context row →
      Table.Unique e.config.id (e.config.rows db) →
      (Accepted (e.config.transition command input) db ↔
        ¬ e.OmitsReason command ∧ e.OwnSubject db.toAuthTables row)) := by
  refine ⟨guard_assign_iff e hnext hchecks htime, fun hprepared hunused hunique => ?_⟩
  rw [e.config.transition_accepted_iff hprepared hunused hunique]
  exact guard_assign_iff e hnext hchecks htime

namespace LifecycleSample

def context : CommandContext :=
  { actor := { type := "account", reference := "account_one", authenticationStrength := "passkey" }
    committeeReference := "global_synthetic_scope"
    policyVersionReference := "policy_one"
    softwareVersion := "0.0.0"
    reasonCategory := "routine"
    correlationId := "correlation_one"
    idempotencyKey := "key_one"
    requestDigest := "digest" }

/-- A linking challenge whose wallet has answered. -/
def challenge : WalletChallenge :=
  { id := 4, externalReference := "challenge_one", state := .responseReceived
    nonceHash := String.ofList (List.replicate 64 'a')
    audience := "cbc-participant"
    requestDigest := String.ofList (List.replicate 64 'b')
    expiresAt := 300, consumedAt := none, version := 2, authAccountId := some 2
    purpose := "link_verusid", requestId := some "request_one"
    pollingTokenDigest := some "polling", callbackUrl := "https://app.example/callback"
    applicationIdentityAddress := "iApplication", consentedScopes := ["verusid:link"]
    issuedAt := some 0, responseDigest := none, rejectionReason := none }

/-- A consent that has been acknowledged. -/
def consent : ConsentReceipt :=
  { id := 5, externalReference := "consent_one", participantId := some 1, authAccountId := 2
    committeeId := none, state := .acknowledged, acknowledgedAt := some 10, withdrawnAt := none
    version := 1 }

def db : Db :=
  { Db.empty with
    authAccounts := [
      { id := 2, externalReference := "account_one", trustDomain := .participant, state := .active
        participantId := some 1, version := 1, lockedAt := none, suspendedAt := none
        recoveredAt := none, closedAt := none }]
    walletChallenges := [challenge]
    consentReceipts := [consent] }

def input (reference : String) (expectedVersion : ℕ) : LifecycleTransitionInput :=
  { externalReference := reference, expectedVersion, observedAt := 20
    assignmentReference := none, context }

/-- Rejecting the answer of the wallet passes every check of the repository and is refused by the
database. -/
theorem rejectWalletResponse_refused :
    walletChallengeTable.Prepared db .rejectWalletResponse (input "challenge_one" 2) challenge
      .rejected ∧
    (∀ c ∈ walletChallengeTable.checks, c.holds challenge = true) ∧
    (∀ at' ∈ LifecycleEntity.walletChallenge.timestamps challenge, at' ≤ 20) ∧
    walletChallengeTable.Unused db .rejectWalletResponse context challenge ∧
    Table.Unique WalletChallenge.id db.walletChallenges ∧
    ¬ Accepted (transitionWalletChallenge .rejectWalletResponse (input "challenge_one" 2)) db := by
  have prepared : walletChallengeTable.Prepared db .rejectWalletResponse (input "challenge_one" 2)
      challenge .rejected :=
    ⟨by decide, rfl, nofun, nofun, rfl, rfl, rfl⟩
  have unused : walletChallengeTable.Unused db .rejectWalletResponse context challenge :=
    walletChallengeTable.unused_of_empty rfl rfl
  have unique : Table.Unique WalletChallenge.id db.walletChallenges := by
    simp [Table.Unique, db]
  refine ⟨prepared, by decide +kernel, nofun, unused, unique, fun h => ?_⟩
  have hguard := (walletChallengeTable.transition_accepted_iff prepared unused unique).1 h
  have hreason := ((walletChallengeTable.guard_eq_ok_iff).1 hguard).2
    { name := "wallet_challenge_terminal_reason"
      holds := fun w => w.state = .rejected ∨ w.state = .cancelled ↔ w.rejectionReason ≠ none }
    (by simp [walletChallengeTable, walletChallengeChecks])
  exact absurd hreason (by decide)

/-- Withdrawing the consent is let through and commits. -/
theorem withdrawConsent_commits :
    (consentReceiptTable.guard db.toAuthTables consent
        (consentReceiptTable.assign .withdrawn (input "consent_one" 1) consent) = .ok () ↔
      ¬ LifecycleEntity.consentReceipt.OmitsReason .withdrawConsent ∧
        LifecycleEntity.consentReceipt.OwnSubject db.toAuthTables consent) ∧
    (Accepted (transitionConsent .withdrawConsent (input "consent_one" 1)) db ↔
      ¬ LifecycleEntity.consentReceipt.OmitsReason .withdrawConsent ∧
        LifecycleEntity.consentReceipt.OwnSubject db.toAuthTables consent) := by
  have h := lifecycle_command_commits_iff .consentReceipt db .withdrawConsent
    (input "consent_one" 1) consent .withdrawn rfl (by decide) (by decide)
  refine ⟨h.1, h.2 ⟨by decide, rfl, nofun, nofun, rfl, rfl, rfl⟩
    (consentReceiptTable.unused_of_empty rfl rfl) ?_⟩
  simp [Table.Unique, LifecycleEntity.config, consentReceiptTable, db]

end LifecycleSample

end ChecksAndBalances
