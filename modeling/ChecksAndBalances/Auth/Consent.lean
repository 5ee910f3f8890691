import ChecksAndBalances.Auth.Services
import Mathlib.Data.Set.Finite.Lemmas

/-!
# Consent

The receipts of `packages/auth/src/consent.ts`. A receipt is never changed: a withdrawal is a receipt
of its own beside the one of the acceptance.
-/

namespace ChecksAndBalances

/-- `CONSENT_PURPOSES`. -/
inductive ConsentPurpose where
  | privacyNotice
  | evidenceNonRetention
  | sessionAttendance
  | optionalVerusLink
  | optionalPublicIdentityProof
  | relyingPartyDisclosure
  | materialPolicyChange
  | committeeCovenantsTraining
  deriving DecidableEq, Repr

inductive ConsentAction where
  | accepted
  | declined
  | withdrawn
  deriving DecidableEq, Repr

structure VersionedConsentReceipt where
  accountReference : String
  committeeReference : Option String
  purpose : ConsentPurpose
  policyVersionReference : String
  presentationReference : String
  presentationDigest : String
  action : ConsentAction
  presentedAt : ℤ
  actedAt : ℤ
  deriving DecidableEq, Repr

structure RequiredPolicy where
  purpose : ConsentPurpose
  policyVersionReference : String
  effectiveAt : ℤ
  expiresAt : Option ℤ
  optional : Bool
  deriving DecidableEq, Repr

/-- `requireCurrentPolicyReceipts`. -/
def requireCurrentPolicyReceipts (requirements : List RequiredPolicy)
    (receipts : List VersionedConsentReceipt) (now : ℤ) : Except AuthErrorCode Unit :=
  requirements.forM fun requirement =>
    if requirement.optional then pure () else
    let current := decide (requirement.effectiveAt ≤ now) &&
      requirement.expiresAt.all fun expiresAt => now < expiresAt
    let receipt := receipts.find? fun candidate =>
      candidate.purpose = requirement.purpose &&
        candidate.policyVersionReference = requirement.policyVersionReference &&
        candidate.action = .accepted
    if !current || receipt.isNone then throw .policyRequired else pure ()

/-! ## What the receipts say -/

/-- The policy is in force. -/
structure RequiredPolicy.InForce (requirement : RequiredPolicy) (now : ℤ) : Prop where
  effective : requirement.effectiveAt ≤ now
  unexpired : ∀ expiresAt, requirement.expiresAt = some expiresAt → now < expiresAt

/-- The receipt is of a choice on the policy. -/
structure VersionedConsentReceipt.Answers (receipt : VersionedConsentReceipt)
    (requirement : RequiredPolicy) : Prop where
  purpose : receipt.purpose = requirement.purpose
  version : receipt.policyVersionReference = requirement.policyVersionReference

/-- The choices on a policy. -/
def Choice (receipts : List VersionedConsentReceipt) (requirement : RequiredPolicy)
    (receipt : VersionedConsentReceipt) : Prop :=
  receipt ∈ receipts ∧ receipt.Answers requirement

/-- No choice on the policy is later. -/
structure LatestChoice (receipts : List VersionedConsentReceipt) (requirement : RequiredPolicy)
    (receipt : VersionedConsentReceipt) : Prop where
  choice : Choice receipts requirement receipt
  latest : ∀ other, Choice receipts requirement other → other.actedAt ≤ receipt.actedAt

/-- Every required policy is in force, and accepted by the latest choice on it. -/
def FollowsLatestChoice (requirements : List RequiredPolicy)
    (receipts : List VersionedConsentReceipt) (now : ℤ) : Prop :=
  ∀ requirement ∈ requirements, requirement.optional = false →
    requirement.InForce now ∧ (∃ receipt, LatestChoice receipts requirement receipt) ∧
      ∀ receipt, LatestChoice receipts requirement receipt → receipt.action = .accepted

variable {requirements : List RequiredPolicy} {receipts : List VersionedConsentReceipt} {now : ℤ}
  {requirement : RequiredPolicy}

/-- Every requirement passes. -/
theorem forM_eq_ok {ε α : Type} {f : α → Except ε Unit} {l : List α} :
    l.forM f = .ok () ↔ ∀ a ∈ l, f a = .ok () := by
  induction l with
  | nil => simp [List.forM, pure, Except.pure]
  | cons a l ih =>
    rw [List.forall_mem_cons, ← ih, List.forM]
    cases f a with
    | error e => simp [bind, Except.bind]
    | ok _ => simp [bind, Except.bind]

theorem inForce_iff :
    (decide (requirement.effectiveAt ≤ now) &&
      requirement.expiresAt.all fun expiresAt => now < expiresAt) = true ↔
      requirement.InForce now := by
  rw [Bool.and_eq_true, decide_eq_true_eq]
  constructor
  · rintro ⟨heffective, hexpires⟩
    refine ⟨heffective, fun expiresAt h => ?_⟩
    rw [h] at hexpires
    simpa using hexpires
  · rintro ⟨heffective, hunexpired⟩
    refine ⟨heffective, ?_⟩
    cases h : requirement.expiresAt with
    | none => rfl
    | some expiresAt => simpa using hunexpired expiresAt h

theorem check_ok_iff {current : Bool} {receipt : Option VersionedConsentReceipt} :
    (if !current || receipt.isNone then throw .policyRequired else pure () :
      Except AuthErrorCode Unit) = .ok () ↔ current = true ∧ receipt.isSome = true := by
  cases current <;> cases receipt <;> simp [throw, throwThe, MonadExceptOf.throw, pure, Except.pure]

/-- Any acceptance of a policy in force will do. -/
theorem requireCurrentPolicyReceipts_ok_iff :
    requireCurrentPolicyReceipts requirements receipts now = .ok () ↔
      ∀ requirement ∈ requirements, requirement.optional = false → requirement.InForce now ∧
        ∃ receipt, Choice receipts requirement receipt ∧ receipt.action = .accepted := by
  unfold requireCurrentPolicyReceipts
  rw [forM_eq_ok]
  refine forall₂_congr fun requirement _ => ?_
  cases hoptional : requirement.optional with
  | true => simp [pure, Except.pure]
  | false =>
    have hfound : (∃ receipt, Choice receipts requirement receipt ∧ receipt.action = .accepted) ↔
        (receipts.find? fun candidate => candidate.purpose = requirement.purpose &&
          candidate.policyVersionReference = requirement.policyVersionReference &&
          candidate.action = .accepted).isSome = true := by
      rw [List.find?_isSome]
      constructor
      · rintro ⟨receipt, ⟨hreceipt, hpurpose, hversion⟩, haction⟩
        exact ⟨receipt, hreceipt, by simp [hpurpose, hversion, haction]⟩
      · rintro ⟨receipt, hreceipt, h⟩
        simp only [Bool.and_eq_true, decide_eq_true_eq] at h
        exact ⟨receipt, ⟨hreceipt, h.1.1, h.1.2⟩, h.2⟩
    rw [hfound, ← inForce_iff, if_neg Bool.false_ne_true]
    simp only [forall_const]
    exact check_ok_iff

/-- A policy on which there is a choice has a latest one. -/
theorem exists_latestChoice {receipt : VersionedConsentReceipt}
    (h : Choice receipts requirement receipt) :
    ∃ latest, LatestChoice receipts requirement latest ∧ receipt.actedAt ≤ latest.actedAt := by
  obtain ⟨latest, hlatest, hmax⟩ := Set.exists_max_image {r | Choice receipts requirement r}
    VersionedConsentReceipt.actedAt ((List.finite_toSet receipts).subset fun _ h => h.1) ⟨_, h⟩
  exact ⟨latest, ⟨hlatest, hmax⟩, hmax _ h⟩

/-- The latest choices on an accepted policy are acceptances when a later acceptance follows every
other choice. -/
theorem latest_accepted_iff :
    (∀ receipt, LatestChoice receipts requirement receipt → receipt.action = .accepted) ↔
      ∀ receipt, Choice receipts requirement receipt → receipt.action ≠ .accepted →
        ∃ later, Choice receipts requirement later ∧ later.action = .accepted ∧
          receipt.actedAt < later.actedAt := by
  constructor
  · intro haccepted receipt hreceipt haction
    obtain ⟨later, hlater, hle⟩ := exists_latestChoice hreceipt
    refine ⟨later, hlater.choice, haccepted later hlater, lt_of_le_of_ne hle fun heq => ?_⟩
    -- a choice as late as the latest one is a latest one too
    exact haction (haccepted receipt ⟨hreceipt, fun other hother => heq ▸ hlater.latest other hother⟩)
  · intro hfollowed receipt hlatest
    by_contra haction
    obtain ⟨later, hlater, -, hlt⟩ := hfollowed receipt hlatest.choice haction
    exact absurd (hlatest.latest later hlater) (not_le.2 hlt)

/-- The check follows the latest choices except where a receipt that is not an acceptance stands after
the acceptances of a required policy in force. -/
theorem consent_follows_latest_choice_iff (requirements : List RequiredPolicy)
    (receipts : List VersionedConsentReceipt) (now : ℤ) :
    (requireCurrentPolicyReceipts requirements receipts now = .ok () →
      FollowsLatestChoice requirements receipts now) ↔
    (∃ requirement ∈ requirements, requirement.optional = false ∧
      (¬ requirement.InForce now ∨
        ∀ receipt, Choice receipts requirement receipt → receipt.action ≠ .accepted)) ∨
    ∀ requirement ∈ requirements, requirement.optional = false →
      ∀ receipt, Choice receipts requirement receipt → receipt.action ≠ .accepted →
        ∃ later, Choice receipts requirement later ∧ later.action = .accepted ∧
          receipt.actedAt < later.actedAt := by
  constructor
  · intro h
    refine or_iff_not_imp_left.2 fun hnone requirement hrequirement hoptional => ?_
    have hok : requireCurrentPolicyReceipts requirements receipts now = .ok () := by
      rw [requireCurrentPolicyReceipts_ok_iff]
      intro requirement hrequirement hoptional
      by_contra hnot
      refine hnone ⟨requirement, hrequirement, hoptional, ?_⟩
      rw [not_and_or, not_exists] at hnot
      exact hnot.imp_right fun hall receipt hreceipt haction => hall receipt ⟨hreceipt, haction⟩
    obtain ⟨-, -, haccepted⟩ := h hok requirement hrequirement hoptional
    exact latest_accepted_iff.1 haccepted
  · rintro hcondition hok requirement hrequirement hoptional
    rw [requireCurrentPolicyReceipts_ok_iff] at hok
    obtain ⟨hinForce, receipt, hreceipt, -⟩ := hok requirement hrequirement hoptional
    obtain ⟨latest, hlatest, -⟩ := exists_latestChoice hreceipt
    refine ⟨hinForce, ⟨latest, hlatest⟩, latest_accepted_iff.2 ?_⟩
    obtain ⟨failing, hfailing, hrequired, hfails⟩ | hfollowed := hcondition
    · obtain ⟨hinForce, accepted, haccepted, haction⟩ := hok failing hfailing hrequired
      exact (hfails.elim (· hinForce) (· accepted haccepted haction)).elim
    · exact hfollowed requirement hrequirement hoptional

/-- A receipt of the privacy notice. -/
def sampleReceipt (action : ConsentAction) (actedAt : ℤ) : VersionedConsentReceipt where
  accountReference := "acct:synthetic"
  committeeReference := none
  purpose := .privacyNotice
  policyVersionReference := "policy:privacy:draft-test-v1"
  presentationReference := "presentation:synthetic-privacy-v1"
  presentationDigest := ""
  action := action
  presentedAt := 0
  actedAt := actedAt

/-- The requirement of the privacy notice. -/
def sampleRequirement : RequiredPolicy where
  purpose := .privacyNotice
  policyVersionReference := "policy:privacy:draft-test-v1"
  effectiveAt := 0
  expiresAt := none
  optional := false

/-- A withdrawn acceptance still passes. -/
theorem withdrawn_consent_passes :
    requireCurrentPolicyReceipts [sampleRequirement]
      [sampleReceipt .accepted 1, sampleReceipt .withdrawn 2] 3 = .ok () ∧
    LatestChoice [sampleReceipt .accepted 1, sampleReceipt .withdrawn 2] sampleRequirement
      (sampleReceipt .withdrawn 2) ∧
    ¬ FollowsLatestChoice [sampleRequirement]
      [sampleReceipt .accepted 1, sampleReceipt .withdrawn 2] 3 := by
  have hlatest : LatestChoice [sampleReceipt .accepted 1, sampleReceipt .withdrawn 2]
      sampleRequirement (sampleReceipt .withdrawn 2) := by
    refine ⟨⟨by simp, rfl, rfl⟩, fun other hother => ?_⟩
    obtain rfl | rfl : other = sampleReceipt .accepted 1 ∨ other = sampleReceipt .withdrawn 2 := by
      simpa using hother.1
    · decide
    · decide
  refine ⟨by decide, hlatest, fun h => ?_⟩
  have haction := (h sampleRequirement (by simp) rfl).2.2 _ hlatest
  cases haction

end ChecksAndBalances
