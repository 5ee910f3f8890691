import Mathlib.Data.Int.Basic
import ChecksAndBalances.Domain.Verification

/-!
# Attestation validity

`createAttestationValidity` of `packages/domain/src/attestation.ts`: an attestation is valid for at
most 45 days, and a renewed version names its predecessor.  Instants are integers, in
milliseconds since the epoch; the finiteness checks of the source are vacuous on them.
-/

namespace ChecksAndBalances

def maxAttestationValidityDays : ℤ := 45

def maxAttestationValidityMs : ℤ := maxAttestationValidityDays * 24 * 60 * 60 * 1000

/-- Truthiness of an optional string: absent and empty both count as missing. -/
def truthy : Option String → Bool
  | some s => s != ""
  | none => false

/-- `AttestationValidity`. -/
structure AttestationValidity where
  version : ℕ
  validFrom : ℤ
  expiresAt : ℤ
  supersedesReference : Option String
  deriving DecidableEq, Repr

/-- `createAttestationValidity`, with the message of `InvalidAttestationValidityError`. -/
def createAttestationValidity (input : AttestationValidity) : Except String AttestationValidity :=
  if input.version < 1 then
    .error "attestation version must be a positive integer"
  else if input.expiresAt ≤ input.validFrom then
    .error "attestation expiry must follow its validity start"
  else if input.expiresAt - input.validFrom > maxAttestationValidityMs then
    .error ("attestation validity cannot exceed " ++ toString maxAttestationValidityDays ++ " days")
  else if input.version > 1 && !truthy input.supersedesReference then
    .error "a renewed attestation version must reference the attestation it supersedes"
  else .ok
    { version := input.version
      validFrom := input.validFrom
      expiresAt := input.expiresAt
      supersedesReference :=
        if truthy input.supersedesReference then input.supersedesReference else none }

/-- The checks of `createAttestationValidity`. -/
theorem createAttestationValidity_isOk_iff {input : AttestationValidity} :
    (∃ v, createAttestationValidity input = .ok v) ↔
      1 ≤ input.version ∧ input.validFrom < input.expiresAt ∧
        input.expiresAt - input.validFrom ≤ maxAttestationValidityMs ∧
        (1 < input.version → truthy input.supersedesReference = true) := by
  unfold createAttestationValidity
  by_cases h₁ : input.version < 1
  · rw [if_pos h₁]
    simp only [reduceCtorEq, exists_false, false_iff]
    omega
  by_cases h₂ : input.expiresAt ≤ input.validFrom
  · rw [if_neg h₁, if_pos h₂]
    simp only [reduceCtorEq, exists_false, false_iff]
    omega
  by_cases h₃ : input.expiresAt - input.validFrom > maxAttestationValidityMs
  · rw [if_neg h₁, if_neg h₂, if_pos h₃]
    simp only [reduceCtorEq, exists_false, false_iff]
    omega
  have window : 1 ≤ input.version ∧ input.validFrom < input.expiresAt ∧
      input.expiresAt - input.validFrom ≤ maxAttestationValidityMs :=
    ⟨by omega, by omega, by omega⟩
  rw [if_neg h₁, if_neg h₂, if_neg h₃]
  cases ht : truthy input.supersedesReference with
  | true => simpa using window
  | false =>
    by_cases hv : 1 < input.version
    · simp [hv]
    · simpa [hv] using window

/-- `CanonicalAttestationStatus`. -/
inductive CanonicalAttestationStatus where
  | active
  | expired
  | revoked
  | superseded
  | unavailable
  deriving DecidableEq, Repr

/-- `attestation_state`. -/
inductive AttestationState where
  | issued
  | active
  | expired
  | revoked
  | superseded
  deriving DecidableEq, Repr

/-- An attestation state as the state of its verification request. -/
def AttestationState.toVerification : AttestationState → VerificationState
  | .issued => .issued
  | .active => .active
  | .expired => .expired
  | .revoked => .revoked
  | .superseded => .superseded

theorem AttestationState.toVerification_injective :
    Function.Injective AttestationState.toVerification := by
  intro a b h
  cases a <;> cases b <;> simp_all [AttestationState.toVerification]

end ChecksAndBalances
