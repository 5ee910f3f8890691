import ChecksAndBalances.Domain.Verification
import ChecksAndBalances.Lib.Sha256
import Mathlib.Algebra.Group.Int.Defs

/-!
# Repository support

`packages/db/src/repository-types.ts`: the errors the repositories raise, the context of a command,
and the check on opaque references.  The regular expressions of the repositories all have the shape
`^[first][rest]{low,high}$`, which is `matchesCode`.
-/

namespace ChecksAndBalances

/-- Row identifiers, drawn by `randomUUID`. -/
abbrev Uuid := ℕ

/-- Lowercase hexadecimal SHA-256 of the UTF-8 text. -/
def sha256 (value : String) : String := Lib.Sha256.digest value.toUTF8.data.toList

/-! ## Errors -/

/-- What ends a repository command without a commit. -/
inductive RepositoryError where
  /-- `RepositoryConflictError`. -/
  | conflict (message : String)
  /-- `TenantBoundaryError`. -/
  | tenantBoundary
  /-- `IdempotencyConflictError`. -/
  | idempotencyConflict
  /-- `InvalidTransitionError` of the domain. -/
  | invalidTransition (error : InvalidTransitionError)
  /-- `InvalidAttestationValidityError` of the domain. -/
  | invalidAttestationValidity (message : String)
  /-- `ReviewerIneligibleError` of the domain. -/
  | reviewerIneligible (code : ReviewerIneligibilityCode)
  /-- A unique index of the schema. -/
  | uniqueViolation (index : String)
  /-- A foreign key of the schema. -/
  | foreignKeyViolation (key : String)
  /-- A CHECK constraint of the schema. -/
  | checkViolation (constraint : String)
  /-- An exception raised by a trigger. -/
  | raised (message : String)
  deriving DecidableEq, Repr

/-! ## Commands -/

/-- `CommandActor`. -/
structure CommandActor where
  type : String
  reference : String
  authenticationStrength : String
  deriving DecidableEq, Repr

/-- `CommandContext`. -/
structure CommandContext where
  actor : CommandActor
  committeeReference : String
  policyVersionReference : String
  softwareVersion : String
  reasonCategory : String
  correlationId : String
  idempotencyKey : String
  requestDigest : String
  deriving DecidableEq, Repr

/-! ## Codes -/

def isLower (c : Char) : Bool := 'a' ≤ c && c ≤ 'z'

def isUpper (c : Char) : Bool := 'A' ≤ c && c ≤ 'Z'

def isDigit (c : Char) : Bool := '0' ≤ c && c ≤ '9'

/-- `^[first][rest]{low,high}$`. -/
def matchesCode (first rest : Char → Bool) (low high : ℕ) (value : String) : Bool :=
  match value.toList with
  | [] => false
  | c :: cs => first c && low ≤ cs.length && cs.length ≤ high && cs.all rest

/-- `opaqueReferencePattern`. -/
def isOpaqueReference (value : String) : Bool :=
  matchesCode isLower (fun c => isLower c || isDigit c || c == '_' || c == ':' || c == '-') 7 199
    value

/-- `^[0-9a-f]{64}$`. -/
def isHex64 (value : String) : Bool :=
  value.toList.length == 64 && value.toList.all fun c => isDigit c || ('a' ≤ c && c ≤ 'f')

/-- The check of a stable error class, `^[a-z][a-z0-9_]{2,63}$`. -/
def isErrorClass (value : String) : Bool :=
  matchesCode isLower (fun c => isLower c || isDigit c || c == '_') 2 63 value

/-- `Number.isSafeInteger`. -/
def isSafeInteger (n : Int) : Bool := -(2 ^ 53 - 1) ≤ n && n ≤ 2 ^ 53 - 1

/-- The check of an i-address, `^i[1-9A-HJ-NP-Za-km-z]{20,63}$`. -/
def isIAddress (value : String) : Bool :=
  matchesCode (· == 'i')
    (fun c => ('1' ≤ c && c ≤ '9') || (isUpper c && c != 'I' && c != 'O') || (isLower c && c != 'l'))
    20 63 value

end ChecksAndBalances
