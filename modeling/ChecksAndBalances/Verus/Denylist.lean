import ChecksAndBalances.Db.VerusJobRepository
import ChecksAndBalances.Verus.CanonicalForm

/-!
# The denylists

`rejectForbiddenFields` of `packages/verus/src/canonical-content.ts` and
`rejectSensitiveManifestFields` of `packages/db/src/verus-job-repository.ts` are one walk over a value
with a list of names and errors of their own.  The walk accepts a value exactly when it is nested at
most 32 deep and names no denied field.
-/

namespace ChecksAndBalances

namespace Json

/-! ## The walk -/

section Walk

variable {ε : Type} (denied : String → Bool) (nestingError deniedError : ε)

mutual

/-- The walk at a depth. -/
def rejectDenied (depth : ℕ) : Json → Except ε Unit
  | arr items => if 32 < depth then .error nestingError else rejectDeniedItems depth items
  | obj members => if 32 < depth then .error nestingError else rejectDeniedMembers depth members
  | _ => if 32 < depth then .error nestingError else .ok ()

def rejectDeniedItems (depth : ℕ) : List Json → Except ε Unit
  | [] => .ok ()
  | item :: items => do
    rejectDenied (depth + 1) item
    rejectDeniedItems depth items

def rejectDeniedMembers (depth : ℕ) : List (String × Json) → Except ε Unit
  | [] => .ok ()
  | (key, item) :: members => do
    if denied (normalizedField key) then throw deniedError
    rejectDenied (depth + 1) item
    rejectDeniedMembers depth members

end

end Walk

/-! ## What the walk accepts -/

mutual

/-- How deep arrays and objects are nested in each other. -/
def nesting : Json → ℕ
  | arr items => nestingItems items
  | obj members => nestingMembers members
  | _ => 0

def nestingItems : List Json → ℕ
  | [] => 0
  | item :: items => max (item.nesting + 1) (nestingItems items)

def nestingMembers : List (String × Json) → ℕ
  | [] => 0
  | (_, item) :: members => max (item.nesting + 1) (nestingMembers members)

end

theorem nestingItems_le_iff {items : List Json} {n : ℕ} :
    nestingItems items ≤ n ↔ ∀ item ∈ items, item.nesting + 1 ≤ n := by
  induction items with
  | nil => simp [nestingItems]
  | cons item items ih => simp [nestingItems, ih]

theorem nestingMembers_le_iff {members : JsonObject} {n : ℕ} :
    nestingMembers members ≤ n ↔ ∀ m ∈ members, m.2.nesting + 1 ≤ n := by
  induction members with
  | nil => simp [nestingMembers]
  | cons m members ih => simp [nestingMembers, ih]

/-- No key of an object is denied. -/
def NoneDenied (denied : String → Bool) : Json → Prop
  | obj members => ∀ m ∈ members, denied (normalizedField m.1) = false
  | _ => True

section Walk

variable {ε : Type} {denied : String → Bool} {nestingError deniedError : ε}

theorem rejectDeniedItems_ok_iff {depth : ℕ} {items : List Json} :
    rejectDeniedItems denied nestingError deniedError depth items = .ok () ↔
      ∀ item ∈ items, item.rejectDenied denied nestingError deniedError (depth + 1) = .ok () := by
  induction items with
  | nil => simp [rejectDeniedItems]
  | cons item items ih =>
    rw [rejectDeniedItems, List.forall_mem_cons, ← ih]
    cases item.rejectDenied denied nestingError deniedError (depth + 1) with
    | error e => simp [bind, Except.bind]
    | ok u => simp [bind, Except.bind]

theorem rejectDeniedMembers_ok_iff {depth : ℕ} {members : JsonObject} :
    rejectDeniedMembers denied nestingError deniedError depth members = .ok () ↔
      ∀ m ∈ members, denied (normalizedField m.1) = false ∧
        m.2.rejectDenied denied nestingError deniedError (depth + 1) = .ok () := by
  induction members with
  | nil => simp [rejectDeniedMembers]
  | cons m members ih =>
    rw [rejectDeniedMembers, List.forall_mem_cons, ← ih]
    cases denied (normalizedField m.1) with
    | true => simp [bind, Except.bind, throw, throwThe, MonadExceptOf.throw]
    | false =>
      cases m.2.rejectDenied denied nestingError deniedError (depth + 1) with
      | error e => simp [bind, Except.bind]
      | ok u => simp [bind, Except.bind]

/-- What the walk accepts at a depth. -/
theorem rejectDenied_ok_iff {value : Json} {depth : ℕ} :
    value.rejectDenied denied nestingError deniedError depth = .ok () ↔
      depth + value.nesting ≤ 32 ∧ value.Everywhere (NoneDenied denied) := by
  have hscalar : ∀ depth : ℕ, (if 32 < depth then .error nestingError else .ok () : Except ε Unit) =
      .ok () ↔ depth + 0 ≤ 32 ∧ True := by
    intro depth
    by_cases h : 32 < depth
    · simp [h]
    · simp only [if_neg h, and_true, true_iff]
      omega
  induction value using parts_induction generalizing depth with
  | null => exact hscalar depth
  | bool b => exact hscalar depth
  | num n => exact hscalar depth
  | str s => exact hscalar depth
  | arr items ih =>
    rw [rejectDenied, nesting, everywhere_arr]
    by_cases h : 32 < depth
    · rw [if_pos h]
      simp only [reduceCtorEq, false_iff]
      omega
    · have hitems : nestingItems items ≤ 32 - depth ↔ _ := nestingItems_le_iff
      rw [if_neg h, rejectDeniedItems_ok_iff, show depth + nestingItems items ≤ 32 ↔
        nestingItems items ≤ 32 - depth by omega, hitems]
      constructor
      · intro hok
        refine ⟨fun item hitem => ?_, trivial, fun item hitem => ((ih item hitem).1 (hok item hitem)).2⟩
        have hdepth := ((ih item hitem).1 (hok item hitem)).1
        omega
      · rintro ⟨hdepth, -, hclean⟩ item hitem
        refine (ih item hitem).2 ⟨?_, hclean item hitem⟩
        have hle := hdepth item hitem
        omega
  | obj members ih =>
    rw [rejectDenied, nesting, everywhere_obj]
    by_cases h : 32 < depth
    · rw [if_pos h]
      simp only [reduceCtorEq, false_iff]
      omega
    · have hmembers : nestingMembers members ≤ 32 - depth ↔ _ := nestingMembers_le_iff
      rw [if_neg h, rejectDeniedMembers_ok_iff, show depth + nestingMembers members ≤ 32 ↔
        nestingMembers members ≤ 32 - depth by omega, hmembers]
      constructor
      · intro hok
        refine ⟨fun m hm => ?_, fun m hm => (hok m hm).1,
          fun m hm => ((ih m hm).1 (hok m hm).2).2⟩
        have hdepth := ((ih m hm).1 (hok m hm).2).1
        omega
      · rintro ⟨hdepth, hkeys, hclean⟩ m hm
        refine ⟨hkeys m hm, (ih m hm).2 ⟨?_, hclean m hm⟩⟩
        have hle := hdepth m hm
        omega

end Walk

/-! ## The two lists -/

/-- `ALWAYS_FORBIDDEN_FIELDS`. -/
def alwaysForbiddenFields : List String := [
  "appealdetail", "appealfacts", "committeeevidence", "committeenotes", "dateofbirth",
  "documentimage", "documentnumber", "evidencehash", "exactaddress", "faceimage",
  "identitydocument", "privatekey", "privatesessionlocation", "rpcpassword", "seedphrase",
  "sessiontoken", "utilitybill", "walletbackup", "walletseed", "wif", "zseed"]

/-- `rejectForbiddenFields` at a depth. -/
def rejectForbiddenFieldsAt (depth : ℕ) (value : Json) : Except VerusIntegrationError Unit :=
  value.rejectDenied
    (fun normalized => normalized ∈ alwaysForbiddenFields || normalized = "proto" ||
      normalized = "constructor" || normalized = "prototype")
    { code := .payloadForbidden, message := "Anchor payload nesting exceeds the server limit"
      retryable := false }
    { code := .payloadForbidden
      message := "Anchor payload contains a prohibited private or security-sensitive field"
      retryable := false } depth

/-- `FORBIDDEN_MANIFEST_FIELDS`. -/
def forbiddenManifestFields : List String := [
  "appealdetail", "appealfacts", "committeeevidence", "committeenotes", "dateofbirth",
  "documentimage", "documentnumber", "evidencehash", "exactaddress", "faceimage",
  "identitydocument", "privatekey", "privatesessionlocation", "rpcpassword", "seedphrase",
  "sessiontoken", "utilitybill", "walletbackup", "walletseed", "wif", "zseed", "proto",
  "constructor", "prototype"]

/-- `rejectSensitiveManifestFields` at a depth. -/
def rejectSensitiveManifestFieldsAt (depth : ℕ) (value : Json) : Except RepositoryError Unit :=
  value.rejectDenied (fun normalized => normalized ∈ forbiddenManifestFields)
    (.conflict "manifest nesting exceeds the server limit")
    (.conflict "manifest contains a prohibited private field") depth

/-! ## Their agreement -/

/-- A name that one of the two lists denies. -/
def deniedNames : List String := alwaysForbiddenFields ++ ["proto", "constructor", "prototype"] ++
  forbiddenManifestFields

/-- No key of an object has a denied name as its normalized form. -/
def NamesAllowed : Json → Prop :=
  NoneDenied fun normalized => normalized ∈ deniedNames

theorem forbiddenManifestFields_eq :
    forbiddenManifestFields = alwaysForbiddenFields ++ ["proto", "constructor", "prototype"] := rfl

theorem denied_eq (normalized : String) :
    (decide (normalized ∈ alwaysForbiddenFields) || decide (normalized = "proto") ||
      decide (normalized = "constructor") || decide (normalized = "prototype")) =
        decide (normalized ∈ forbiddenManifestFields) := by
  simp only [forbiddenManifestFields_eq, List.mem_append, List.mem_cons, List.not_mem_nil, or_false,
    Bool.decide_or, Bool.or_assoc]

theorem decide_mem_deniedNames (normalized : String) :
    decide (normalized ∈ deniedNames) = decide (normalized ∈ forbiddenManifestFields) := by
  rw [deniedNames, ← forbiddenManifestFields_eq]
  simp only [List.mem_append, or_self]

theorem rejectSensitiveManifestFieldsAt_ok_iff {value : Json} {depth : ℕ} :
    rejectSensitiveManifestFieldsAt depth value = .ok () ↔
      depth + value.nesting ≤ 32 ∧ value.Everywhere NamesAllowed := by
  unfold rejectSensitiveManifestFieldsAt NamesAllowed
  simp only [decide_mem_deniedNames]
  exact rejectDenied_ok_iff

theorem rejectForbiddenFieldsAt_ok_iff {value : Json} {depth : ℕ} :
    rejectForbiddenFieldsAt depth value = .ok () ↔
      depth + value.nesting ≤ 32 ∧ value.Everywhere NamesAllowed := by
  unfold rejectForbiddenFieldsAt NamesAllowed
  simp only [decide_mem_deniedNames, denied_eq]
  exact rejectDenied_ok_iff

/-- Both walks accept the same values: those that are nested at most 32 deep and name no denied
field. -/
theorem denylists_agree (value : Json) :
    (rejectForbiddenFieldsAt 0 value = .ok () ↔ rejectSensitiveManifestFieldsAt 0 value = .ok ()) ∧
      (rejectForbiddenFieldsAt 0 value = .ok () ↔
        value.nesting ≤ 32 ∧ value.Everywhere NamesAllowed) := by
  constructor
  · rw [rejectForbiddenFieldsAt_ok_iff, rejectSensitiveManifestFieldsAt_ok_iff]
  · rw [rejectForbiddenFieldsAt_ok_iff, Nat.zero_add]

/-! ## The checks of the callers -/

section Callers

variable {ε ε' : Type} {denied : String → Bool} {nestingError deniedError : ε}

mutual

/-- The walk with other errors. -/
theorem mapError_rejectDenied (f : ε → ε') : ∀ (value : Json) (depth : ℕ),
    (value.rejectDenied denied nestingError deniedError depth).mapError f =
      value.rejectDenied denied (f nestingError) (f deniedError) depth
  | .null, depth => by unfold rejectDenied; split_ifs <;> rfl
  | .bool _, depth => by unfold rejectDenied; split_ifs <;> rfl
  | .num _, depth => by unfold rejectDenied; split_ifs <;> rfl
  | .str _, depth => by unfold rejectDenied; split_ifs <;> rfl
  | .arr items, depth => by
    unfold rejectDenied
    split_ifs
    · rfl
    · exact mapError_rejectDeniedItems f items depth
  | .obj members, depth => by
    unfold rejectDenied
    split_ifs
    · rfl
    · exact mapError_rejectDeniedMembers f members depth

theorem mapError_rejectDeniedItems (f : ε → ε') : ∀ (items : List Json) (depth : ℕ),
    (rejectDeniedItems denied nestingError deniedError depth items).mapError f =
      rejectDeniedItems denied (f nestingError) (f deniedError) depth items
  | [], _ => rfl
  | item :: items, depth => by
    rw [rejectDeniedItems, rejectDeniedItems, ← mapError_rejectDenied f item (depth + 1),
      ← mapError_rejectDeniedItems f items depth]
    cases item.rejectDenied denied nestingError deniedError (depth + 1) <;> rfl

theorem mapError_rejectDeniedMembers (f : ε → ε') : ∀ (members : JsonObject) (depth : ℕ),
    (rejectDeniedMembers denied nestingError deniedError depth members).mapError f =
      rejectDeniedMembers denied (f nestingError) (f deniedError) depth members
  | [], _ => rfl
  | (key, item) :: members, depth => by
    rw [rejectDeniedMembers, rejectDeniedMembers, ← mapError_rejectDenied f item (depth + 1),
      ← mapError_rejectDeniedMembers f members depth]
    cases denied (normalizedField key) with
    | true => rfl
    | false => cases item.rejectDenied denied nestingError deniedError (depth + 1) <;> rfl

end

mutual

/-- `rejectFields` is the walk with the second list. -/
theorem rejectFields_eq : ∀ (value : Json) (depth : ℕ), value.rejectFields depth =
    value.rejectDenied (fun normalized => normalized ∈ forbiddenManifestFields) .nesting .prohibited
      depth
  | .null, _ => rfl
  | .bool _, _ => rfl
  | .num _, _ => rfl
  | .str _, _ => rfl
  | .arr items, depth => by rw [rejectFields, rejectDenied, rejectItems_eq items depth]
  | .obj members, depth => by rw [rejectFields, rejectDenied, rejectMembers_eq members depth]

theorem rejectItems_eq : ∀ (items : List Json) (depth : ℕ), rejectItems depth items =
    rejectDeniedItems (fun normalized => normalized ∈ forbiddenManifestFields) .nesting .prohibited
      depth items
  | [], _ => rfl
  | item :: items, depth => by
    rw [rejectItems, rejectDeniedItems, rejectFields_eq item (depth + 1), rejectItems_eq items depth]

theorem rejectMembers_eq : ∀ (members : JsonObject) (depth : ℕ), rejectMembers depth members =
    rejectDeniedMembers (fun normalized => normalized ∈ forbiddenManifestFields) .nesting .prohibited
      depth members
  | [], _ => rfl
  | (key, item) :: members, depth => by
    rw [rejectMembers, rejectDeniedMembers, rejectFields_eq item (depth + 1),
      rejectMembers_eq members depth]
    simp only [decide_eq_true_eq]
    rfl

end

/-- The errors of a payload. -/
def payloadError : FieldProblem → VerusIntegrationError
  | .nesting =>
    { code := .payloadForbidden, retryable := false
      message := "Anchor payload nesting exceeds the server limit" }
  | .prohibited =>
    { code := .payloadForbidden, retryable := false
      message := "Anchor payload contains a prohibited private or security-sensitive field" }

/-- The errors of a manifest. -/
def manifestError : FieldProblem → RepositoryError
  | .nesting => .conflict "manifest nesting exceeds the server limit"
  | .prohibited => .conflict "manifest contains a prohibited private field"

/-- The check of a payload is the walk from its top. -/
theorem rejectForbiddenFields_eq (members : JsonObject) :
    rejectForbiddenFields members = rejectForbiddenFieldsAt 0 (obj members) := by
  have hmap := @mapError_rejectDenied FieldProblem _ (fun n => n ∈ forbiddenManifestFields)
    .nesting .prohibited payloadError (obj members) 0
  unfold rejectForbiddenFields rejectForbiddenFieldsAt
  simp only [denied_eq, rejectFields_eq]
  refine Eq.trans ?_ hmap
  split <;> next h => rw [h]; rfl

/-- The check of a manifest is the walk from its top. -/
theorem rejectSensitiveManifestFields_eq (members : JsonObject) :
    VerusJobRepository.rejectSensitiveManifestFields members =
      rejectSensitiveManifestFieldsAt 0 (obj members) := by
  have hmap := @mapError_rejectDenied FieldProblem _ (fun n => n ∈ forbiddenManifestFields)
    .nesting .prohibited manifestError (obj members) 0
  unfold VerusJobRepository.rejectSensitiveManifestFields rejectSensitiveManifestFieldsAt
  rw [rejectFields_eq]
  refine Eq.trans ?_ hmap
  split <;> next h => rw [h]; rfl

end Callers

end Json

end ChecksAndBalances
