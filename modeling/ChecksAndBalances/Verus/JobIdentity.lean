import ChecksAndBalances.Db.VerusJobRepository

/-!
# The identity of a job

`deterministicVerusIdempotencyKey` of `packages/verus/src/canonical-content.ts` joins what identifies
a job by a separator and hashes it; the unique index `verus_job_deterministic_identity_key` compares
the columns.  The formats of the columns admit no separator, so both take the same jobs for one.
-/

namespace ChecksAndBalances

open Lib Lib.Tx

/-- The input of `deterministicVerusIdempotencyKey`. -/
structure VerusJobIdentity where
  operationType : String
  subjectReference : String
  vdxfKey : String
  manifestDigest : String
  deriving DecidableEq, Repr

namespace VerusJobIdentity

/-- The separator of the joined text. -/
def separator : Char := Char.ofNat 0x1f

/-- The parts of the joined text. -/
def parts (input : VerusJobIdentity) : List String :=
  ["VRSCTEST", input.operationType, input.subjectReference, input.vdxfKey, input.manifestDigest]

/-- The text that is hashed. -/
def material (input : VerusJobIdentity) : String := (String.singleton separator).intercalate input.parts

/-- The format checks of `validateInput`. -/
def wellFormed (input : VerusJobIdentity) : Bool :=
  VerusJobRepository.isOperationType input.operationType &&
    isOpaqueReference input.subjectReference && isIAddress input.vdxfKey &&
    isHex64 input.manifestDigest

end VerusJobIdentity

/-- `deterministicVerusIdempotencyKey`. -/
def deterministicVerusIdempotencyKey (input : VerusJobIdentity) : String :=
  "verus:v1:" ++ sha256 input.material

/-- What identifies the job of a manifest. -/
def VerusManifest.identity (manifest : VerusManifest) : VerusJobIdentity :=
  { operationType := manifest.operationType
    subjectReference := manifest.subjectReference
    vdxfKey := manifest.vdxfKey
    manifestDigest := manifest.manifestDigest }

/-! ## The joined text -/

theorem forall_of_matchesCode {first rest : Char → Bool} {low high : ℕ} {value : String}
    (h : matchesCode first rest low high value = true) :
    ∀ c ∈ value.toList, first c = true ∨ rest c = true := by
  unfold matchesCode at h
  split at h
  · cases h
  · next head tail htext =>
    simp only [Bool.and_eq_true, List.all_eq_true] at h
    obtain ⟨⟨⟨hhead, -⟩, -⟩, htail⟩ := h
    rw [htext]
    rintro c (_ | ⟨_, hc⟩)
    · exact Or.inl hhead
    · exact Or.inr (htail c hc)

/-- A code whose characters are not the separator does not contain it. -/
theorem separator_notMem_of_matchesCode {first rest : Char → Bool} {low high : ℕ} {value : String}
    (h : matchesCode first rest low high value = true)
    (hfirst : first VerusJobIdentity.separator = false)
    (hrest : rest VerusJobIdentity.separator = false) :
    VerusJobIdentity.separator ∉ value.toList := by
  intro hmem
  rcases forall_of_matchesCode h _ hmem with hc | hc
  · rw [hfirst] at hc
    cases hc
  · rw [hrest] at hc
    cases hc

namespace VerusJobIdentity

variable {a b : VerusJobIdentity}

/-- No part of the joined text contains the separator. -/
theorem separator_notMem_parts (h : a.wellFormed = true) :
    ∀ part ∈ a.parts, separator ∉ part.toList := by
  simp only [wellFormed, Bool.and_eq_true] at h
  obtain ⟨⟨⟨hoperation, hsubject⟩, hkey⟩, hdigest⟩ := h
  intro part hpart
  simp only [parts, List.mem_cons, List.not_mem_nil, or_false] at hpart
  rcases hpart with rfl | rfl | rfl | rfl | rfl
  · decide
  · exact separator_notMem_of_matchesCode hoperation (by decide) (by decide)
  · exact separator_notMem_of_matchesCode hsubject (by decide) (by decide)
  · exact separator_notMem_of_matchesCode hkey (by decide) (by decide)
  · intro hmem
    simp only [isHex64, Bool.and_eq_true, List.all_eq_true] at hdigest
    exact absurd (hdigest.2 _ hmem) (by decide)

theorem splitOn_material (h : a.wellFormed = true) :
    a.material.toList.splitOn separator = a.parts.map String.toList := by
  rw [material, String.toList_intercalate, String.toList_singleton, List.splitOn_intercalate]
  · intro text htext
    obtain ⟨part, hpart, rfl⟩ := List.mem_map.1 htext
    exact separator_notMem_parts h part hpart
  · simp [parts]

/-- Different identities have different texts. -/
theorem material_inj (ha : a.wellFormed = true) (hb : b.wellFormed = true)
    (h : a.material = b.material) : a = b := by
  have hparts : a.parts.map String.toList = b.parts.map String.toList := by
    rw [← splitOn_material ha, ← splitOn_material hb, h]
  have hsame : a.parts = b.parts :=
    List.map_injective_iff.2 (fun _ _ => String.toList_injective) hparts
  obtain ⟨operationType, subjectReference, vdxfKey, manifestDigest⟩ := a
  obtain ⟨operationType', subjectReference', vdxfKey', manifestDigest'⟩ := b
  simpa [parts] using hsame

/-- Two identities have one key exactly when they are equal, unless their texts are a collision of
SHA-256. -/
theorem key_eq_iff (ha : a.wellFormed = true) (hb : b.wellFormed = true)
    (hsha : sha256 a.material = sha256 b.material → a.material = b.material) :
    deterministicVerusIdempotencyKey a = deterministicVerusIdempotencyKey b ↔ a = b := by
  constructor
  · intro h
    have htext := congrArg String.toList h
    rw [deterministicVerusIdempotencyKey, deterministicVerusIdempotencyKey, String.toList_append,
      String.toList_append] at htext
    exact material_inj ha hb (hsha (String.toList_injective (List.append_cancel_left htext)))
  · rintro rfl
    rfl

end VerusJobIdentity

/-! ## The index -/

open VerusJobRepository in
/-- Beside one other job, a new job violates the index exactly when it has the identity of that
job. -/
theorem insertJob_violates_iff {old new : VerusJobRow} {db : Db} (hjobs : db.jobs = [old])
    (hid : new.id ≠ old.id) (houtbox : new.outboxEventId ≠ old.outboxEventId) :
    insertJob new db = .error (.uniqueViolation "verus_job_deterministic_identity_key") ↔
      old.identity = new.identity := by
  have hrequire : ∀ {p : Prop} [Decidable p] {e : RepositoryError} {f : Unit → DbTx Unit} {s : Db},
      (require p e >>= f) s = if p then f () s else .error e := by
    intro p _ e f s
    unfold require
    split_ifs <;> rfl
  have hget : ∀ {f : Db → DbTx Unit} {s : Db}, (get >>= f) s = f s s := rfl
  have hsame : old.identity = new.identity ↔ old.operationType = new.operationType ∧
      old.subjectReference = new.subjectReference ∧ old.vdxfKey = new.vdxfKey ∧
        old.manifestDigest = new.manifestDigest := by
    simp [VerusManifest.identity]
  unfold insertJob requireUnique
  simp only [hget, hrequire, hjobs, List.all_cons, List.all_nil, Bool.and_true, hid.symm,
    houtbox.symm, decide_false, Bool.not_false, if_true]
  by_cases hcolumns : old.identity = new.identity
  · obtain ⟨hoperation, hsubject, hkey, hdigest⟩ := hsame.1 hcolumns
    simp [hoperation, hsubject, hkey, hdigest, hcolumns]
  · have hdiffer := mt hsame.2 hcolumns
    simp only [hcolumns, iff_false]
    rw [if_pos (by simpa [imp_iff_not_or, or_assoc] using hdiffer)]
    split_ifs <;> simp [modify, modifyGet, MonadStateOf.modifyGet, StateT.modifyGet, pure,
      Except.pure]

open VerusJobRepository in
/-- The key takes the same inputs for one job as the index does: those with the same columns. -/
theorem deterministic_key_agrees {a b : VerusJobIdentity} (ha : a.wellFormed = true)
    (hb : b.wellFormed = true)
    (hsha : sha256 a.material = sha256 b.material → a.material = b.material) :
    (deterministicVerusIdempotencyKey a = deterministicVerusIdempotencyKey b ↔ a = b) ∧
    ∀ (old new : VerusJobRow) (db : Db), old.identity = a → new.identity = b → db.jobs = [old] →
      new.id ≠ old.id → new.outboxEventId ≠ old.outboxEventId →
      (deterministicVerusIdempotencyKey a = deterministicVerusIdempotencyKey b ↔
        insertJob new db =
          .error (.uniqueViolation "verus_job_deterministic_identity_key")) := by
  have hkey := VerusJobIdentity.key_eq_iff ha hb hsha
  refine ⟨hkey, ?_⟩
  rintro old new db rfl rfl hjobs hid houtbox
  rw [hkey, insertJob_violates_iff hjobs hid houtbox]

namespace JobIdentitySample

/-- Two jobs that differ in their operation. -/
def job (operationType : String) : VerusJobIdentity :=
  { operationType
    subjectReference := "attestation:one"
    vdxfKey := "iQxTRgN4ZaYQcWAspPfsNS5YFHTEahLgEP"
    manifestDigest := "ba7816bf8f01cfea414140de5dae2223b00361a396177a9cb410ff61f20015ad" }

theorem deterministic_key_agrees_two :
    (deterministicVerusIdempotencyKey (job "anchor.write") =
      deterministicVerusIdempotencyKey (job "anchor.revoke") ↔
        job "anchor.write" = job "anchor.revoke") ∧
    job "anchor.write" ≠ job "anchor.revoke" :=
  ⟨(deterministic_key_agrees (by decide +kernel) (by decide +kernel)
    fun h => absurd h (by decide +kernel)).1, by decide⟩

end JobIdentitySample

end ChecksAndBalances
