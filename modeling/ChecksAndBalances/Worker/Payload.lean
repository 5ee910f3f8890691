import ChecksAndBalances.Verus.Encoding
import ChecksAndBalances.Worker.Fencing

/-!
# The manifest between the enqueuing and the worker

`validateInput` compares digests and parsed values, the worker derives the canonical text again.  They
agree on the texts that are canonical, and on no other.
-/

namespace ChecksAndBalances

open Lib Lib.Tx VerusJobRepository

section Payload

variable [Host] {job : VerusJobRecord}

/-- The check of `preflightAndSubmit` on the persisted manifest. -/
def PassesPayloadCheck (job : VerusJobRecord) : Prop :=
  ∃ payload, prepareCanonicalPayload job.manifest (payloadPolicy job) = .ok payload ∧
    payload.digest = job.manifestDigest ∧ decodeText payload.bytes = some job.manifestCanonical

/-- The payload that passed the check is the stored canonical manifest. -/
theorem payload_text {policy : CanonicalPayloadPolicy} {payload : CanonicalPayload}
    (hpayload : prepareCanonicalPayload job.manifest policy = .ok payload)
    (hdecoded : decodeText payload.bytes = some job.manifestCanonical) :
    (Json.obj job.manifest).canonicalizeJson = .ok job.manifestCanonical ∧
      payload.bytes = encodeUtf8 job.manifestCanonical ∧
      payload.digest = sha256 job.manifestCanonical := by
  obtain ⟨text, htext, hbytes, hdigest⟩ := prepareCanonicalPayload_spec hpayload
  have hround : decodeText (encodeUtf8 text) = some text := by
    refine decodeText_encodeUtf8 fun c hc => ?_
    rw [canonicalizeJson_obj_head htext] at hc
    cases hc
    decide
  obtain rfl : text = job.manifestCanonical := by
    rw [hbytes, hround] at hdecoded
    exact Option.some.inj hdecoded
  exact ⟨htext, hbytes, hdigest⟩

/-- What `validateInput` has checked of the manifest. -/
structure ValidManifest (input : VerusManifest) : Prop where
  digest : sha256 input.manifestCanonical = input.manifestDigest
  maximum : 1 ≤ input.manifestMaximumBytes ∧ input.manifestMaximumBytes ≤ 1048576
  size : (encodeUtf8 input.manifestCanonical).length ≤ input.manifestMaximumBytes
  allowed : ∀ field ∈ input.manifest.keys, field ∈ input.manifestAllowedFields
  required : ∀ field ∈ input.manifestRequiredFields, field ∈ input.manifest.keys
  plain : (Json.obj input.manifest).rejectFields 0 = .ok ()

theorem validManifest_of_validateInput {input : EnqueueVerusAnchorInput} {context : CommandContext}
    {db : Db} (h : Accepted (validateInput input context) db) :
    ValidManifest input.toVerusManifest := by
  obtain ⟨_, _, h⟩ := h
  simp only [validateInput, validateManifest, requireOpaqueReference, bind_assoc,
    commits_require_bind, commits_found_bind, commits_lift_bind] at h
  obtain ⟨-, -, -, -, -, -, -, hdigest, _, -, -, hsize, -, -, hfields, _, hplain, -⟩ := h
  refine ⟨hdigest, ⟨hsize.1, hsize.2.1⟩, hsize.2.2, hfields.1, hfields.2, ?_⟩
  unfold rejectSensitiveManifestFields at hplain
  split at hplain
  · next hok => exact hok
  · cases hplain
  · cases hplain

/-- A valid manifest in canonical form passes `prepareCanonicalPayload`. -/
theorem prepareCanonicalPayload_of_valid (hvalid : ValidManifest job.toVerusManifest)
    (hcanonical : (Json.obj job.manifest).canonicalizeJson = .ok job.manifestCanonical) :
    prepareCanonicalPayload job.manifest (payloadPolicy job) = .ok
      { value := job.manifest
        bytes := encodeUtf8 job.manifestCanonical
        digest := sha256 job.manifestCanonical
        policyReference := job.manifestPolicyReference } := by
  refine prepareCanonicalPayload_ok ?_ ?_ ?_ hcanonical (decide_eq_true hvalid.size)
  · have hmaximum := hvalid.maximum
    show (isSafeInteger job.manifestMaximumBytes && decide (1 ≤ job.manifestMaximumBytes)) = true
    simp only [isSafeInteger, Bool.and_eq_true, decide_eq_true_eq]
    omega
  · show (job.manifest.keys.all (fun key => decide (key ∈ job.manifestAllowedFields)) &&
      job.manifestRequiredFields.all fun key => decide (key ∈ job.manifest.keys)) = true
    simp only [Bool.and_eq_true, List.all_eq_true, decide_eq_true_eq]
    exact ⟨hvalid.allowed, hvalid.required⟩
  · rw [rejectForbiddenFields, hvalid.plain]

/-- The persisted job of an accepted input passes the check exactly when the text is canonical. -/
theorem payload_check_iff {input : EnqueueVerusAnchorInput} {context : CommandContext} {db db' : Db}
    {committeeId : Option Uuid} {jobId eventId : Uuid} {now : ℤ}
    (hvalid : Accepted (validateInput input context) db)
    (hjob : toRecord db' (newJob input committeeId jobId eventId now) = .ok job) :
    PassesPayloadCheck job ↔
      (Json.obj input.manifest).canonicalizeJson = .ok input.manifestCanonical := by
  have hmanifest : job.toVerusManifest = input.toVerusManifest := (toRecord_eq hjob).1
  have hvalid' : ValidManifest job.toVerusManifest := by
    rw [hmanifest]
    exact validManifest_of_validateInput hvalid
  rw [← hmanifest]
  constructor
  · rintro ⟨payload, hpayload, -, hdecoded⟩
    exact (payload_text hpayload hdecoded).1
  · intro hcanonical
    refine ⟨_, prepareCanonicalPayload_of_valid hvalid' hcanonical, hvalid'.digest, ?_⟩
    refine decodeText_encodeUtf8 fun c hc => ?_
    rw [canonicalizeJson_obj_head hcanonical] at hc
    cases hc
    decide

end Payload

namespace WorkerSample

/-- The job that the first sample is persisted as. -/
def record : VerusJobRecord :=
  { toVerusManifest := (input "one").toVerusManifest
    id := 101
    outboxEventId := 100
    state := .pending
    transactionId := none
    blockHeight := none
    blockHash := none
    readbackDigest := none
    submissionAmbiguous := false
    lastErrorClass := none
    version := 1
    createdAt := 0
    updatedAt := 0
    committeeReference := none }

theorem payload_check_canonical :
    Accepted (validateInput (input "one") (context "one")) .empty ∧ PassesPayloadCheck record := by
  have hchecks : (validateInput (input "one") (context "one") .empty).isOk = true ∧
      (Json.obj (manifest "one")).canonicalizeJson.toOption = some (canonical "one") := by
    decide +kernel
  have haccepted := accepted_of_isOk hchecks.1
  refine ⟨haccepted, ?_⟩
  have hrecord : toRecord .empty (newJob (input "one") none 101 100 0) = .ok record := rfl
  refine (payload_check_iff haccepted hrecord).2 ?_
  show (Json.obj (manifest "one")).canonicalizeJson = .ok (canonical "one")
  cases htext : (Json.obj (manifest "one")).canonicalizeJson with
  | ok text =>
    rw [htext] at hchecks
    exact congrArg Except.ok (Option.some.inj hchecks.2)
  | error e =>
    rw [htext] at hchecks
    cases hchecks.2

/-- The text of the first manifest with a space after the colon. -/
def spaced : String := "\x7b\"schema\": \"one\"\x7d"

/-- The host functions on the spaced text. -/
@[reducible]
def spacedHost : Host where
  nfc s := s
  numberToString _ := ""
  jsonParse text := if text = spaced then some (.obj (manifest "one")) else none

def spacedInput : EnqueueVerusAnchorInput :=
  { input "one" with manifestCanonical := spaced, manifestDigest := sha256 spaced }

def spacedContext : CommandContext := { context "one" with requestDigest := sha256 spaced }

/-- The spaced text is accepted, and the persisted job never passes. -/
theorem spaced_manifest_rejected :
    Accepted (@validateInput spacedHost spacedInput spacedContext) .empty ∧
      ∃ job, toRecord .empty (newJob spacedInput none 101 100 0) = .ok job ∧
        ¬ @PassesPayloadCheck spacedHost job := by
  have hchecks : (@validateInput spacedHost spacedInput spacedContext .empty).isOk = true ∧
      (@Json.canonicalizeJson spacedHost (.obj (manifest "one"))).toOption ≠ some spaced := by
    decide +kernel
  refine ⟨accepted_of_isOk hchecks.1, { record with toVerusManifest := spacedInput.toVerusManifest },
    rfl, ?_⟩
  rintro ⟨payload, hpayload, -, hdecoded⟩
  have htext := (@payload_text spacedHost _ _ _ hpayload hdecoded).1
  exact hchecks.2 (by rw [show (@Json.canonicalizeJson spacedHost (.obj (manifest "one"))) =
    .ok spaced from htext]; rfl)

end WorkerSample

end ChecksAndBalances
