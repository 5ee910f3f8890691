import ChecksAndBalances.Worker.System

/-!
# The protocol of an attempt

Which calls a worker makes, given its claim, the job record it works on and the answers of the node
since it has that record.  `processNext` follows the protocol as long as the stores return records in
the state they moved the job to; the proofs about runs of the system use the protocol and never look
into the program again.
-/

namespace ChecksAndBalances

open Lib OutboxRepository

/-! ## Answers -/

/-- The request writes. -/
def Rpc.isWrite : Rpc → Bool
  | updateIdentity _ => true
  | _ => false

/-- A write that returned a transaction or ended ambiguously. -/
def isEffectiveWrite : Exchange → Bool
  | ⟨.updateIdentity _, .ok _⟩ => true
  | ⟨.updateIdentity _, .error e⟩ => e.submissionAmbiguous
  | _ => false

/-- An answer that ends the attempt in a retryable failure that is not ambiguous: such an error, or
the report of a node that is not synchronized. -/
def isPlainFailure : Exchange → Bool
  | ⟨_, .error e⟩ => e.retryable && !e.submissionAmbiguous
  | ⟨.getInfos, .ok infos⟩ => isUnsynced {} infos.1 infos.2
  | _ => false

/-- The latest answer is an effective write. -/
def Unrecorded (answers : List Exchange) : Prop := answers.head?.any isEffectiveWrite = true

/-- The latest answer is a plain failure. -/
def PlainFailure (answers : List Exchange) : Prop := answers.head?.any isPlainFailure = true

/-- The latest answer is a write that returned the transaction. -/
def Returned (answers : List Exchange) (transactionId : String) : Prop :=
  ∃ update id rest, answers = ⟨.updateIdentity update, .ok id⟩ :: rest ∧ transactionId = id.val

section Answers

variable {answers : List Exchange}

theorem not_unrecorded_nil : ¬ Unrecorded [] := by simp [Unrecorded]

theorem not_unrecorded_cons {q : Rpc} (h : q.isWrite = false) (result : q.Result) :
    ¬ Unrecorded (⟨q, result⟩ :: answers) := by
  cases q with
  | updateIdentity => cases h
  | _ => simp [Unrecorded, isEffectiveWrite]

theorem Returned.unrecorded {transactionId : String} (h : Returned answers transactionId) :
    Unrecorded answers := by
  obtain ⟨update, id, rest, rfl, -⟩ := h
  rfl

theorem plainFailure_error {request : Rpc} {error : VerusIntegrationError}
    (hretry : error.retryable = true) (hplain : error.submissionAmbiguous = false) :
    PlainFailure (⟨request, .error error⟩ :: answers) := by
  cases request <;> simp [PlainFailure, isPlainFailure, hretry, hplain]

end Answers

section Evidence

variable [Host]

/-- The latest answer is the content of the identity and holds the digest of the manifest. -/
def FoundContent (job : VerusJobRecord) (answers : List Exchange) (content : VerusIdentityResult) :
    Prop :=
  ∃ rest, answers = ⟨.getIdentityContent job.targetIdentity job.vdxfKey, .ok content⟩ :: rest ∧
    job.manifestDigest ∈ contentDigests job.vdxfKey content

/-- The latest answer is the content of the identity and does not hold the digest. -/
def MissingContent (job : VerusJobRecord) (answers : List Exchange)
    (content : VerusIdentityResult) : Prop :=
  ∃ rest, answers = ⟨.getIdentityContent job.targetIdentity job.vdxfKey, .ok content⟩ :: rest ∧
    job.manifestDigest ∉ contentDigests job.vdxfKey content

/-- The answers are those of an inspection that confirmed the transaction. -/
def Confirmed (job : VerusJobRecord) (answers : List Exchange) (transactionId : String)
    (blockHeight : ℤ) (blockHash : String) : Prop :=
  ∃ trace confirmations, answers = trace.reverse ∧
    (inspectTransactionConfirmation transactionId job.confirmationRequirement).run.Runs trace
      (.ok (.confirmed confirmations blockHeight blockHash))

/-- The answers begin with those of a preflight that accepted the identity. -/
def Preflighted (options : VerusAnchorWorkerOptions) (job : VerusJobRecord)
    (answers : List Exchange) (identity : VerusIdentityResult) : Prop :=
  ∃ later trace result, answers = later ++ trace.reverse ∧
    (runVerusWritePreflight (preflightPolicy options job)).run.Runs trace (.ok result) ∧
    result.identity = some identity

/-- The update is the one that the accepted identity and the checked manifest give. -/
def Gate (options : VerusAnchorWorkerOptions) (job : VerusJobRecord) (answers : List Exchange)
    (update : PreparedIdentityUpdate) : Prop :=
  approvedTargets options job = true ∧ ∃ payload identity,
    prepareCanonicalPayload job.manifest (payloadPolicy job) = .ok payload ∧
    payloadMatches job payload = true ∧ Preflighted options job answers identity ∧
    prepareIdentityContentUpdate identity.identity job.vdxfKey payload = .ok update

/-- Why an attempt on the record throws the error. -/
inductive Cause (job : VerusJobRecord) (answers : List Exchange) : VerusIntegrationError → Prop
  /-- The node, or the connection to it, failed. -/
  | node (request : Rpc) (error : VerusIntegrationError) (rest : List Exchange)
      (latest : answers = ⟨request, .error error⟩ :: rest)
      (working : job.state ∈ [VerusJobState.preflight, .confirming, .readback])
      (writing : request.isWrite = true → job.state = .preflight) : Cause job answers error
  /-- The node is not synchronized. -/
  | unsynced (error : VerusIntegrationError) (failure : PlainFailure answers)
      (idle : ¬ Unrecorded answers) (working : job.state = .preflight)
      (retryable : error.retryable = true) (plain : error.submissionAmbiguous = false) :
      Cause job answers error
  /-- The search for an ambiguous submission found nothing. -/
  | missing (error : VerusIntegrationError) (content : VerusIdentityResult)
      (latest : MissingContent job answers content) (working : job.state = .preflight)
      (flagged : job.submissionAmbiguous = true) (retryable : error.retryable = true)
      (ambiguous : error.submissionAmbiguous = true) : Cause job answers error
  /-- The readback did not find the digest. -/
  | mismatch (error : VerusIntegrationError) (content : VerusIdentityResult)
      (latest : MissingContent job answers content) (working : job.state = .readback)
      (final : error.retryable = false) : Cause job answers error
  /-- The transaction is not confirmed yet. -/
  | pending (error : VerusIntegrationError) (idle : ¬ Unrecorded answers)
      (working : job.state = .confirming) (submitted : job.transactionId.isSome)
      (other : error.code ≠ .readbackMismatch) (plain : error.submissionAmbiguous = false) :
      Cause job answers error
  /-- A check failed for good. -/
  | final (error : VerusIntegrationError) (idle : ¬ Unrecorded answers)
      (working : job.state ∈ [VerusJobState.preflight, .confirming, .readback, .terminalFailed])
      (other : error.code ≠ .readbackMismatch) (final : error.retryable = false) :
      Cause job answers error

/-! ## Allowed calls -/

/-- The calls to the job store while working. -/
def JobOperation.Allowed (job : VerusJobRecord) (answers : List Exchange) : JobOperation → Prop
  | loadForClaim => False
  | claim => ¬ Unrecorded answers
  | beginPreflight => ¬ Unrecorded answers
  | recordSubmission transactionId => job.state = .preflight ∧
      ((job.transactionId = some transactionId ∧ ¬ Unrecorded answers) ∨
        Returned answers transactionId ∨
        (job.submissionAmbiguous = true ∧
          ∃ content, FoundContent job answers content ∧ content.transactionId = transactionId))
  | beginConfirmation => ¬ Unrecorded answers
  | beginReadback blockHeight blockHash => ¬ Unrecorded answers ∧ ∃ transactionId,
      job.transactionId = some transactionId ∧
      Confirmed job answers transactionId blockHeight blockHash
  | verifyReadback digest => ¬ Unrecorded answers ∧ digest = job.manifestDigest ∧
      ∃ content, FoundContent job answers content
  | retryableFailure errorClass submissionAmbiguous => ∃ error, Cause job answers error ∧
      error.retryable = true ∧ errorClass = error.code.errorClass ∧
      submissionAmbiguous = error.submissionAmbiguous
  | terminalFailure errorClass => ∃ error, Cause job answers error ∧
      error.retryable = false ∧ errorClass = error.code.errorClass
  | markDeadLetter _ => False
  | reorg => ¬ Unrecorded answers

/-- The calls to the stores while working. -/
def StoreCall.Allowed (claim : OutboxClaim) (job : VerusJobRecord) (answers : List Exchange) :
    StoreCall → Prop
  | queueStats => False
  | claimNext => False
  | heartbeat eventId => eventId = claim.id ∧ ¬ Unrecorded answers
  | succeed eventId => eventId = claim.id ∧ ¬ Unrecorded answers ∧ job.state = .verified
  | failRetryable eventId _ => eventId = claim.id ∧ ¬ Unrecorded answers ∧
      (job.state = .retryableFailed ∨ job.state = .reorgPending)
  | failTerminal eventId _ => eventId = claim.id ∧ ¬ Unrecorded answers ∧
      job.state = .terminalFailed
  | .job eventId operation => eventId = claim.id ∧ operation.Allowed job answers

/-- The requests to the node while working. -/
def Rpc.Allowed (options : VerusAnchorWorkerOptions) (job : VerusJobRecord)
    (answers : List Exchange) : Rpc → Prop
  | updateIdentity update => ¬ Unrecorded answers ∧ job.state = .preflight ∧
      VerusJobRepository.present job.transactionId = none ∧
      (job.submissionAmbiguous = true →
        ∃ content, FoundContent job answers content ∧ content.transactionId = "") ∧
      Gate options job answers update
  | _ => ¬ Unrecorded answers

/-- The calls of an attempt. -/
def Attempt.Allows (options : VerusAnchorWorkerOptions) : Attempt → Call → Prop
  | waiting, .store .queueStats => True
  | waiting, .store .claimNext => True
  | claimed _, .store .queueStats => True
  | claimed claim, .store (.job eventId .loadForClaim) => eventId = claim.id
  | working claim job answers, .store call => call.Allowed claim job answers
  | working _ job answers, .rpc request => request.Allowed options job answers
  | deadLettered claim, .store (.job eventId (.markDeadLetter _)) => eventId = claim.id
  | _, _ => False

/-- An operation of the job store returns the job in the state it moved it to. -/
def JobOperation.Admits (operation : JobOperation) (job : VerusJobRecord) : Prop :=
  ∀ state, operation.next = some state → job.state = state

/-- The answers that can come back; the node may answer anything. -/
def Call.Admits : (call : Call) → call.Answer → Prop
  | .store (.job _ operation), job => operation.Admits job
  | _, _ => True

/-- The protocol of an attempt. -/
def protocol (options : VerusAnchorWorkerOptions) : Protocol Attempt Call Call.Answer :=
  ⟨Attempt.Allows options, fun _ => Call.Admits, Attempt.next⟩

variable {options : VerusAnchorWorkerOptions} {claim : OutboxClaim} {job : VerusJobRecord}
  {answers : List Exchange} {α β : Type}

/-! ## Causes -/

theorem FoundContent.not_unrecorded {content : VerusIdentityResult}
    (h : FoundContent job answers content) : ¬ Unrecorded answers := by
  obtain ⟨rest, rfl, -⟩ := h
  exact not_unrecorded_cons rfl _

theorem MissingContent.not_unrecorded {content : VerusIdentityResult}
    (h : MissingContent job answers content) : ¬ Unrecorded answers := by
  obtain ⟨rest, rfl, -⟩ := h
  exact not_unrecorded_cons rfl _

namespace Cause

variable {error : VerusIntegrationError}

/-- An effective write that throws is ambiguous. -/
theorem of_unrecorded (h : Cause job answers error) (hu : Unrecorded answers) :
    error.submissionAmbiguous = true ∧ job.state = .preflight ∧
      ∀ transactionId, ¬ Returned answers transactionId := by
  cases h with
  | node request error rest latest working writing =>
    subst latest
    cases request with
    | updateIdentity update =>
      refine ⟨hu, writing rfl, ?_⟩
      rintro transactionId ⟨update, id, rest, heq, -⟩
      cases heq
    | _ => exact absurd hu (not_unrecorded_cons rfl _)
  | unsynced error failure idle => exact absurd hu idle
  | missing error content latest => exact absurd hu latest.not_unrecorded
  | mismatch error content latest => exact absurd hu latest.not_unrecorded
  | pending error idle => exact absurd hu idle
  | final error idle => exact absurd hu idle

theorem not_returned (h : Cause job answers error) (transactionId : String) :
    ¬ Returned answers transactionId :=
  fun hreturned => (h.of_unrecorded hreturned.unrecorded).2.2 transactionId hreturned

/-- A retryable error that is not ambiguous comes from a plain failure, or the job is submitted. -/
theorem plain (h : Cause job answers error) (hretry : error.retryable = true)
    (hplain : error.submissionAmbiguous = false) :
    job.transactionId.isSome ∨ PlainFailure answers := by
  cases h with
  | node request error rest latest =>
    subst latest
    exact Or.inr (plainFailure_error hretry hplain)
  | unsynced error failure => exact Or.inr failure
  | missing error content latest working flagged retryable ambiguous =>
    rw [ambiguous] at hplain
    cases hplain
  | mismatch error content latest working final =>
    rw [final] at hretry
    cases hretry
  | pending error idle working submitted => exact Or.inl submitted
  | final error idle working other final =>
    rw [final] at hretry
    cases hretry

/-- Only a job that is being worked on throws a retryable error. -/
theorem state_of_retryable (h : Cause job answers error) (hretry : error.retryable = true) :
    job.state ∈ [VerusJobState.preflight, .submitted, .confirming, .readback] := by
  cases h with
  | node request error rest latest working =>
    simp only [List.mem_cons, List.not_mem_nil, or_false] at working ⊢
    tauto
  | unsynced error failure idle working => rw [working]; decide
  | missing error content latest working => rw [working]; decide
  | mismatch error content latest working final => rw [working]; decide
  | pending error idle working => rw [working]; decide
  | final error idle working other final =>
    rw [final] at hretry
    cases hretry

/-- A job that throws is being worked on, or has already failed for good. -/
theorem state_mem (h : Cause job answers error) :
    job.state = .terminalFailed ∨
      job.state ∈ [VerusJobState.preflight, .submitted, .confirming, .readback] := by
  cases h with
  | node request error rest latest working =>
    simp only [List.mem_cons, List.not_mem_nil, or_false] at working ⊢
    tauto
  | unsynced error failure idle working => rw [working]; decide
  | missing error content latest working => rw [working]; decide
  | mismatch error content latest working final => rw [working]; decide
  | pending error idle working => rw [working]; decide
  | final error idle working =>
    simp only [List.mem_cons, List.not_mem_nil, or_false] at working ⊢
    tauto

end Cause

/-! ## Outcomes of a conversation -/

/-- The attempt still works on the record and has nothing to record. -/
def Going (claim : OutboxClaim) (job : VerusJobRecord) (attempt : Attempt) : Prop :=
  ∃ answers, attempt = .working claim job answers ∧ ¬ Unrecorded answers

/-- An error was thrown that the answers so far account for. -/
def Thrown (claim : OutboxClaim) (job : VerusJobRecord) (error : VerusIntegrationError)
    (attempt : Attempt) : Prop :=
  ∃ answers, attempt = .working claim job answers ∧ Cause job answers error

/-- What a conversation with the node leaves. -/
def Outcome (claim : OutboxClaim) (job : VerusJobRecord) (attempt : Attempt) :
    Except VerusIntegrationError α → Prop
  | .ok _ => Going claim job attempt
  | .error error => Thrown claim job error attempt

/-- The states in which a worker talks to the node. -/
abbrev VerusJobState.Conversing (state : VerusJobState) : Prop :=
  state ∈ [VerusJobState.preflight, .confirming, .readback]

theorem thrown_final {error : VerusIntegrationError} (hwork : job.state.Conversing)
    (h : ¬ Unrecorded answers) (hfinal : error.retryable = false)
    (hother : error.code ≠ .readbackMismatch) :
    Thrown claim job error (.working claim job answers) := by
  refine ⟨answers, rfl, .final error h ?_ hother hfinal⟩
  simp only [VerusJobState.Conversing, List.mem_cons, List.not_mem_nil, or_false] at hwork ⊢
  tauto

theorem thrown_node {request : Rpc} {error : VerusIntegrationError}
    (hwork : job.state.Conversing) (hread : request.isWrite = false) :
    Thrown claim job error (.working claim job (⟨request, .error error⟩ :: answers)) :=
  ⟨_, rfl, .node request error answers rfl hwork fun hwrite => by rw [hread] at hwrite; cases hwrite⟩

/-- A request of the node that is no write. -/
theorem follows_ask {request : Rpc} (hread : request.isWrite = false)
    (h : ¬ Unrecorded answers) {Q : Attempt → request.Result → Prop}
    (hQ : ∀ result, Q (.working claim job (⟨request, result⟩ :: answers)) result) :
    Follows ((protocol options).comap Call.rpc) (.working claim job answers)
      (ask request).run Q := by
  refine Follows.request ?_ fun result _ => hQ result
  cases request with
  | updateIdentity update => cases hread
  | _ => exact h

/-- A first request that is no write: its error ends the conversation. -/
theorem follows_ask_bind {request : Rpc} (hwork : job.state.Conversing)
    (hread : request.isWrite = false) (h : ¬ Unrecorded answers)
    {f : request.Answer → Adapter α}
    (hf : ∀ answer, Follows ((protocol options).comap Call.rpc)
      (.working claim job (⟨request, .ok answer⟩ :: answers)) (f answer).run
      (Outcome claim job)) :
    Follows ((protocol options).comap Call.rpc) (.working claim job answers)
      (ask request >>= f).run (Outcome claim job) := by
  refine Follows.except_bind (follows_ask hread h ?_)
  rintro (error | answer)
  · exact thrown_node hwork hread
  · exact hf answer

/-- A check. -/
theorem follows_ensure_bind {condition : Bool} {error : VerusIntegrationError} {f : Unit → Adapter α}
    (herror : condition = false → Thrown claim job error (.working claim job answers))
    (hf : Follows ((protocol options).comap Call.rpc) (.working claim job answers) (f ()).run
      (Outcome claim job)) :
    Follows ((protocol options).comap Call.rpc) (.working claim job answers)
      (ensure condition error >>= f).run (Outcome claim job) := by
  refine Follows.ofExcept_bind (fun _ _ => hf) fun e he => ?_
  cases condition with
  | true => cases he
  | false =>
    rw [← Except.error.inj he]
    exact herror rfl

/-- A conversation, and what follows it. -/
theorem follows_bind {x : Adapter α} {f : α → Adapter β} {attempt : Attempt}
    (hx : Follows ((protocol options).comap Call.rpc) attempt x.run (Outcome claim job))
    (hf : ∀ a answers, ¬ Unrecorded answers → Follows ((protocol options).comap Call.rpc)
      (.working claim job answers) (f a).run (Outcome claim job)) :
    Follows ((protocol options).comap Call.rpc) attempt (x >>= f).run (Outcome claim job) := by
  refine Follows.except_bind (hx.mono ?_)
  rintro attempt (error | a) h
  · exact h
  · obtain ⟨answers, rfl, hanswers⟩ := h
    exact hf a answers hanswers

/-! ## Conversations -/

theorem follows_preflightIdentity (hwork : job.state.Conversing) (h : ¬ Unrecorded answers)
    (expected : Option ExpectedVerusIdentity) :
    Follows ((protocol options).comap Call.rpc) (.working claim job answers)
      (preflightIdentity expected).run (Outcome claim job) := by
  cases expected with
  | none => exact Follows.pure ⟨answers, rfl, h⟩
  | some expected =>
    refine follows_ask_bind hwork rfl h fun identity => ?_
    have hidentity : ¬ Unrecorded
        (⟨.getIdentity expected.identityAddress, .ok identity⟩ :: answers) :=
      not_unrecorded_cons rfl _
    exact follows_ensure_bind (fun _ => thrown_final hwork hidentity rfl (by decide))
      (Follows.pure ⟨_, rfl, hidentity⟩)

theorem follows_preflightVdxf (hwork : job.state.Conversing) (h : ¬ Unrecorded answers)
    (expected : Option ExpectedVdxfIdentifier) :
    Follows ((protocol options).comap Call.rpc) (.working claim job answers)
      (preflightVdxf expected).run (Outcome claim job) := by
  cases expected with
  | none => exact Follows.pure ⟨answers, rfl, h⟩
  | some expected =>
    refine follows_ask_bind hwork rfl h fun vdxf => ?_
    have hvdxf : ¬ Unrecorded (⟨.getVdxfId expected.uri, .ok vdxf⟩ :: answers) :=
      not_unrecorded_cons rfl _
    exact follows_ensure_bind (fun _ => thrown_final hwork hvdxf rfl (by decide))
      (Follows.pure ⟨_, rfl, hvdxf⟩)

theorem follows_runVerusWritePreflight {policy : VerusWritePreflightPolicy}
    (hpolicy : policy.toSynchronizationPolicy = {}) (hstate : job.state = .preflight)
    (h : ¬ Unrecorded answers) :
    Follows ((protocol options).comap Call.rpc) (.working claim job answers)
      (runVerusWritePreflight policy).run (Outcome claim job) := by
  have hwork : job.state.Conversing := by rw [hstate]; decide
  refine follows_ensure_bind (fun _ => thrown_final hwork h rfl (by decide)) ?_
  refine follows_ask_bind hwork rfl h fun infos => ?_
  have hinfos : ¬ Unrecorded (⟨.getInfos, .ok infos⟩ :: answers) := not_unrecorded_cons rfl _
  refine follows_ensure_bind (fun _ => thrown_final hwork hinfos rfl (by decide)) ?_
  refine follows_ensure_bind (fun _ => thrown_final hwork hinfos rfl (by decide)) ?_
  refine follows_ensure_bind (fun hunsynced => ?_) ?_
  · rw [hpolicy] at hunsynced
    refine ⟨_, rfl, .unsynced _ ?_ hinfos hstate rfl rfl⟩
    simpa [PlainFailure, isPlainFailure] using hunsynced
  refine follows_ensure_bind (fun _ => thrown_final hwork hinfos rfl (by decide)) ?_
  refine follows_bind (follows_preflightIdentity hwork hinfos _) fun identity answers hid => ?_
  refine follows_bind (follows_preflightVdxf hwork hid _) fun vdxf answers hvdxf => ?_
  exact follows_ensure_bind (fun _ => thrown_final hwork hvdxf rfl (by decide))
    (Follows.pure ⟨_, rfl, hvdxf⟩)

/-- The inspection only reads. -/
theorem follows_inspectTransactionConfirmation (hwork : job.state.Conversing)
    (h : ¬ Unrecorded answers) (transactionId : String) (minimumConfirmations : ℤ) :
    Follows ((protocol options).comap Call.rpc) (.working claim job answers)
      (inspectTransactionConfirmation transactionId minimumConfirmations).run
      (Outcome claim job) := by
  refine follows_ensure_bind (fun _ => thrown_final hwork h rfl (by decide)) ?_
  refine follows_ask_bind hwork rfl h fun transaction => ?_
  have htransaction : ¬ Unrecorded
      (⟨.getRawTransaction transactionId, .ok transaction⟩ :: answers) :=
    not_unrecorded_cons rfl _
  split_ifs
  · exact Follows.pure ⟨_, rfl, htransaction⟩
  · exact Follows.pure ⟨_, rfl, htransaction⟩
  · split
    · exact Follows.pure ⟨_, rfl, htransaction⟩
    · refine follows_ask_bind hwork rfl htransaction fun block => ?_
      refine follows_ask_bind hwork rfl (not_unrecorded_cons rfl _) fun hash => ?_
      split_ifs
      · exact Follows.pure ⟨_, rfl, not_unrecorded_cons rfl _⟩
      · exact Follows.pure ⟨_, rfl, not_unrecorded_cons rfl _⟩

/-- What a search of the content leaves: the content where it holds the digest. -/
def SearchOutcome (claim : OutboxClaim) (job : VerusJobRecord) (start : List Exchange)
    (attempt : Attempt) : Except VerusIntegrationError (Option (String × ℤ)) → Prop
  | .ok (some (transactionId, _)) => ∃ answers content, attempt = .working claim job answers ∧
      start <:+ answers ∧ FoundContent job answers content ∧ content.transactionId = transactionId
  | .ok none => ∃ answers content, attempt = .working claim job answers ∧
      MissingContent job answers content
  | .error error => Thrown claim job error attempt

theorem follows_findReadbackEvidence (hwork : job.state.Conversing) (h : ¬ Unrecorded answers) :
    Follows ((protocol options).comap Call.rpc) (.working claim job answers)
      (findReadbackEvidenceBeforeResubmission job.targetIdentity job.vdxfKey
        job.manifestDigest).run (SearchOutcome claim job answers) := by
  refine Follows.except_bind (follows_ask rfl h ?_)
  rintro (error | content)
  · exact thrown_node hwork rfl
  · by_cases hfound : job.manifestDigest ∈ contentDigests job.vdxfKey content
    · simp only [if_pos hfound]
      exact Follows.pure ⟨_, content, rfl, List.suffix_cons _ _, ⟨_, rfl, hfound⟩, rfl⟩
    · simp only [if_neg hfound]
      exact Follows.pure ⟨_, content, rfl, ⟨_, rfl, hfound⟩⟩

/-- What the readback leaves. -/
def ReadbackOutcome (claim : OutboxClaim) (job : VerusJobRecord) (attempt : Attempt) :
    Except VerusIntegrationError ReadbackResult → Prop
  | .ok (.verified digest) => digest = job.manifestDigest ∧
      ∃ answers content, attempt = .working claim job answers ∧ FoundContent job answers content
  | .ok (.mismatch _) => ∃ answers content, attempt = .working claim job answers ∧
      MissingContent job answers content
  | .error error => Thrown claim job error attempt

theorem follows_verifyIdentityContentReadback (hwork : job.state.Conversing)
    (h : ¬ Unrecorded answers) :
    Follows ((protocol options).comap Call.rpc) (.working claim job answers)
      (verifyIdentityContentReadback job.targetIdentity job.vdxfKey job.manifestDigest).run
      (ReadbackOutcome claim job) := by
  refine Follows.except_bind (follows_ask rfl h ?_)
  rintro (error | content)
  · exact thrown_node hwork rfl
  · by_cases hfound : job.manifestDigest ∈ contentDigests job.vdxfKey content
    · simp only [if_pos hfound]
      exact Follows.pure ⟨rfl, _, content, rfl, ⟨_, rfl, hfound⟩⟩
    · simp only [if_neg hfound]
      exact Follows.pure ⟨_, content, rfl, ⟨_, rfl, hfound⟩⟩

/-- The answers of a conversation are put before the earlier ones. -/
theorem after_working (trace : List Exchange) :
    ((protocol options).comap Call.rpc).after (.working claim job answers) trace =
      .working claim job (trace.reverse ++ answers) := by
  induction trace generalizing answers with
  | nil => rfl
  | cons exchange trace ih =>
    rw [List.reverse_cons, List.append_assoc]
    exact ih

/-! ## Stages -/

/-- What a stage leaves: a record in the next state, or an error. -/
def StageOutcome (claim : OutboxClaim) (job : VerusJobRecord) (target : VerusJobState)
    (attempt : Attempt) : Except VerusIntegrationError VerusJobRecord → Prop
  | .ok next => attempt = .working claim next [] ∧ next.state = target
  | .error error => Thrown claim job error attempt

/-- The transaction may be recorded. -/
def Submittable (claim : OutboxClaim) (job : VerusJobRecord) (transactionId : String)
    (attempt : Attempt) : Prop :=
  ∃ answers, attempt = .working claim job answers ∧
    ((job.transactionId = some transactionId ∧ ¬ Unrecorded answers) ∨
      Returned answers transactionId ∨
      (job.submissionAmbiguous = true ∧
        ∃ content, FoundContent job answers content ∧ content.transactionId = transactionId))

theorem follows_heartbeat_bind {f : Unit → Stage α}
    {Q : Attempt → Except VerusIntegrationError α → Prop} (h : ¬ Unrecorded answers)
    (hf : Follows (protocol options) (.working claim job answers) (f ()).run Q) :
    Follows (protocol options) (.working claim job answers) (heartbeat claim.id >>= f).run Q :=
  Follows.lift_bind (Follows.request_bind ⟨rfl, h⟩ fun _ _ => Follows.pure hf)

/-- The last call of a stage moves the job. -/
theorem follows_storeJob (operation : JobOperation) {target : VerusJobState}
    (hallow : operation.Allowed job answers) (htarget : operation.next = some target)
    {job₀ : VerusJobRecord} :
    Follows (protocol options) (.working claim job answers)
      (Stage.ofProcess (storeJob claim.id operation)).run (StageOutcome claim job₀ target) := by
  refine ⟨⟨rfl, hallow⟩, fun next hnext => ⟨?_, hnext target htarget⟩⟩
  cases operation with
  | markDeadLetter => exact hallow.elim
  | _ => rfl

theorem follows_check_bind {condition : Bool} {error : VerusIntegrationError} {f : Unit → Stage α}
    {Q : Attempt → Except VerusIntegrationError α → Prop} {attempt : Attempt}
    (herror : condition = false → Q attempt (.error error))
    (hf : condition = true → Follows (protocol options) attempt (f ()).run Q) :
    Follows (protocol options) attempt (Stage.check condition error >>= f).run Q := by
  cases condition with
  | true => exact Follows.ofExcept_bind (fun _ _ => hf rfl) fun e he => by cases he
  | false =>
    refine Follows.ofExcept_bind (fun _ h => by cases h) fun e he => ?_
    rw [← Except.error.inj he]
    exact herror rfl

theorem follows_ofAdapter_bind {x : Adapter α} {f : α → Stage β} {attempt : Attempt}
    {Q : Attempt → Except VerusIntegrationError β → Prop}
    (hx : Follows ((protocol options).comap Call.rpc) attempt x.run fun attempt r =>
      match r with
      | .ok a => Follows (protocol options) attempt (f a).run Q
      | .error e => Q attempt (.error e)) :
    Follows (protocol options) attempt (Stage.ofAdapter x >>= f).run Q := by
  refine Follows.except_bind (Follows.embed (hx.mono ?_))
  rintro attempt (error | a) h
  · exact h
  · exact h

/-- What is known before a write. -/
def KnownOutcome (claim : OutboxClaim) (job : VerusJobRecord) (start : List Exchange)
    (attempt : Attempt) : Except VerusIntegrationError (Option String) → Prop
  | .ok (some transactionId) => Submittable claim job transactionId attempt
  | .ok none => ∃ answers, attempt = .working claim job answers ∧ start <:+ answers ∧
      ¬ Unrecorded answers ∧ VerusJobRepository.present job.transactionId = none ∧
      (job.submissionAmbiguous = true →
        ∃ content, FoundContent job answers content ∧ content.transactionId = "")
  | .error error => Thrown claim job error attempt

theorem follows_knownTransactionId (hstate : job.state = .preflight) (h : ¬ Unrecorded answers) :
    Follows (protocol options) (.working claim job answers) (knownTransactionId job).run
      (KnownOutcome claim job answers) := by
  have hwork : job.state.Conversing := by rw [hstate]; decide
  unfold knownTransactionId
  split
  · next transactionId hknown =>
    obtain ⟨hstored, -⟩ := Option.filter_eq_some_iff.1 hknown
    exact Follows.pure ⟨answers, rfl, Or.inl ⟨hstored, h⟩⟩
  · next hunknown =>
    split_ifs with hambiguous
    · refine follows_ofAdapter_bind ((follows_findReadbackEvidence hwork h).mono ?_)
      rintro attempt (error | (- | ⟨transactionId, height⟩)) hsearch
      · exact hsearch
      · obtain ⟨answers, content, rfl, hmissing⟩ := hsearch
        exact ⟨answers, rfl, .missing _ content hmissing hstate hambiguous rfl rfl⟩
      · obtain ⟨answers, content, rfl, hstart, hfound, hid⟩ := hsearch
        by_cases hempty : transactionId = ""
        · subst hempty
          exact ⟨answers, rfl, hstart, hfound.not_unrecorded, hunknown,
            fun _ => ⟨content, hfound, hid⟩⟩
        · have hpresent : VerusJobRepository.present (some transactionId) = some transactionId := by
            simp [VerusJobRepository.present, hempty]
          simp only [hpresent]
          exact Follows.pure ⟨answers, rfl, Or.inr (Or.inr ⟨hambiguous, content, hfound, hid⟩)⟩
    · exact Follows.pure ⟨answers, rfl, List.suffix_refl _, h, hunknown,
        fun hyes => absurd hyes hambiguous⟩

/-- What the write leaves. -/
def SubmitOutcome (claim : OutboxClaim) (job : VerusJobRecord) (attempt : Attempt) :
    Except VerusIntegrationError String → Prop
  | .ok transactionId => Submittable claim job transactionId attempt
  | .error error => Thrown claim job error attempt

theorem follows_submitUnlessKnown {identity : VerusIdentityResult} {payload : CanonicalPayload}
    (hstate : job.state = .preflight)
    (hgate : ∀ update later, prepareIdentityContentUpdate identity.identity job.vdxfKey payload =
      .ok update → Gate options job (later ++ answers) update)
    {attempt : Attempt} {known : Option String}
    (h : KnownOutcome claim job answers attempt (.ok known)) :
    Follows (protocol options) attempt (submitUnlessKnown job identity payload known).run
      (SubmitOutcome claim job) := by
  have hwork : job.state.Conversing := by rw [hstate]; decide
  cases known with
  | some transactionId => exact Follows.pure h
  | none =>
    obtain ⟨answers, rfl, ⟨later, rfl⟩, hgoing, hunknown, hsearched⟩ := h
    refine Follows.ofExcept_bind (fun update hupdate => ?_) fun error herror => ?_
    · refine follows_ofAdapter_bind (Follows.request
        ⟨hgoing, hstate, hunknown, hsearched, hgate update later hupdate⟩ ?_)
      rintro (error | id) -
      · exact ⟨_, rfl, .node _ error _ rfl hwork fun _ => hstate⟩
      · exact Follows.pure ⟨_, rfl, Or.inr (Or.inl ⟨update, id, _, rfl, rfl⟩)⟩
    · have hfinal := neverRetried_prepareIdentityContentUpdate _ _ _ _ herror
      exact thrown_final hwork hgoing hfinal.1 hfinal.2

theorem follows_preflightAndSubmit (hstate : job.state = .preflight) :
    Follows (protocol options) (.working claim job [])
      (preflightAndSubmit options claim.id job).run (StageOutcome claim job .submitted) := by
  have hnil := not_unrecorded_nil
  have hwork : job.state.Conversing := by rw [hstate]; decide
  refine follows_heartbeat_bind hnil ?_
  refine follows_check_bind (fun _ => thrown_final hwork hnil rfl (by decide)) fun happroved => ?_
  refine Follows.ofExcept_bind (fun payload hpayload => ?_) fun error herror => ?_
  swap
  · have hfinal := neverRetried_prepareCanonicalPayload _ _ _ herror
    exact thrown_final hwork hnil hfinal.1 hfinal.2
  refine follows_check_bind (fun _ => thrown_final hwork hnil rfl (by decide)) fun hmatches => ?_
  refine follows_ofAdapter_bind ((follows_runVerusWritePreflight rfl hstate hnil).runs.mono ?_)
  rintro attempt (error | preflight) ⟨houtcome, trace, hruns, hattempt⟩
  · exact houtcome
  obtain ⟨answers, rfl, hgoing⟩ := houtcome
  have hanswers := (Attempt.working.inj (hattempt.trans (after_working trace))).2.2
  rw [List.append_nil] at hanswers
  refine Follows.ofExcept_bind (fun identity hidentity => ?_) fun error herror => ?_
  · refine Follows.except_bind ((follows_knownTransactionId hstate hgoing).mono ?_)
    rintro attempt (error | known) hknown
    · exact hknown
    have hpreflighted : ∀ later, Preflighted options job (later ++ answers) identity := by
      intro later
      refine ⟨later, trace, preflight, by rw [hanswers], hruns, ?_⟩
      cases hid : preflight.identity with
      | none =>
        rw [hid] at hidentity
        cases hidentity
      | some found =>
        rw [hid] at hidentity
        rw [Except.ok.inj hidentity]
    refine Follows.except_bind ((follows_submitUnlessKnown hstate
      (fun update later hupdate => ⟨happroved, payload, identity, hpayload, hmatches,
        hpreflighted later, hupdate⟩) hknown).mono ?_)
    rintro attempt (error | transactionId) hsubmit
    · exact hsubmit
    obtain ⟨answers, rfl, hsource⟩ := hsubmit
    refine follows_storeJob (.recordSubmission transactionId) ?_ rfl
    exact ⟨hstate, hsource⟩
  · cases hid : preflight.identity with
    | some identity =>
      rw [hid] at herror
      cases herror
    | none =>
      rw [hid] at herror
      rw [← Except.error.inj herror]
      exact thrown_final hwork hgoing rfl (by decide)

/-- What the confirmation stage leaves. -/
def ConfirmOutcome (claim : OutboxClaim) (job : VerusJobRecord) (attempt : Attempt) :
    Except VerusIntegrationError (Option VerusJobRecord) → Prop
  | .ok (some next) => attempt = .working claim next [] ∧ next.state = .readback
  | .ok none => ∃ next, attempt = .working claim next [] ∧ next.state = .reorgPending
  | .error error => Thrown claim job error attempt

theorem follows_confirm (hstate : job.state = .confirming) :
    Follows (protocol options) (.working claim job []) (confirm claim.id job).run
      (ConfirmOutcome claim job) := by
  have hnil := not_unrecorded_nil
  have hwork : job.state.Conversing := by rw [hstate]; decide
  refine follows_heartbeat_bind hnil ?_
  cases hpresent : VerusJobRepository.present job.transactionId with
  | none =>
    refine Follows.ofExcept_bind (fun transactionId hid => ?_) fun error herror => ?_
    · rw [hpresent] at hid
      cases hid
    · rw [hpresent] at herror
      rw [← Except.error.inj herror]
      exact thrown_final hwork hnil rfl (by decide)
  | some transactionId =>
    obtain ⟨hstored, -⟩ := Option.filter_eq_some_iff.1 hpresent
    refine Follows.ofExcept_bind (fun id hid => ?_) fun error herror => ?_
    · rw [hpresent] at hid
      rw [← Except.ok.inj hid]
      refine follows_ofAdapter_bind
        ((follows_inspectTransactionConfirmation hwork hnil transactionId _).runs.mono ?_)
      rintro attempt (error | result) ⟨houtcome, trace, hruns, hattempt⟩
      · exact houtcome
      obtain ⟨answers, rfl, hgoing⟩ := houtcome
      have hanswers := (Attempt.working.inj (hattempt.trans (after_working trace))).2.2
      rw [List.append_nil] at hanswers
      cases result with
      | confirming confirmations =>
        exact ⟨answers, rfl, .pending _ hgoing hstate (by rw [hstored]; rfl) (by decide) rfl⟩
      | reorgPending confirmations block =>
        exact ⟨⟨rfl, hgoing⟩, fun next hnext => ⟨next, rfl, hnext _ rfl⟩⟩
      | confirmed confirmations blockHeight blockHash =>
        exact ⟨⟨rfl, hgoing, transactionId, hstored, trace, confirmations, hanswers, hruns⟩,
          fun next hnext => ⟨rfl, hnext _ rfl⟩⟩
    · rw [hpresent] at herror
      cases herror

theorem follows_readback (hstate : job.state = .readback) :
    Follows (protocol options) (.working claim job []) (readback claim.id job).run
      (StageOutcome claim job .verified) := by
  have hnil := not_unrecorded_nil
  have hwork : job.state.Conversing := by rw [hstate]; decide
  refine follows_heartbeat_bind hnil ?_
  refine follows_ofAdapter_bind ((follows_verifyIdentityContentReadback hwork hnil).mono ?_)
  rintro attempt (error | result) houtcome
  · exact houtcome
  cases result with
  | mismatch observed =>
    obtain ⟨answers, content, rfl, hmissing⟩ := houtcome
    exact ⟨answers, rfl, .mismatch _ content hmissing hstate rfl⟩
  | verified digest =>
    obtain ⟨rfl, answers, content, rfl, hfound⟩ := houtcome
    refine follows_storeJob (.verifyReadback job.manifestDigest) ?_ rfl
    exact ⟨hfound.not_unrecorded, rfl, content, hfound⟩

/-! ## The whole program -/

/-- The states that the stages leave, in their order; each stage drops the first. -/
def stageStates : List VerusJobState :=
  [.claimed, .preflight, .submitted, .confirming, .readback, .verified, .terminalFailed]

/-- What a stage of the `try` block leaves: a record in one of the states. -/
def AttemptOutcome (claim : OutboxClaim) (states : List VerusJobState) (attempt : Attempt) :
    Except Exit VerusJobRecord → Prop
  | .ok next => attempt = .working claim next [] ∧ next.state ∈ states
  | .error (.thrown state error) => ∃ job, state = job.state ∧ Thrown claim job error attempt
  | .error .reorg => ∃ job, attempt = .working claim job [] ∧ job.state = .reorgPending

/-- A stage moves a record in its states on and leaves any other. -/
theorem follows_stage (after : List VerusJobState) (target : VerusJobState)
    {states before : List VerusJobState} {run : VerusJobRecord → Stage VerusJobRecord}
    (hbefore : job.state ∈ before)
    (h : job.state ∈ states → Follows (protocol options) (.working claim job []) (run job).run
      (StageOutcome claim job target))
    (htarget : target ∈ after) (hskip : ∀ state ∈ before, state ∉ states → state ∈ after) :
    Follows (protocol options) (.working claim job []) (stage states run job).run
      (AttemptOutcome claim after) := by
  unfold stage
  split_ifs with hstate
  · refine Follows.bind ((h hstate).mono ?_)
    rintro attempt (error | next) houtcome
    · exact ⟨job, rfl, houtcome⟩
    · exact ⟨houtcome.1, by rw [houtcome.2]; exact htarget⟩
  · exact Follows.pure ⟨rfl, hskip _ hbefore hstate⟩

theorem follows_confirmationStage
    (hbefore : job.state ∈ stageStates.drop 3) :
    Follows (protocol options) (.working claim job []) (confirmationStage claim.id job).run
      (AttemptOutcome claim (stageStates.drop 4)) := by
  unfold confirmationStage
  split_ifs with hstate
  · refine Follows.bind ((follows_confirm hstate).mono ?_)
    rintro attempt (error | (- | next)) houtcome
    · exact ⟨job, rfl, houtcome⟩
    · exact houtcome
    · exact ⟨houtcome.1, by rw [houtcome.2]; decide⟩
  · refine Follows.pure ⟨rfl, ?_⟩
    rcases List.mem_cons.1 hbefore with hconfirming | hrest
    · exact absurd hconfirming hstate
    · exact hrest

/-- One stage after the other. -/
theorem follows_stage_bind {x : Attempting VerusJobRecord} {f : VerusJobRecord → Attempting α}
    {states : List VerusJobState} {Q : Attempt → Except Exit α → Prop} {attempt : Attempt}
    (hx : Follows (protocol options) attempt x.run (AttemptOutcome claim states))
    (hf : ∀ next, next.state ∈ states →
      Follows (protocol options) (.working claim next []) (f next).run Q)
    (herror : ∀ attempt exit, AttemptOutcome claim states attempt (.error exit) →
      Q attempt (.error exit)) :
    Follows (protocol options) attempt (x >>= f).run Q := by
  refine Follows.except_bind (hx.mono ?_)
  rintro attempt (exit | next) houtcome
  · exact herror attempt exit houtcome
  · rw [houtcome.1]
    exact hf next houtcome.2

/-- What the `try` block leaves. -/
def BlockOutcome (claim : OutboxClaim) (attempt : Attempt) : Except Exit Unit → Prop
  | .ok () => ∃ job, attempt = .working claim job [] ∧ job.state = .verified
  | .error exit => AttemptOutcome claim [] attempt (.error exit)

theorem follows_attempt :
    Follows (protocol options) (.working claim job []) (attempt options claim.id job).run
      (BlockOutcome claim) := by
  have hnil := not_unrecorded_nil
  have herror : ∀ states attempt exit, AttemptOutcome claim states attempt (.error exit) →
      BlockOutcome claim attempt (.error exit) := by
    rintro states attempt (_ | _) h
    · exact h
    · exact h
  have hany : job.state ∈ [VerusJobState.pending, .claimed, .preflight, .submitted, .confirming,
      .readback, .verified, .retryableFailed, .terminalFailed, .reorgPending] := by
    cases job.state <;> decide
  refine follows_stage_bind (follows_stage stageStates .claimed hany (fun _ => ?_) (by decide)
    (by decide)) (fun job hjob => ?_) (herror _)
  · exact follows_storeJob .claim hnil rfl
  refine follows_stage_bind (follows_stage (stageStates.drop 1) .preflight hjob (fun _ => ?_)
    (by decide) (by decide)) (fun job hjob => ?_) (herror _)
  · exact follows_storeJob .beginPreflight hnil rfl
  refine follows_stage_bind (follows_stage (stageStates.drop 2) .submitted hjob (fun hstate => ?_)
    (by decide) (by decide)) (fun job hjob => ?_) (herror _)
  · exact follows_preflightAndSubmit (List.mem_singleton.1 hstate)
  refine follows_stage_bind (follows_stage (stageStates.drop 3) .confirming hjob (fun _ => ?_)
    (by decide) (by decide)) (fun job hjob => ?_) (herror _)
  · exact follows_heartbeat_bind hnil (follows_storeJob .beginConfirmation hnil rfl)
  refine follows_stage_bind (follows_confirmationStage hjob) (fun job hjob => ?_) (herror _)
  refine follows_stage_bind (follows_stage (stageStates.drop 5) .verified hjob (fun hstate => ?_)
    (by decide) (by decide)) (fun job hjob => ?_) (herror _)
  · exact follows_readback (List.mem_singleton.1 hstate)
  by_cases hstate : job.state = .verified
  · simp only [if_pos hstate]
    exact Follows.pure ⟨job, rfl, hstate⟩
  · simp only [if_neg hstate]
    have hterminal : job.state = .terminalFailed := by
      simpa [stageStates, hstate] using hjob
    refine Follows.pure ⟨job, rfl, [], rfl, .final _ hnil ?_ (by decide) rfl⟩
    rw [hterminal]
    decide

theorem follows_failOutboxRetryable {errorClass : String} {result : VerusWorkerResult}
    (h : ¬ Unrecorded answers)
    (hstate : job.state = .retryableFailed ∨ job.state = .reorgPending) :
    Follows (protocol options) (.working claim job answers)
      (failOutboxRetryable claim.id errorClass result) fun _ _ => True := by
  refine Follows.request_bind ⟨rfl, h, hstate⟩ fun state _ => ?_
  cases state with
  | deadLetter => exact ⟨rfl, fun _ _ => trivial⟩
  | _ => exact trivial

theorem follows_handleFailure {error : VerusIntegrationError} {state : VerusJobState}
    {attempt : Attempt} (hstate : state = job.state) (h : Thrown claim job error attempt) :
    Follows (protocol options) attempt (handleFailure claim.id state error) fun _ _ => True := by
  obtain ⟨answers, rfl, hcause⟩ := h
  subst hstate
  unfold handleFailure recordWhen
  split_ifs with hretryable hmem hmem
  · refine ⟨⟨rfl, error, hcause, hretryable, rfl, rfl⟩, fun next hnext => ?_⟩
    exact follows_failOutboxRetryable not_unrecorded_nil (Or.inl (hnext _ rfl))
  · exact absurd (hcause.state_of_retryable hretryable) hmem
  · refine ⟨⟨rfl, error, hcause, by simpa using hretryable, rfl⟩, fun next hnext => ?_⟩
    exact ⟨⟨rfl, not_unrecorded_nil, hnext _ rfl⟩, fun _ _ => trivial⟩
  · have hterminal : job.state = .terminalFailed := by
      refine hcause.state_mem.resolve_right fun hworking => hmem ?_
      simp only [List.mem_cons, List.not_mem_nil, or_false] at hworking ⊢
      tauto
    refine ⟨⟨rfl, fun hu => ?_, hterminal⟩, fun _ _ => trivial⟩
    have hpreflight := (hcause.of_unrecorded hu).2.1
    rw [hterminal] at hpreflight
    cases hpreflight

/-- A worker makes only the calls that the protocol allows. -/
theorem follows_processNext (options : VerusAnchorWorkerOptions) :
    Follows (protocol options) .waiting (processNext options) fun _ _ => True := by
  refine Follows.request_bind trivial fun _ _ => ?_
  split_ifs
  · refine Follows.request_bind trivial fun claim _ => ?_
    cases claim with
    | none => exact trivial
    | some claim =>
      refine Follows.request_bind trivial fun _ _ => Follows.request_bind rfl fun job _ => ?_
      refine Follows.bind (follows_attempt.mono ?_)
      rintro attempt (exit | ⟨⟩) houtcome
      · cases exit with
        | thrown state error =>
          obtain ⟨job, hstate, hthrown⟩ := houtcome
          exact follows_handleFailure hstate hthrown
        | reorg =>
          obtain ⟨job, rfl, hstate⟩ := houtcome
          exact follows_failOutboxRetryable not_unrecorded_nil (Or.inr hstate)
      · obtain ⟨job, rfl, hstate⟩ := houtcome
        exact ⟨⟨rfl, not_unrecorded_nil, hstate⟩, fun _ _ => trivial⟩
  · exact trivial

end Evidence

end ChecksAndBalances
