import ChecksAndBalances.Worker.Current
import ChecksAndBalances.Worker.WriteGate

/-!
# The evidence of a verified job

A job is verified after three answers of the node, each looked for after the one before it was stored:
the transaction, its confirmation and the content that holds the digest.
-/

namespace ChecksAndBalances

open Lib Lib.Tx OutboxRepository VerusJobRepository

section Evidence

variable [Host]

/-! ## Evidence in the log -/

/-- The transaction was returned by an update of the job, or read with the digest of its manifest in
the content of its identity. -/
def Sourced (eventId : Uuid) (manifest : VerusManifest) (log : List Entry)
    (transactionId : String) : Prop :=
  (∃ n update id, Entry.answered eventId n ⟨.updateIdentity update, .ok id⟩ ∈ log ∧
    transactionId = id.val) ∨
  ∃ n content, Entry.answered eventId n
      ⟨.getIdentityContent manifest.targetIdentity manifest.vdxfKey, .ok content⟩ ∈ log ∧
    manifest.manifestDigest ∈ contentDigests manifest.vdxfKey content ∧
    content.transactionId = transactionId

/-- The stored transaction was recorded from a source, and `since` lists what happened after. -/
structure Submission (row : VerusJobRow) (transactionId : String) (since log : List Entry) : Prop where
  stored : row.transactionId = some transactionId
  recorded : ∃ n earlier,
    log = since ++ .stored row.outboxEventId n (.recordSubmission transactionId) :: earlier ∧
      Sourced row.outboxEventId row.toVerusManifest earlier transactionId

/-- What the node answered to an attempt on the job, as entries. -/
def heard (row : VerusJobRow) (n : ℕ) (answers : List Exchange) : List Entry :=
  answers.map (.answered row.outboxEventId n)

/-- The stored block is that of an inspection of the transaction, under the confirmation requirement
of the job, whose answers are in the list. -/
def Inspected (row : VerusJobRow) (transactionId : String) (since : List Entry) : Prop :=
  ∃ n trace confirmations blockHeight blockHash, row.blockHeight = some blockHeight ∧
    row.blockHash = some blockHash ∧
    (inspectTransactionConfirmation transactionId row.confirmationRequirement).run.Runs trace
      (.ok (.confirmed confirmations blockHeight blockHash)) ∧
    (heard row n trace.reverse).Sublist since

/-- The stored readback digest is that of the manifest, and a content in the list holds it. -/
def ReadBack (row : VerusJobRow) (since : List Entry) : Prop :=
  row.readbackDigest = some row.manifestDigest ∧ ∃ n content,
    Entry.answered row.outboxEventId n
      ⟨.getIdentityContent row.targetIdentity row.vdxfKey, .ok content⟩ ∈ since ∧
    row.manifestDigest ∈ contentDigests row.vdxfKey content

/-- The log holds the evidence of the job: first its transaction was stored, later an inspection
confirmed it, and later still the content was read back. -/
def Evidenced (row : VerusJobRow) (log : List Entry) : Prop :=
  ∃ transactionId later since, Submission row transactionId (later ++ since) log ∧
    Inspected row transactionId since ∧ ReadBack row later

/-- What the log holds of a job in each of its states, and of the answers to the attempt on it. -/
structure Phase (log : List Entry) (row : VerusJobRow) (n : ℕ) (answers : List Exchange) : Prop where
  told : ∀ entry ∈ heard row n answers, entry ∈ log
  sourced : ∀ transactionId, row.transactionId = some transactionId →
    Sourced row.outboxEventId row.toVerusManifest log transactionId
  submitted : row.state = .submitted ∨ row.state = .confirming →
    ∃ transactionId since, Submission row transactionId since log ∧
      (heard row n answers).Sublist since
  readback : row.state = .readback → ∃ transactionId later since,
    Submission row transactionId (later ++ since) log ∧ Inspected row transactionId since ∧
      (heard row n answers).Sublist later
  verified : row.state = .verified → Evidenced row log

variable {log : List Entry} {row new : VerusJobRow} {n : ℕ} {answers : List Exchange}
  {transactionId : String} {since : List Entry}

theorem Sourced.cons {eventId : Uuid} {manifest : VerusManifest} (entry : Entry)
    (h : Sourced eventId manifest log transactionId) :
    Sourced eventId manifest (entry :: log) transactionId := by
  rcases h with ⟨n, update, id, hmem, heq⟩ | ⟨n, content, hmem, hfound, heq⟩
  · exact Or.inl ⟨n, update, id, List.mem_cons_of_mem _ hmem, heq⟩
  · exact Or.inr ⟨n, content, List.mem_cons_of_mem _ hmem, hfound, heq⟩

theorem Submission.cons (entry : Entry) (h : Submission row transactionId since log) :
    Submission row transactionId (entry :: since) (entry :: log) := by
  obtain ⟨n, earlier, rfl, hsourced⟩ := h.recorded
  exact ⟨h.stored, n, earlier, rfl, hsourced⟩

theorem ReadBack.cons (entry : Entry) (h : ReadBack row since) : ReadBack row (entry :: since) := by
  obtain ⟨hdigest, n, content, hmem, hfound⟩ := h
  exact ⟨hdigest, n, content, List.mem_cons_of_mem _ hmem, hfound⟩

theorem Evidenced.cons (entry : Entry) (h : Evidenced row log) : Evidenced row (entry :: log) := by
  obtain ⟨transactionId, later, since, hsubmission, hinspected, hread⟩ := h
  exact ⟨transactionId, entry :: later, since, hsubmission.cons entry, hinspected, hread.cons entry⟩

/-- The answers may be fewer than those the log holds. -/
theorem Phase.of_sublist {m : ℕ} {answers' : List Exchange} (h : Phase log row n answers)
    (hsub : (heard row m answers').Sublist (heard row n answers)) : Phase log row m answers' := by
  refine ⟨fun entry hentry => h.told entry (hsub.subset hentry), h.sourced, ?_, ?_, h.verified⟩
  · intro hstate
    obtain ⟨transactionId, since, hsubmission, hheard⟩ := h.submitted hstate
    exact ⟨transactionId, since, hsubmission, hsub.trans hheard⟩
  · intro hstate
    obtain ⟨transactionId, later, since, hsubmission, hinspected, hheard⟩ := h.readback hstate
    exact ⟨transactionId, later, since, hsubmission, hinspected, hsub.trans hheard⟩

theorem Phase.forget (h : Phase log row n answers) (m : ℕ) : Phase log row m [] :=
  h.of_sublist (List.nil_sublist _)

/-- The log grows by one entry, and the answers perhaps by the same one. -/
theorem Phase.cons (entry : Entry) {answers' : List Exchange} (h : Phase log row n answers)
    (hsub : ∀ since, (heard row n answers).Sublist since →
      (heard row n answers').Sublist (entry :: since)) :
    Phase (entry :: log) row n answers' := by
  have htold : ∀ answer ∈ heard row n answers', answer ∈ entry :: log := by
    intro answer hanswer
    have hmem := (hsub _ (List.Sublist.refl _)).subset hanswer
    rcases List.mem_cons.1 hmem with heq | hmem
    · exact List.mem_cons.2 (Or.inl heq)
    · exact List.mem_cons_of_mem _ (h.told answer hmem)
  refine ⟨htold, fun id hid => (h.sourced id hid).cons entry, ?_, ?_, fun hstate =>
    (h.verified hstate).cons entry⟩
  · intro hstate
    obtain ⟨transactionId, since, hsubmission, hheard⟩ := h.submitted hstate
    exact ⟨transactionId, entry :: since, hsubmission.cons entry, hsub since hheard⟩
  · intro hstate
    obtain ⟨transactionId, later, since, hsubmission, hinspected, hheard⟩ := h.readback hstate
    exact ⟨transactionId, entry :: later, since, hsubmission.cons entry, hinspected,
      hsub later hheard⟩

/-- An entry beside the attempt. -/
theorem Phase.aside (entry : Entry) (h : Phase log row n answers) :
    Phase (entry :: log) row n answers :=
  h.cons entry fun _ hheard => hheard.cons entry

/-- An answer to the attempt. -/
theorem Phase.answer (exchange : Exchange) (h : Phase log row n answers) :
    Phase (.answered row.outboxEventId n exchange :: log) row n (exchange :: answers) :=
  h.cons _ fun _ hheard => hheard.cons_cons _

/-! ## One operation -/

/-- A row that was not submitted since and keeps its transaction. -/
theorem Phase.plain (h : Phase log row n answers) (entry : Entry)
    (hid : new.outboxEventId = row.outboxEventId) (hwork : new.toVerusManifest = row.toVerusManifest)
    (htransaction : new.transactionId = row.transactionId)
    (hstate : new.state ∉ [VerusJobState.submitted, .confirming, .readback, .verified]) :
    Phase (entry :: log) new n [] := by
  simp only [List.mem_cons, List.not_mem_nil, or_false, not_or] at hstate
  refine ⟨fun _ hmem => absurd hmem List.not_mem_nil, ?_, ?_, ?_, ?_⟩
  · intro transactionId hstored
    rw [hid, hwork]
    exact (h.sourced transactionId (htransaction.symm.trans hstored)).cons entry
  · rintro (heq | heq)
    · exact absurd heq hstate.1
    · exact absurd heq hstate.2.1
  · exact fun heq => absurd heq hstate.2.2.1
  · exact fun heq => absurd heq hstate.2.2.2

/-- The transaction that an attempt may record has a source. -/
theorem Phase.sourced_of_allowed {db : Db} {job : VerusJobRecord} (h : Phase log row n answers)
    (hrecord : toRecord db row = .ok job)
    (hallowed : (JobOperation.recordSubmission transactionId).Allowed job answers) :
    Sourced row.outboxEventId row.toVerusManifest log transactionId := by
  obtain ⟨hmanifest, -, -, hstored, -⟩ := toRecord_eq hrecord
  have htold : ∀ exchange ∈ answers, Entry.answered row.outboxEventId n exchange ∈ log :=
    fun exchange hexchange => h.told _ (List.mem_map_of_mem hexchange)
  rcases hallowed.2 with ⟨hknown, -⟩ | ⟨update, id, rest, rfl, rfl⟩ | ⟨-, content, hfound, heq⟩
  · rw [hstored] at hknown
    exact h.sourced transactionId (Option.filter_eq_some_iff.1 hknown).1
  · exact Or.inl ⟨n, update, id, htold _ List.mem_cons_self, rfl⟩
  · obtain ⟨rest, rfl, hdigest⟩ := hfound
    rw [← hmanifest]
    exact Or.inr ⟨n, content, htold _ List.mem_cons_self, hdigest, heq⟩

/-- A committed operation of the attempt keeps the evidence in step with the job. -/
theorem Phase.stored {db : Db} {job : VerusJobRecord} {operation : JobOperation} {worker : String}
    {observedAt : ℤ} {anchors : List AnchorRecord} (h : Phase log row n answers)
    (hrecord : toRecord db row = .ok job) (hdue : operation.Due job answers)
    (hmove : JobMove worker observedAt db row operation new anchors) :
    Phase (.stored row.outboxEventId n operation :: log) new n [] := by
  obtain ⟨hmanifest, -, -, hstored, -⟩ := toRecord_eq hrecord
  cases hmove with
  | loaded => exact (h.aside _).forget n
  | deadLettered errorClass released expected =>
    exact h.plain _ rfl rfl rfl (by simp [deadLettered])
  | moved operation x transition leased expected valid allowed =>
    have hnil : ∀ {entry : Entry}, entry ∈ heard (moved x.next x.evidence observedAt row) n [] →
        entry ∈ Entry.stored row.outboxEventId n operation :: log :=
      fun hmem => absurd hmem List.not_mem_nil
    cases operation with
    | recordSubmission transactionId =>
      cases transition
      have hsource := h.sourced_of_allowed hrecord hdue
      refine ⟨fun _ => hnil, ?_, ?_, nofun, nofun⟩
      · intro id hid
        rw [← Option.some.inj hid]
        exact hsource.cons _
      · intro _
        exact ⟨transactionId, [], ⟨rfl, n, log, rfl, hsource⟩, List.nil_sublist _⟩
    | beginConfirmation =>
      cases transition
      obtain ⟨id, since, hsubmission, -⟩ := h.submitted (Or.inl (List.mem_singleton.1 expected))
      have hlater := hsubmission.cons (.stored row.outboxEventId n .beginConfirmation)
      refine ⟨fun _ => hnil, fun id hid => (h.sourced id hid).cons _, ?_,
        nofun, nofun⟩
      exact fun _ => ⟨id, _, ⟨hlater.stored, hlater.recorded⟩, List.nil_sublist _⟩
    | beginReadback blockHeight blockHash =>
      cases transition
      obtain ⟨id, since, hsubmission, hheard⟩ :=
        h.submitted (Or.inr (List.mem_singleton.1 expected))
      obtain ⟨-, id', hid', trace, confirmations, rfl, hruns⟩ := hdue
      -- The inspected transaction is the stored one.
      obtain rfl : id' = id := by
        rw [hstored] at hid'
        exact Option.some.inj ((Option.filter_eq_some_iff.1 hid').1.symm.trans hsubmission.stored)
      have hlater := hsubmission.cons (.stored row.outboxEventId n (.beginReadback blockHeight blockHash))
      refine ⟨fun _ => hnil, fun id hid => (h.sourced id hid).cons _, ?_, ?_,
        nofun⟩
      · rintro (hstate | hstate) <;> cases hstate
      · intro _
        refine ⟨id', [_], since, ⟨hlater.stored, hlater.recorded⟩, ?_, List.nil_sublist _⟩
        refine ⟨n, trace, confirmations, blockHeight, blockHash, rfl, rfl, ?_, hheard⟩
        rw [show job.confirmationRequirement = row.confirmationRequirement from
          congrArg VerusManifest.confirmationRequirement hmanifest] at hruns
        exact hruns
    | verifyReadback digest =>
      cases transition
      obtain ⟨id, later, since, hsubmission, hinspected, hheard⟩ :=
        h.readback (List.mem_singleton.1 expected)
      obtain ⟨-, rfl, content, rest, rfl, hfound⟩ := hdue
      have hdigest : job.manifestDigest = row.manifestDigest :=
        congrArg VerusManifest.manifestDigest hmanifest
      have hkey : job.vdxfKey = row.vdxfKey := congrArg VerusManifest.vdxfKey hmanifest
      have hidentity : job.targetIdentity = row.targetIdentity :=
        congrArg VerusManifest.targetIdentity hmanifest
      rw [hdigest, hkey] at hfound
      rw [hkey, hidentity] at hheard
      have hlater := hsubmission.cons (.stored row.outboxEventId n (.verifyReadback job.manifestDigest))
      refine ⟨fun _ => hnil, fun id hid => (h.sourced id hid).cons _, ?_,
        nofun, fun _ => ?_⟩
      · rintro (hstate | hstate) <;> cases hstate
      · refine ⟨id, _ :: later, since, ⟨hlater.stored, hlater.recorded⟩, hinspected, ?_⟩
        exact ⟨congrArg some hdigest, n, content,
          List.mem_cons_of_mem _ (hheard.subset List.mem_cons_self), hfound⟩
    | loadForClaim => cases transition
    | markDeadLetter errorClass => cases transition
    | _ =>
      cases transition
      exact h.plain _ rfl rfl rfl (by simp [VerusJobRepository.moved])

end Evidence

namespace System

variable {W : Type} [DecidableEq W] [Host] {options : W → VerusAnchorWorkerOptions}
  {s s' : System W} {act : Act W}

omit [DecidableEq W] in
/-- Whatever happens to a job keeps the log in step with it. -/
theorem phase_rules (s : System W) (act : Act W) :
    Rules options (fun log row => Phase log row 0 []) Phase s act := by
  refine ⟨?_, ?_, ?_, ?_, ?_, ?_⟩
  · intro input committeeId jobId eventId now db _
    refine ⟨fun _ hmem => absurd hmem List.not_mem_nil, nofun, ?_, nofun, nofun⟩
    rintro (hstate | hstate) <;> cases hstate
  · intro w observedAt locked o row _ _ _ _ _ hphase
    exact hphase.forget _
  · intro row _ entry _
    exact ⟨fun hphase => hphase.aside entry, fun n answers hphase => hphase.aside entry⟩
  · intro w node thread request c job answers row _ _ _ _ hkey _ _ hrow hphase
    rw [← hkey]
    exact ⟨hrow.aside _, hphase.answer _⟩
  · intro row new job answers operation worker observedAt anchors n _ hrecord hdue hmove _ hphase
    have hstored := hphase.stored hrecord hdue hmove
    exact ⟨hstored.forget 0, hstored⟩
  · intro row n answers _ hphase
    exact hphase.forget n

/-- The log holds the evidence of every verified job, and its manifest is the enqueued one. -/
def VerifiedEvidenced (s : System W) : Prop :=
  ∀ row ∈ s.db.jobs, row.state = .verified → Evidenced row s.log ∧
    ∃ input, Entry.enqueued row.outboxEventId input ∈ s.log ∧
      row.toVerusManifest = input.toVerusManifest

/-- In every run of workers of different names, verified means evidenced. -/
theorem verified_evidenced {s₀ : System W}
    (hnames : Function.Injective fun w => (options w).worker.workerReference) (hinit : s₀.Initial)
    (h : Reach (System.step options) (fun _ _ => True) s₀ s) : s.VerifiedEvidenced := by
  obtain ⟨-, -, htracked⟩ := tracked_of_reach (P := fun log row => Phase log row 0 []) (Q := Phase)
    hinit (fun s act _ => fenced_of_injective hnames s act) (fun s act _ _ => phase_rules s act) h
  intro row hrow hstate
  exact ⟨(htracked.rows row hrow).verified hstate, (informed_of_reach hinit h).enqueued row hrow⟩

end System

namespace WorkerSample

/-- The identity's content after the write of the first job. -/
def written : (request : Rpc) → request.Result :=
  node [.str (toHex (encodeUtf8 (canonical "one")))] transaction.val

/-- A worker takes the first job from the queue to the end. -/
def verifies : List (Act Bool) :=
  writes ++ .receive true (node [] "") :: calls true 0 4 ++ asks true written 3 ++ calls true 0 2 ++
    asks true written 1 ++ calls true 0 1

theorem verified_evidenced_one_job : ∃ s,
    run (System.step (workers fun w => if w then 1 else 2)) start verifies = some s ∧
      s.db.jobs.map (fun row => row.state) = [.verified] ∧ s.VerifiedEvidenced := by
  obtain ⟨s, hrun, hstate⟩ := exists_run_of_any
    (System.step (workers fun w => if w then 1 else 2)) start verifies
    (p := fun s => s.db.jobs.map (fun row => row.state) = [.verified]) (by decide +kernel)
  exact ⟨s, hrun, of_decide_eq_true hstate, System.verified_evidenced workers_injective start_initial
    (reach_of_run hrun (allSteps_of_mem (fun _ _ _ => trivial) _))⟩

end WorkerSample

end ChecksAndBalances
