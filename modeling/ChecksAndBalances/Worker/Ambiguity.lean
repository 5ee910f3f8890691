import ChecksAndBalances.Worker.Agreement
import ChecksAndBalances.Worker.Current
import ChecksAndBalances.Worker.WriteGate

/-!
# Ambiguous submissions

`handleFailure` overwrites the flag of an ambiguous submission with that of the latest error.  The
flag is kept as long as no attempt on such a job gets an answer that ends it in a plain retryable
failure, and then every later attempt searches the content before it writes.
-/

namespace ChecksAndBalances

open Lib Lib.Tx OutboxRepository VerusJobRepository

/-! ## What a job remembers -/

/-- The submission of the job is ambiguous and no transaction is known. -/
def VerusJobCore.Unresolved (job : VerusJobCore) : Prop :=
  job.submissionAmbiguous = true ∧ present job.transactionId = none

/-- The job keeps its flag, has a transaction, or has failed for good. -/
def VerusJobCore.Remembers (job : VerusJobCore) : Prop :=
  job.submissionAmbiguous = true ∨ (present job.transactionId).isSome = true ∨
    job.state = .terminalFailed

instance (job : VerusJobCore) : Decidable job.Unresolved := inferInstanceAs (Decidable (_ ∧ _))

instance (job : VerusJobCore) : Decidable job.Remembers := inferInstanceAs (Decidable (_ ∨ _))

theorem present_present (value : Option String) : present (present value) = present value := by
  simp [present, Option.filter_filter]

section Job

variable {db : Db} {row new : VerusJobRow} {job : VerusJobRecord}

theorem unresolved_record (h : toRecord db row = .ok job) :
    job.toVerusJobCore.Unresolved ↔ row.toVerusJobCore.Unresolved := by
  obtain ⟨-, -, -, htransaction, hflag, -⟩ := toRecord_eq h
  rw [VerusJobCore.Unresolved, VerusJobCore.Unresolved, htransaction, hflag, present_present]

theorem remembers_record (h : toRecord db row = .ok job) :
    job.toVerusJobCore.Remembers ↔ row.toVerusJobCore.Remembers := by
  obtain ⟨-, -, hstate, htransaction, hflag, -⟩ := toRecord_eq h
  rw [VerusJobCore.Remembers, VerusJobCore.Remembers, htransaction, hflag, hstate, present_present]

theorem remembers_of_recorded {transactionId : String} {x : TransitionEvidence} {observedAt : ℤ}
    {next : VerusJobState} (hx : x.transactionId = some transactionId) (hvalid : ValidEvidence x) :
    (moved next x observedAt row).toVerusJobCore.Remembers := by
  right; left
  have hhex : isHex64 transactionId = true := by
    have hall := hvalid.hex.1
    rw [hx] at hall
    exact hall
  have hne : transactionId ≠ "" := by
    rintro rfl
    revert hhex
    decide
  simp [moved, hx, present, hne]

variable [Host] {operation : JobOperation} {answers : List Exchange} {worker : String}
  {observedAt : ℤ} {anchors : List AnchorRecord}

/-- An operation lets a job forget only after a plain failure. -/
theorem JobMove.remembers (h : row.toVerusJobCore.Remembers) (hrecord : toRecord db row = .ok job)
    (hdue : operation.Due job answers)
    (hcalm : row.toVerusJobCore.Unresolved → ¬ PlainFailure answers)
    (hmove : JobMove worker observedAt db row operation new anchors) :
    new.toVerusJobCore.Remembers := by
  cases hmove with
  | loaded => exact h
  | deadLettered => exact Or.inr (Or.inr rfl)
  | moved operation x transition leased expected valid allowed =>
    -- A job in one of the expected states has not failed for good.
    have hkeeps : x.evidence.transactionId = none → x.evidence.submissionAmbiguous = none →
        row.state ≠ .terminalFailed →
        (VerusJobRepository.moved x.next x.evidence observedAt row).toVerusJobCore.Remembers := by
      intro htransaction hflag hstate
      rcases h with hambiguous | hknown | hterminal
      · left
        simp [VerusJobRepository.moved, hflag, hambiguous]
      · right; left
        simpa [VerusJobRepository.moved, htransaction] using hknown
      · exact absurd hterminal hstate
    have hlive : x.expected.all (fun state => state ≠ .terminalFailed) = true →
        row.state ≠ .terminalFailed := by
      intro hall
      exact of_decide_eq_true (List.all_eq_true.1 hall row.state expected)
    cases operation with
    | recordSubmission transactionId =>
      cases transition
      exact remembers_of_recorded rfl valid
    | terminalFailure errorClass =>
      cases transition
      exact Or.inr (Or.inr rfl)
    | retryableFailure errorClass submissionAmbiguous =>
      cases transition
      obtain ⟨error, hcause, hretry, -, rfl⟩ := hdue
      cases hambiguous : error.submissionAmbiguous with
      | true => exact Or.inl rfl
      | false =>
        right; left
        have hsome : (present row.transactionId).isSome = true := by
          rcases hcause.plain hretry hambiguous with hsome | hplain
          · rw [(toRecord_eq hrecord).2.2.2.1] at hsome
            exact hsome
          · by_contra hnone
            have hpresent : present row.transactionId = none := by simpa using hnone
            rcases h with hflag | hknown | hterminal
            · exact hcalm ⟨hflag, hpresent⟩ hplain
            · exact hnone hknown
            · exact hlive rfl hterminal
        simpa [VerusJobRepository.moved] using hsome
    | loadForClaim => cases transition
    | markDeadLetter errorClass => cases transition
    | _ =>
      cases transition
      exact hkeeps rfl rfl (hlive rfl)

/-- The operation after an effective write remembers it. -/
theorem JobMove.remembers_of_unrecorded (hu : Unrecorded answers) (hdue : operation.Due job answers)
    (hmove : JobMove worker observedAt db row operation new anchors) :
    new.toVerusJobCore.Remembers := by
  cases hmove with
  | loaded =>
    obtain rfl : answers = [] := hdue
    exact absurd hu not_unrecorded_nil
  | deadLettered => exact Or.inr (Or.inr rfl)
  | moved operation x transition leased expected valid allowed =>
    cases operation with
    | recordSubmission transactionId =>
      cases transition
      exact remembers_of_recorded rfl valid
    | terminalFailure errorClass =>
      cases transition
      exact Or.inr (Or.inr rfl)
    | retryableFailure errorClass submissionAmbiguous =>
      cases transition
      obtain ⟨error, hcause, -, -, rfl⟩ := hdue
      left
      simp [VerusJobRepository.moved, (hcause.of_unrecorded hu).1]
    | loadForClaim => cases transition
    | markDeadLetter errorClass => cases transition
    | beginReadback => exact absurd hu hdue.1
    | verifyReadback => exact absurd hu hdue.1
    | _ => exact absurd hu hdue

end Job

namespace System

variable {W : Type} [DecidableEq W] [Host] {options : W → VerusAnchorWorkerOptions}
  {s s' : System W} {act : Act W}

/-! ## The flag in a run -/

/-- No attempt on a job with an unresolved submission gets an answer that ends it in a plain
failure. -/
def Calm (s : System W) : Act W → Prop
  | .receive w node => ∀ thread request c job answers, s.Asks w thread request →
      thread.attempt = .working c job answers → job.toVerusJobCore.Unresolved →
      isPlainFailure ⟨request, node request⟩ = false
  | _ => True

/-- The condition under which the flag is kept. -/
def FlagKept (options : W → VerusAnchorWorkerOptions) (s : System W) (act : Act W) : Prop :=
  Fenced options s act ∧ s.Calm act

/-- The jobs of the events remember. -/
def KeepsJobs (keep : Uuid → Prop) (_ : List Entry) (row : VerusJobRow) : Prop :=
  keep row.outboxEventId → row.toVerusJobCore.Remembers

/-- An attempt on a job that remembers had no plain failure while the submission is unresolved. -/
def KeepsCalm (keep : Uuid → Prop) (log : List Entry) (row : VerusJobRow) (_ : ℕ)
    (answers : List Exchange) : Prop :=
  KeepsJobs keep log row ∧ (row.toVerusJobCore.Unresolved → ¬ PlainFailure answers)

omit [DecidableEq W] in
theorem keeps_rules {keep : Uuid → Prop} (hcalm : s.Calm act)
    (hkeep : ∀ eventId, keep eventId → ∃ row ∈ s.db.jobs, row.outboxEventId = eventId) :
    Rules options (KeepsJobs keep) (KeepsCalm keep) s act := by
  have hnil : ¬ PlainFailure [] := by simp [PlainFailure]
  refine ⟨?_, ?_, ?_, ?_, ?_, ?_⟩
  · intro input committeeId jobId eventId now db added hid
    obtain ⟨row, hrow, hkey⟩ := hkeep eventId hid
    exact absurd hkey (added.freshJob row hrow)
  · intro w observedAt locked o row _ _ _ _ _ hrow
    exact ⟨hrow, fun _ => hnil⟩
  · intro row _ entry _
    exact ⟨fun hrow => hrow, fun n answers hrow => hrow⟩
  · rintro w node thread request c job answers row rfl hasks hphase _ _ hrecord _ hrow -
    refine ⟨hrow, hrow, fun hunresolved hplain => ?_⟩
    have hfree := hcalm thread request c job answers hasks hphase
      ((unresolved_record hrecord).2 hunresolved)
    have hplain : isPlainFailure ⟨request, node request⟩ = true := hplain
    rw [hfree] at hplain
    cases hplain
  · intro row new job answers operation worker observedAt anchors n _ hrecord hdue hmove hrow hcalm
    have hnew : KeepsJobs keep s.log new := by
      intro hid
      have hkey : new.outboxEventId = row.outboxEventId := by cases hmove <;> rfl
      exact hmove.remembers (hrow (hkey ▸ hid)) hrecord hdue hcalm.2
    exact ⟨hnew, hnew, fun _ => hnil⟩
  · intro row n answers _ hrow
    exact ⟨hrow.1, fun _ => hnil⟩

/-- An attempt that came after the first `n₀` ones works on a record that remembers. -/
def Heeds (eventId : Uuid) (n₀ : ℕ) (s : System W) : Prop :=
  ∀ w thread c job answers, s.threads w = some thread → thread.attempt = .working c job answers →
    c.id = eventId → n₀ < c.attempt → job.toVerusJobCore.Remembers

/-- Every write of a later attempt after `before` comes after a read of the job's content in the same
attempt. -/
def SearchesFirst (row : VerusJobRow) (n₀ : ℕ) (before log : List Entry) : Prop :=
  Along (fun earlier entry => ∀ eventId n update, entry = .sent eventId n (.updateIdentity update) →
    before <:+ earlier → eventId = row.outboxEventId → n₀ < n → ∃ content,
      Entry.answered eventId n
        ⟨.getIdentityContent row.targetIdentity row.vdxfKey, .ok content⟩ ∈ earlier) log

theorem Heeds.step {eventId : Uuid} {n₀ : ℕ} (h : s.Heeds eventId n₀) (hsound : Sound options s)
    (hjobs : ∀ row ∈ s'.db.jobs, row.outboxEventId = eventId → row.toVerusJobCore.Remembers)
    (hstep : Step options s act s') : s'.Heeds eventId n₀ := by
  intro w thread c job answers hthread hphase hid hlater
  cases hstep.working hsound hthread hphase with
  | same thread _ running phase => exact h w thread c job _ running phase hid hlater
  | answered thread request node answers k act_eq running next phase =>
    exact h w thread c job answers running phase hid hlater
  | stored observedAt locked thread operation k running next claim commits =>
    obtain ⟨row, new, hkey, hcommitted⟩ := JobOperation.exec_spec hsound.keys commits
    refine (remembers_record hcommitted.record).2 (hjobs new hcommitted.changed.new_mem ?_)
    rw [hcommitted.changed.key, hkey, hid]

omit [DecidableEq W] in
/-- A later attempt on a job that remembers has read the content when it writes. -/
theorem Heeds.searched {eventId : Uuid} {n₀ : ℕ} (h : s.Heeds eventId n₀)
    (hsound : Sound options s) (hinformed : s.Informed) {w : W} {thread : Thread}
    {update : PreparedIdentityUpdate}
    {k : (Rpc.updateIdentity update).Result → Process VerusWorkerResult} {c : OutboxClaim}
    {row : VerusJobRow} (running : s.threads w = some thread)
    (next : thread.process = .call (.rpc (.updateIdentity update)) k)
    (hclaim : thread.attempt.claim = some c) (hid : c.id = eventId) (hlater : n₀ < c.attempt)
    (hrow : row ∈ s.db.jobs) (hkey : row.outboxEventId = eventId) :
    ∃ content, Entry.answered c.id c.attempt
      ⟨.getIdentityContent row.targetIdentity row.vdxfKey, .ok content⟩ ∈ s.log := by
  obtain ⟨c', job, answers, hphase, -, hstate, hunknown, hsearched, -⟩ :=
    hsound.working_of_rpc running next
  rw [hphase] at hclaim
  cases hclaim
  have hflag : job.submissionAmbiguous = true := by
    rcases h w thread c job answers running hphase hid hlater with hflag | hknown | hterminal
    · exact hflag
    · rw [hunknown] at hknown
      cases hknown
    · rw [hstate] at hterminal
      cases hterminal
  obtain ⟨content, ⟨rest, rfl, -⟩, -⟩ := hsearched hflag
  obtain ⟨row', hrow', hkey', hmanifest⟩ := hinformed.known w thread c job _ running hphase
  rw [hsound.keys row' hrow' row hrow (hkey'.trans (hid.trans hkey.symm))] at hmanifest
  have htold := hinformed.told w thread c job _ running hphase _ List.mem_cons_self
  rw [← show row.targetIdentity = job.targetIdentity from
    congrArg VerusManifest.targetIdentity hmanifest, ← show row.vdxfKey = job.vdxfKey from
    congrArg VerusManifest.vdxfKey hmanifest] at htold
  exact ⟨content, htold⟩

theorem SearchesFirst.step {row₀ row : VerusJobRow} {n₀ : ℕ} {before : List Entry}
    (h : SearchesFirst row₀ n₀ before s.log) (hheeds : s.Heeds row₀.outboxEventId n₀)
    (hsound : Sound options s) (hinformed : s.Informed) (hrow : row ∈ s.db.jobs)
    (hsame : row₀.SameWork row) (hstep : Step options s act s') :
    SearchesFirst row₀ n₀ before s'.log := by
  refine hstep.along_writes h ?_
  rintro w thread update k c rfl running next hclaim - hid hlater
  rw [← show row.targetIdentity = row₀.targetIdentity from
    congrArg VerusManifest.targetIdentity hsame.2, ← show row.vdxfKey = row₀.vdxfKey from
    congrArg VerusManifest.vdxfKey hsame.2]
  exact hheeds.searched hsound hinformed running next hclaim hid hlater hrow hsame.1

omit [DecidableEq W] [Host] in
/-- No entry of the history comes after the whole of it. -/
theorem searchesFirst_refl (row : VerusJobRow) (n₀ : ℕ) (log : List Entry) :
    SearchesFirst row n₀ log log := by
  refine along_of_suffix fun earlier entry hsuffix eventId n update _ hbefore => ?_
  have hlength := hsuffix.length_le
  have hlength' := hbefore.length_le
  simp only [List.length_cons] at hlength
  omega

/-- What holds from the moment on at which the submission of the job is unresolved. -/
structure Sticky (options : W → VerusAnchorWorkerOptions) (row₀ : VerusJobRow) (n₀ : ℕ)
    (before : List Entry) (s : System W) : Prop where
  sound : Sound options s
  fencing : Fencing options s
  informed : s.Informed
  row : ∃ row ∈ s.db.jobs, row₀.SameWork row
  tracked : Tracked (KeepsJobs (· = row₀.outboxEventId)) (KeepsCalm (· = row₀.outboxEventId)) s
  heeds : s.Heeds row₀.outboxEventId n₀
  searches : SearchesFirst row₀ n₀ before s.log

theorem Sticky.step {row₀ : VerusJobRow} {n₀ : ℕ} {before : List Entry}
    (h : Sticky options row₀ n₀ before s) (hkept : FlagKept options s act)
    (hstep : Step options s act s') : Sticky options row₀ n₀ before s' := by
  obtain ⟨row, hrow, hsame⟩ := h.row
  obtain ⟨row', hrow', hsame'⟩ := hstep.sameWork h.sound row hrow
  have htracked := h.tracked.step h.sound h.fencing (keeps_rules hkept.2 (by
    rintro _ rfl
    exact ⟨row, hrow, hsame.1⟩)) hstep
  exact
    { sound := h.sound.step hstep
      fencing := h.fencing.step h.sound hkept.1 hstep
      informed := h.informed.step h.sound hstep
      row := ⟨row', hrow', hsame'.1.trans hsame.1, hsame'.2.trans hsame.2⟩
      tracked := htracked
      heeds := h.heeds.step h.sound (fun x hx hid => htracked.rows x hx hid) hstep
      searches := h.searches.step h.heeds h.sound h.informed hrow hsame hstep }

/-- The flag is sticky under the condition: from a state on in which the submission of a job is
unresolved, the job keeps its flag until it has a transaction or has failed for good, and every
attempt that starts later reads the content of the identity before it writes. -/
theorem ambiguity_kept {s₀ : System W} (hinit : s₀.Initial)
    (h : Reach (System.step options) (FlagKept options) s₀ s) {row : VerusJobRow}
    (hrow : row ∈ s.db.jobs) (hunresolved : row.toVerusJobCore.Unresolved)
    (h' : Reach (System.step options) (FlagKept options) s s') :
    (∃ row' ∈ s'.db.jobs, row.SameWork row' ∧ row'.toVerusJobCore.Remembers) ∧
      ∀ o ∈ s.db.outbox, o.id = row.outboxEventId →
        SearchesFirst row o.attemptCount s.log s'.log := by
  obtain ⟨hsound, hfencing, htracked⟩ := tracked_of_reach
    (P := KeepsJobs fun _ => False) (Q := KeepsCalm fun _ => False) hinit
    (fun s act hkept => hkept.1) (fun s act _ hkept => keeps_rules hkept.2 fun _ hno => hno.elim) h
  have hinformed := informed_of_reach hinit h
  have hrows : ∀ x ∈ s.db.jobs, KeepsJobs (· = row.outboxEventId) s.log x := by
    intro x hx hid
    rw [hsound.keys x hx row hrow hid]
    exact Or.inl hunresolved.1
  -- The number of attempts so far is any bound of those that have begun.
  have hsticky : ∀ n₀, (∀ w c, s.Holds w c → c.id = row.outboxEventId → c.attempt ≤ n₀) →
      Sticky options row n₀ s.log s' := by
    intro n₀ hbound
    refine h'.invariant (I := Sticky options row n₀ s.log) ?_ fun s act s' hsticky hkept hstep =>
      hsticky.step hkept (step_inv hstep)
    refine ⟨hsound, hfencing, hinformed, ⟨row, hrow, rfl, rfl⟩, ⟨hrows, ?_⟩, ?_,
      searchesFirst_refl row n₀ s.log⟩
    · intro w thread c running hclaim hcurrent x hx hkey
      exact ⟨hrows x hx, (htracked.attempts w thread c running hclaim hcurrent x hx hkey).2⟩
    · intro w thread c job answers running hphase hid hlater
      have hle := hbound w c ⟨thread, running, by rw [hphase]; rfl⟩ hid
      omega
  have hstarted : ∀ o ∈ s.db.outbox, o.id = row.outboxEventId →
      ∀ w c, s.Holds w c → c.id = row.outboxEventId → c.attempt ≤ o.attemptCount := by
    rintro o ho hid w c ⟨thread, running, hclaim⟩ hc
    obtain ⟨x, hslot⟩ := hfencing.slot w thread c running hclaim
    rw [hsound.ids o ho x hslot.mem (by rw [hid, hslot.id, hc])]
    exact hslot.started
  refine ⟨?_, fun o ho hid => (hsticky o.attemptCount (hstarted o ho hid)).searches⟩
  have hany : ∃ n₀, Sticky options row n₀ s.log s' := by
    by_cases hevent : ∃ o ∈ s.db.outbox, o.id = row.outboxEventId
    · obtain ⟨o, ho, hid⟩ := hevent
      exact ⟨_, hsticky o.attemptCount (hstarted o ho hid)⟩
    · refine ⟨0, hsticky 0 ?_⟩
      rintro w c ⟨thread, running, hclaim⟩ hc
      obtain ⟨x, hslot⟩ := hfencing.slot w thread c running hclaim
      exact absurd ⟨x, hslot.mem, hslot.id.trans hc⟩ hevent
  obtain ⟨n₀, hlast⟩ := hany
  obtain ⟨row', hrow', hsame⟩ := hlast.row
  exact ⟨row', hrow', hsame, hlast.tracked.rows row' hrow' hsame.1⟩

end System

namespace WorkerSample

/-- A node whose answer to a write is lost. -/
def lost (request : Rpc) : request.Result :=
  .error
    { code := .ambiguousSubmission
      message := "Verus write outcome is ambiguous and requires readback reconciliation"
      retryable := true, submissionAmbiguous := true }

/-- The first attempt loses the outcome of its write. -/
def losesWrite : List (Act Bool) := writes ++ .receive true lost :: calls true 0 2

/-- A later attempt searches the content and does not find the digest. -/
def searches : List (Act Bool) :=
  .begin true :: calls true 10000 7 ++ asks true (node [] "") 4 ++ calls true 10000 2

/-- No worker crashes. -/
def crashFree (acts : List (Act Bool)) : Bool :=
  acts.all fun
    | .crash _ => false
    | _ => true

/-- A test of the condition on answers. -/
def calm (s : System Bool) : Act Bool → Bool
  | .receive w node =>
    match s.threads w with
    | some { process := .call (.rpc request) _, attempt := .working _ job _, .. } =>
      !decide job.toVerusJobCore.Unresolved || !isPlainFailure ⟨request, node request⟩
    | _ => true
  | _ => true

theorem calm_of_test {s : System Bool} {act : Act Bool} (h : calm s act = true) : s.Calm act := by
  cases act with
  | receive w node =>
    rintro ⟨process, inFlight, attempt⟩ request c job answers ⟨hthread, k, rfl⟩ rfl hunresolved
    simp only [calm, hthread] at h
    simpa [hunresolved] using h
  | _ => trivial

/-- Two processes of different names. -/
abbrev twoWorkers : Bool → VerusAnchorWorkerOptions := workers fun w => if w then 1 else 2

/-- The condition on every step of workers of different names. -/
theorem flagKept_of_calm {s : System Bool} {act : Act Bool} (h : calm s act = true) :
    s.FlagKept twoWorkers act :=
  ⟨System.fenced_of_injective workers_injective s act, calm_of_test h⟩

/-- The content is searched in vain: the job keeps its flag. -/
theorem ambiguity_kept_after_search : ∃ s s' row,
    Reach (System.step twoWorkers) (System.FlagKept twoWorkers) start s ∧
      row ∈ s.db.jobs ∧ row.toVerusJobCore.Unresolved ∧
      Reach (System.step twoWorkers) (System.FlagKept twoWorkers) s s' ∧
      ∃ row' ∈ s'.db.jobs, row.SameWork row' ∧ row'.toVerusJobCore.Remembers := by
  obtain ⟨s, hreach, hs⟩ := exists_reach_of_any (System.step twoWorkers) (p := calm) start losesWrite
    (fun _ _ => flagKept_of_calm)
    (q := fun s => s.db.jobs.any (fun row => decide row.toVerusJobCore.Unresolved) &&
      (checkedRun (System.step twoWorkers) calm s searches).any fun _ => true) (by decide +kernel)
  rw [Bool.and_eq_true, List.any_eq_true] at hs
  obtain ⟨⟨row, hrow, hunresolved⟩, hs'⟩ := hs
  obtain ⟨s', hreach', -⟩ := exists_reach_of_any (System.step twoWorkers) (p := calm) s
    searches (fun _ _ => flagKept_of_calm) hs'
  have hunresolved := of_decide_eq_true hunresolved
  exact ⟨s, s', row, hreach, hrow, hunresolved, hreach',
    (System.ambiguity_kept start_initial hreach hrow hunresolved hreach').1⟩

/-- Without a crash: an attempt on a job with an unresolved submission meets a node that does not
respond, and the job forgets that it may have written. -/
theorem flag_cleared_by_outage : crashFree (losesWrite ++ failedAttempt true 10000) = true ∧ ∃ s s',
    run (System.step twoWorkers) start losesWrite = some s ∧
      run (System.step twoWorkers) s (failedAttempt true 10000) = some s' ∧
      (∃ row ∈ s.db.jobs, row.submissionAmbiguous = true ∧ row.transactionId = none) ∧
      ∀ row ∈ s'.db.jobs, row.submissionAmbiguous = false ∧ row.transactionId = none ∧
        row.state = .retryableFailed := by
  refine ⟨rfl, ?_⟩
  obtain ⟨s, s', hrun, hrun', hs, hs'⟩ := exists_runs
    (System.step twoWorkers) start losesWrite (failedAttempt true 10000)
    (p := fun s => s.db.jobs.any fun row =>
      decide (row.submissionAmbiguous = true ∧ row.transactionId = none))
    (q := fun s => s.db.jobs.all fun row => decide (row.submissionAmbiguous = false ∧
      row.transactionId = none ∧ row.state = .retryableFailed)) (by decide +kernel)
  rw [List.any_eq_true] at hs
  rw [List.all_eq_true] at hs'
  obtain ⟨row, hrow, hflag⟩ := hs
  exact ⟨s, s', hrun, hrun', ⟨row, hrow, of_decide_eq_true hflag⟩, fun row hrow =>
    of_decide_eq_true (hs' row hrow)⟩

end WorkerSample

end ChecksAndBalances
