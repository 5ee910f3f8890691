import ChecksAndBalances.Worker.Ambiguity

/-!
# At most one write for a job

Between the answer to a write and the operation that records it nothing in the database tells of the
write.  A worker that crashes there, or whose event is taken over there, leaves the job to be written
again.  Where neither happens, and the flag of an ambiguous submission is kept, no write follows one
that had an effect.
-/

namespace ChecksAndBalances

open Lib Lib.Tx OutboxRepository VerusJobRepository

/-! ## Writes in the log -/

/-- The entry is the effective end of a write for the event. -/
def Entry.isEffect (eventId : Uuid) : Entry → Bool
  | .answered id _ exchange => id = eventId && isEffectiveWrite exchange
  | _ => false

/-- A write for the event had an effect, and no operation on its job came after. -/
def pendingWrite (eventId : Uuid) : List Entry → Bool
  | [] => false
  | .stored id _ _ :: earlier => id ≠ eventId && pendingWrite eventId earlier
  | entry :: earlier => entry.isEffect eventId || pendingWrite eventId earlier

/-- No write for the event had an effect so far. -/
def Unwritten (eventId : Uuid) (log : List Entry) : Prop :=
  ∀ entry ∈ log, entry.isEffect eventId = false

/-- Every write was sent when no write for the same event had had an effect. -/
def WrittenOnce (log : List Entry) : Prop :=
  Along (fun earlier entry => ∀ eventId n update, entry = .sent eventId n (.updateIdentity update) →
    Unwritten eventId earlier) log

section Log

variable {eventId : Uuid} {entry : Entry} {log : List Entry}

/-- An entry that is no effect on the event and no operation on its job. -/
def Entry.Idle (eventId : Uuid) (entry : Entry) : Prop :=
  entry.isEffect eventId = false ∧ ∀ n operation, entry ≠ .stored eventId n operation

theorem pendingWrite_idle (h : entry.Idle eventId) :
    pendingWrite eventId (entry :: log) = pendingWrite eventId log := by
  cases entry with
  | stored id n operation =>
    have hne : id ≠ eventId := by
      rintro rfl
      exact h.2 n operation rfl
    simp [pendingWrite, hne]
  | answered id n exchange =>
    show (Entry.isEffect eventId _ || _) = _
    rw [h.1, Bool.false_or]
  | enqueued => rfl
  | sent => rfl

theorem unwritten_idle (h : entry.Idle eventId) :
    Unwritten eventId (entry :: log) ↔ Unwritten eventId log := by
  simp [Unwritten, h.1]

end Log

section Job

variable [Host] {log : List Entry} {row new : VerusJobRow} {n : ℕ} {answers : List Exchange}

/-- A content that holds the digest of the manifest and names no transaction. -/
def foundBlank (manifest : VerusManifest) : Exchange → Bool
  | ⟨.getIdentityContent identity key, .ok content⟩ =>
    identity = manifest.targetIdentity && key = manifest.vdxfKey &&
      manifest.manifestDigest ∈ contentDigests manifest.vdxfKey content && content.transactionId = ""
  | _ => false

/-- A job that was written remembers it, or the operation that records the write is still to come. -/
def Accounted (log : List Entry) (row : VerusJobRow) : Prop :=
  Unwritten row.outboxEventId log ∨ row.toVerusJobCore.Remembers ∨
    pendingWrite row.outboxEventId log = true

/-- The current attempt on the job has the write that is not recorded yet. -/
structure Accounts (log : List Entry) (row : VerusJobRow) (n : ℕ) (answers : List Exchange) :
    Prop where
  accounted : Accounted log row
  pending : pendingWrite row.outboxEventId log = true → Unrecorded answers
  calm : row.toVerusJobCore.Unresolved → ¬ PlainFailure answers
  found : row.toVerusJobCore.Unresolved →
    ∀ exchange ∈ answers.head?, foundBlank row.toVerusManifest exchange = false

omit [Host] in
theorem Accounted.idle {entry : Entry} (h : Accounted log row)
    (hidle : entry.Idle row.outboxEventId) : Accounted (entry :: log) row := by
  unfold Accounted
  rw [unwritten_idle hidle, pendingWrite_idle hidle]
  exact h

theorem Accounts.idle {entry : Entry} (h : Accounts log row n answers)
    (hidle : entry.Idle row.outboxEventId) : Accounts (entry :: log) row n answers := by
  refine ⟨h.accounted.idle hidle, ?_, h.calm, h.found⟩
  rw [pendingWrite_idle hidle]
  exact h.pending

/-- An attempt without answers has nothing to record. -/
theorem Accounts.fresh (h : Accounted log row)
    (hnone : pendingWrite row.outboxEventId log = false) : Accounts log row n [] := by
  refine ⟨h, fun hpending => ?_, fun _ => ?_, fun _ _ hmem => by cases hmem⟩
  · rw [hnone] at hpending
    cases hpending
  · simp [PlainFailure]

theorem Accounts.not_pending (h : Accounts log row n answers) (hu : ¬ Unrecorded answers) :
    pendingWrite row.outboxEventId log = false := by
  rw [← Bool.not_eq_true]
  exact fun hpending => hu (h.pending hpending)

/-- The node answers the current attempt. -/
theorem Accounts.answer (h : Accounts log row n answers) (hu : ¬ Unrecorded answers)
    {exchange : Exchange}
    (hcalm : row.toVerusJobCore.Unresolved → isPlainFailure exchange = false ∧
      foundBlank row.toVerusManifest exchange = false) :
    Accounts (.answered row.outboxEventId n exchange :: log) row n (exchange :: answers) := by
  have hfree : row.toVerusJobCore.Unresolved → ¬ PlainFailure (exchange :: answers) := by
    intro hunresolved hplain
    have hplain : isPlainFailure exchange = true := hplain
    rw [(hcalm hunresolved).1] at hplain
    cases hplain
  have hfound : row.toVerusJobCore.Unresolved →
      ∀ x ∈ (exchange :: answers).head?, foundBlank row.toVerusManifest x = false := by
    intro hunresolved x hx
    rw [← Option.some.inj (show some exchange = some x from hx)]
    exact (hcalm hunresolved).2
  by_cases heffect : isEffectiveWrite exchange = true
  · have hpending : pendingWrite row.outboxEventId (.answered row.outboxEventId n exchange :: log) =
        true := by
      simp [pendingWrite, Entry.isEffect, heffect]
    exact ⟨Or.inr (Or.inr hpending), fun _ => heffect, hfree, hfound⟩
  · have hidle : (Entry.answered row.outboxEventId n exchange).Idle row.outboxEventId := by
      refine ⟨?_, fun _ _ heq => by cases heq⟩
      simpa [Entry.isEffect] using heffect
    have hnone := h.not_pending hu
    refine ⟨h.accounted.idle hidle, fun hpending => ?_, hfree, hfound⟩
    rw [pendingWrite_idle hidle, hnone] at hpending
    cases hpending

/-- An operation of the current attempt records its write. -/
theorem Accounts.stored {db : Db} {job : VerusJobRecord} {operation : JobOperation} {worker : String}
    {observedAt : ℤ} {anchors : List AnchorRecord} (h : Accounts log row n answers)
    (hrecord : toRecord db row = .ok job) (hdue : operation.Due job answers)
    (hmove : JobMove worker observedAt db row operation new anchors) :
    Accounts (.stored row.outboxEventId n operation :: log) new n [] := by
  have hkey : new.outboxEventId = row.outboxEventId := by cases hmove <;> rfl
  have hnone : pendingWrite new.outboxEventId (.stored row.outboxEventId n operation :: log) =
      false := by
    simp [pendingWrite, hkey]
  refine Accounts.fresh ?_ hnone
  by_cases hu : Unrecorded answers
  · exact Or.inr (Or.inl (hmove.remembers_of_unrecorded hu hdue))
  · rcases h.accounted with hunwritten | hremembers | hpending
    · left
      intro entry hentry
      rcases List.mem_cons.1 hentry with rfl | hentry
      · rfl
      · rw [hkey]
        exact hunwritten entry hentry
    · exact Or.inr (Or.inl (hmove.remembers hremembers hrecord hdue h.calm))
    · rw [h.not_pending hu] at hpending
      cases hpending

end Job

namespace System

variable {W : Type} [DecidableEq W] [Host] {options : W → VerusAnchorWorkerOptions}
  {s s' : System W} {act : Act W}

/-! ## Runs -/

/-- Writes are sent, and their effective ends received, in the current attempt of the event; no event
is taken while a write for it is not recorded; and an attempt on a job with an unresolved submission
neither ends in a plain failure nor finds a content without a transaction. -/
def RecordsWrites (s : System W) : Act W → Prop
  | .send w => ∀ thread update c, s.Asks w thread (.updateIdentity update) →
      thread.attempt.claim = some c → s.Current c
  | .receive w node => ∀ thread request c job answers, s.Asks w thread request →
      thread.attempt = .working c job answers →
      (isEffectiveWrite ⟨request, node request⟩ = true → s.Current c) ∧
        (job.toVerusJobCore.Unresolved → isPlainFailure ⟨request, node request⟩ = false ∧
          foundBlank job.toVerusManifest ⟨request, node request⟩ = false)
  | .store w observedAt locked => s.Polls w → ∀ o,
      candidate s.db.outbox observedAt (some [verusAnchorEventType]) true locked = some o →
      pendingWrite o.id s.log = false
  | _ => True

/-- Every answer in the log is to an attempt on an event of the outbox. -/
def Logged (s : System W) : Prop :=
  ∀ eventId n exchange, Entry.answered eventId n exchange ∈ s.log →
    ∃ o ∈ s.db.outbox, o.id = eventId

omit [DecidableEq W] [Host] in
/-- A new event has no entries. -/
theorem Logged.unwritten (h : s.Logged) {eventId : Uuid} (hfresh : ∀ o ∈ s.db.outbox, o.id ≠ eventId) :
    Unwritten eventId s.log := by
  intro entry hentry
  cases entry with
  | answered id n exchange =>
    obtain ⟨o, ho, hid⟩ := h id n exchange hentry
    have hne : id ≠ eventId := hid ▸ hfresh o ho
    simp [Entry.isEffect, hne]
  | _ => rfl

theorem Logged.step (h : s.Logged) (hsound : Sound options s) (hfencing : Fencing options s)
    (hstep : Step options s act s') : s'.Logged := by
  have hold : ∀ eventId n exchange, Entry.answered eventId n exchange ∈ s.log →
      ∃ o ∈ s'.db.outbox, o.id = eventId := by
    intro eventId n exchange hmem
    obtain ⟨o, ho, hid⟩ := h eventId n exchange hmem
    obtain ⟨o', ho', hid', -⟩ := (hstep.event hsound).attemptCount_le ho
    exact ⟨o', ho', hid'.trans hid⟩
  cases hstep with
  | enqueued =>
    intro eventId n exchange hmem
    rcases List.mem_cons.1 hmem with heq | hmem
    · cases heq
    · exact hold eventId n exchange hmem
  | committed w observedAt locked thread call k result db running next commits =>
    intro eventId n exchange hmem
    rcases List.mem_append.1 hmem with hnew | hmem
    · cases call with
      | job id operation =>
        simp only [Attempt.storeEntry, Attempt.entry] at hnew
        split at hnew
        · cases List.mem_singleton.1 hnew
        · cases hnew
      | _ => cases hnew
    · exact hold eventId n exchange hmem
  | sent w thread request k running next ready =>
    intro eventId n exchange hmem
    rcases List.mem_append.1 hmem with hnew | hmem
    · simp only [Attempt.entry] at hnew
      split at hnew
      · cases List.mem_singleton.1 hnew
      · cases hnew
    · exact hold eventId n exchange hmem
  | received w node thread request k running next waiting =>
    intro eventId n exchange hmem
    rcases List.mem_append.1 hmem with hnew | hmem
    · simp only [Attempt.entry] at hnew
      split at hnew
      · next c hclaim =>
        cases List.mem_singleton.1 hnew
        obtain ⟨o, hslot⟩ := hfencing.slot w thread c running hclaim
        exact ⟨o, hslot.mem, hslot.id⟩
      · cases hnew
    · exact hold eventId n exchange hmem
  | unchanged => exact hold
  | timestamp => exact hold
  | begun => exact hold
  | rejected => exact hold
  | crashed => exact hold

omit [DecidableEq W] in
theorem account_rules (hsound : Sound options s) (hlogged : s.Logged)
    (hwrites : s.RecordsWrites act) :
    Rules options Accounted Accounts s act := by
  refine ⟨?_, ?_, ?_, ?_, ?_, ?_⟩
  · intro input committeeId jobId eventId now db added
    left
    have hunwritten := hlogged.unwritten added.fresh
    intro entry hentry
    rcases List.mem_cons.1 hentry with rfl | hentry
    · rfl
    · exact hunwritten entry hentry
  · rintro w observedAt locked o row rfl hpolls hcandidate _ hkey haccounted
    refine Accounts.fresh haccounted ?_
    rw [hkey]
    exact hwrites hpolls o hcandidate
  · intro row _ entry haside
    have hidle : entry.Idle row.outboxEventId := by
      cases entry with
      | enqueued => exact ⟨rfl, fun _ _ heq => by cases heq⟩
      | sent => exact ⟨rfl, fun _ _ heq => by cases heq⟩
      | stored id n operation =>
        refine ⟨rfl, fun _ _ heq => haside ?_⟩
        injection heq
      | answered id n exchange =>
        refine ⟨?_, fun _ _ heq => by cases heq⟩
        by_cases hid : id = row.outboxEventId
        · -- An effective answer reaches the current attempt only.
          obtain ⟨w, node, thread, request, c, rfl, hasks, rfl, hclaim, hstale⟩ := haside hid
          obtain ⟨running, k, next⟩ := hasks
          obtain ⟨c', job, answers, hphase, -⟩ := hsound.working_of_rpc running next
          rw [hphase] at hclaim
          cases hclaim
          have heffect := (hwrites thread request c job answers ⟨running, k, next⟩ hphase).1
          cases hcase : isEffectiveWrite ⟨request, node request⟩ with
          | true => exact absurd (heffect hcase) hstale
          | false => simp [Entry.isEffect, hcase]
        · simp [Entry.isEffect, hid]
    exact ⟨fun h => h.idle hidle, fun n answers h => h.idle hidle⟩
  · rintro w node thread request c job answers row rfl hasks hphase _ hkey hrecord hallowed _ haccounts
    have hu : ¬ Unrecorded answers := by
      cases request with
      | updateIdentity => exact hallowed.1
      | _ => exact hallowed
    obtain ⟨-, hcalm⟩ := hwrites thread request c job answers hasks hphase
    have hanswer := haccounts.answer hu fun hunresolved => by
      rw [← (toRecord_eq hrecord).1]
      exact hcalm ((unresolved_record hrecord).2 hunresolved)
    rw [← hkey]
    exact ⟨hanswer.accounted, hanswer⟩
  · intro row new job answers operation worker observedAt anchors n _ hrecord hdue hmove _ haccounts
    have hstored := haccounts.stored hrecord hdue hmove
    exact ⟨hstored.accounted, hstored⟩
  · intro row n answers hu haccounts
    exact Accounts.fresh haccounts.accounted (haccounts.not_pending hu)

/-- What the writes of a run rest on. -/
structure Accounting (options : W → VerusAnchorWorkerOptions) (s : System W) : Prop where
  sound : Sound options s
  fencing : Fencing options s
  logged : s.Logged
  tracked : Tracked Accounted Accounts s
  once : WrittenOnce s.log

omit [DecidableEq W] in
/-- A write is sent only when none had an effect. -/
theorem Accounting.unwritten (h : Accounting options s) {w : W} {thread : Thread}
    {update : PreparedIdentityUpdate}
    {k : (Rpc.updateIdentity update).Result → Process VerusWorkerResult} {c : OutboxClaim}
    (running : s.threads w = some thread)
    (next : thread.process = .call (.rpc (.updateIdentity update)) k)
    (hclaim : thread.attempt.claim = some c) (hcurrent : s.Current c) : Unwritten c.id s.log := by
  obtain ⟨c', job, answers, hphase, hu, hstate, hunknown, hsearched, -⟩ :=
    h.sound.working_of_rpc running next
  have hc : c' = c := by
    rw [hphase] at hclaim
    exact Option.some.inj hclaim
  rw [hc] at hphase
  obtain ⟨row, hrow, hkey, hrecord⟩ :=
    h.fencing.record_of_current h.sound.ids running hphase hcurrent
  have haccounts := h.tracked.attempts w thread c running hclaim hcurrent row hrow hkey
  rw [hphase] at haccounts
  rcases haccounts.accounted with hunwritten | hremembers | hpending
  · rw [← hkey]
    exact hunwritten
  · -- The record has no transaction and is at work, so it has the flag and its content was found.
    exfalso
    rcases (remembers_record hrecord).2 hremembers with hflag | hknown | hterminal
    · obtain ⟨content, ⟨rest, rfl, hdigest⟩, hblank⟩ := hsearched hflag
      have hunresolved := (unresolved_record hrecord).1 ⟨hflag, hunknown⟩
      have hfound := haccounts.found hunresolved _ rfl
      rw [← (toRecord_eq hrecord).1] at hfound
      simp [foundBlank, hdigest, hblank] at hfound
    · rw [hunknown] at hknown
      cases hknown
    · rw [hstate] at hterminal
      cases hterminal
  · exact absurd (haccounts.pending hpending) hu

theorem Accounting.step (h : Accounting options s) (hfenced : Fenced options s act)
    (hwrites : s.RecordsWrites act) (hstep : Step options s act s') : Accounting options s' := by
  have htracked := h.tracked.step h.sound h.fencing (account_rules h.sound h.logged hwrites) hstep
  refine ⟨h.sound.step hstep, h.fencing.step h.sound hfenced hstep,
    h.logged.step h.sound h.fencing hstep, htracked, ?_⟩
  refine hstep.along_writes h.once ?_
  rintro w thread update k c rfl running next hclaim
  exact h.unwritten running next hclaim (hwrites thread update c ⟨running, k, next⟩ hclaim)

/-- In every run of workers of different names that meets the condition, a write is sent only if no
earlier write of the same job returned a transaction or ended ambiguously. -/
theorem written_once {s₀ : System W}
    (hnames : Function.Injective fun w => (options w).worker.workerReference) (hinit : s₀.Initial)
    (h : Reach (System.step options) RecordsWrites s₀ s) : WrittenOnce s.log := by
  have hinv : Accounting options s := by
    refine h.invariant (I := Accounting options) ?_ fun s act s' hinv hwrites hstep =>
      hinv.step (fenced_of_injective hnames s act) hwrites (step_inv hstep)
    refine ⟨hinit.sound, hinit.fencing, ?_, hinit.tracked, ?_⟩
    · intro eventId n exchange hmem
      rw [hinit.log] at hmem
      exact absurd hmem List.not_mem_nil
    · rw [hinit.log]
      trivial
  exact hinv.once

end System

namespace WorkerSample

/-- A test of the condition on writes. -/
def recordsWrites (s : System Bool) : Act Bool → Bool
  | .send w =>
    match s.threads w with
    | some { process := .call (.rpc (.updateIdentity _)) _, attempt, .. } =>
      attempt.claim.all fun c => s.db.outbox.any fun o => o.id = c.id && o.attemptCount = c.attempt
    | _ => true
  | .receive w node =>
    match s.threads w with
    | some { process := .call (.rpc request) _, attempt := .working c job _, .. } =>
      (!isEffectiveWrite ⟨request, node request⟩ ||
          s.db.outbox.any fun o => o.id = c.id && o.attemptCount = c.attempt) &&
        (!decide job.toVerusJobCore.Unresolved || !isPlainFailure ⟨request, node request⟩ &&
          !foundBlank job.toVerusManifest ⟨request, node request⟩)
    | _ => true
  | .store w observedAt locked =>
    match s.threads w with
    | some { process := .call (.store .claimNext) _, .. } =>
      (candidate s.db.outbox observedAt (some [verusAnchorEventType]) true locked).all fun o =>
        !pendingWrite o.id s.log
    | _ => true
  | _ => true

theorem current_of_any {s : System Bool} {c : OutboxClaim}
    (h : (s.db.outbox.any fun o => o.id = c.id && o.attemptCount = c.attempt) = true) :
    s.Current c := by
  simpa [System.Current] using h

theorem recordsWrites_of_test {s : System Bool} {act : Act Bool}
    (h : recordsWrites s act = true) : s.RecordsWrites act := by
  cases act with
  | send w =>
    rintro ⟨process, inFlight, attempt⟩ update c ⟨hthread, k, rfl⟩ hclaim
    simp only [recordsWrites, hthread, hclaim] at h
    exact current_of_any h
  | receive w node =>
    rintro ⟨process, inFlight, attempt⟩ request c job answers ⟨hthread, k, rfl⟩ rfl
    simp only [recordsWrites, hthread, Bool.and_eq_true, Bool.or_eq_true, Bool.not_eq_true',
      decide_eq_false_iff_not] at h
    obtain ⟨hcurrent, hcalm⟩ := h
    refine ⟨fun heffect => ?_, fun hunresolved => ?_⟩
    · rcases hcurrent with hnone | hcurrent
      · rw [heffect] at hnone
        cases hnone
      · exact current_of_any hcurrent
    · exact hcalm.resolve_left fun hnot => hnot hunresolved
  | store w observedAt locked =>
    rintro ⟨⟨process, inFlight, attempt⟩, k, hthread, rfl⟩ o hcandidate
    simp only [recordsWrites, hthread, hcandidate] at h
    simpa using h
  | _ => trivial

/-- A write whose outcome is lost is followed by a search and by no second write. -/
theorem written_once_after_loss : ∃ s,
    Reach (System.step twoWorkers) System.RecordsWrites start s ∧
      s.log.any (fun entry => s.db.outbox.any fun o => entry.isEffect o.id) = true ∧
      WrittenOnce s.log := by
  obtain ⟨s, hreach, heffect⟩ := exists_reach_of_any (System.step twoWorkers) (p := recordsWrites)
    start (losesWrite ++ searches) (fun _ _ => recordsWrites_of_test)
    (q := fun s => s.log.any fun entry => s.db.outbox.any fun o => entry.isEffect o.id)
    (by decide +kernel)
  exact ⟨s, hreach, heffect, System.written_once workers_injective start_initial hreach⟩

/-- A worker crashes after its write returned a transaction and before it is recorded; when the lease
has expired, the second worker takes the event over. -/
def crashesAfterWrite : List (Act Bool) :=
  writes ++ .receive true (node [] "") :: .crash true :: .begin false :: calls false 60000 5 ++
    asks false (node [] "") 3 ++ [.send false]

/-- The latest entry is a write for an event that was written with effect before. -/
def writesAgain : List Entry → Bool
  | .sent eventId _ (.updateIdentity _) :: earlier =>
    earlier.any fun entry => entry.isEffect eventId
  | _ => false

theorem not_writtenOnce_of_writesAgain {log : List Entry} (h : writesAgain log = true) :
    ¬ WrittenOnce log := by
  unfold writesAgain at h
  split at h
  · next eventId n update earlier =>
    obtain ⟨entry, hentry, heffect⟩ := List.any_eq_true.1 h
    intro honce
    have hunwritten := honce.1 eventId n update rfl entry hentry
    rw [heffect] at hunwritten
    cases hunwritten
  · cases h

/-- The second worker writes the job again. -/
theorem written_twice_after_crash : ∃ s,
    run (System.step twoWorkers) start crashesAfterWrite = some s ∧ ¬ WrittenOnce s.log := by
  obtain ⟨s, hrun, hagain⟩ := exists_run_of_any (System.step twoWorkers) start crashesAfterWrite
    (p := fun s => writesAgain s.log) (by decide +kernel)
  exact ⟨s, hrun, not_writtenOnce_of_writesAgain hagain⟩

end WorkerSample

end ChecksAndBalances
