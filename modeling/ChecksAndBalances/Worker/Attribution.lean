import ChecksAndBalances.Worker.Ambiguity
import ChecksAndBalances.Worker.Chain

/-!
# Whose transaction is recorded

After an ambiguous submission the transaction is read from the content of the identity, which names
the identity's most recent update.  It is a transaction of the job as long as that update is one of
the job's own when its digest is found.
-/

namespace ChecksAndBalances

open Lib Lib.Tx OutboxRepository VerusJobRepository

/-- The transaction was created by an update for the event. -/
def Created (updates : List ChainUpdate) (eventId : Uuid) (transactionId : String) : Prop :=
  ∃ u ∈ updates, u.eventId = eventId ∧ u.transactionId = transactionId

theorem Created.cons {updates : List ChainUpdate} {eventId : Uuid} {transactionId : String}
    (u : ChainUpdate) (h : Created updates eventId transactionId) :
    Created (u :: updates) eventId transactionId := by
  obtain ⟨v, hv, hid, heq⟩ := h
  exact ⟨v, List.mem_cons_of_mem _ hv, hid, heq⟩

/-- An answer of a node that names transactions: a write returns the transaction it created, and the
content of an identity names its most recent update. -/
def Reported (updates : List ChainUpdate) (c : OutboxClaim) : Exchange → Prop
  | ⟨.updateIdentity update, .ok id⟩ => ∃ u ∈ updates, u.eventId = c.id ∧ u.attempt = c.attempt ∧
      u.update = update ∧ u.transactionId = id.val
  | ⟨.getIdentityContent identity _, .ok content⟩ => ∀ u, latestUpdate updates identity = some u →
      content.transactionId = u.transactionId
  | _ => True

/-- Only the record of a submission changes the transaction of a job. -/
theorem JobMove.transactionId_eq {worker : String} {observedAt : ℤ} {db : Db}
    {operation : JobOperation} {row new : VerusJobRow} {anchors : List AnchorRecord}
    (h : JobMove worker observedAt db row operation new anchors) :
    new.transactionId = row.transactionId ∨ ∃ transactionId,
      operation = .recordSubmission transactionId ∧ new.transactionId = some transactionId := by
  cases h with
  | loaded => exact Or.inl rfl
  | deadLettered => exact Or.inl rfl
  | moved operation x transition =>
    cases operation with
    | recordSubmission transactionId =>
      cases transition
      exact Or.inr ⟨transactionId, rfl, rfl⟩
    | loadForClaim => cases transition
    | markDeadLetter => cases transition
    | _ =>
      cases transition
      exact Or.inl rfl

section Record

variable [Host]

/-- The transactions that an attempt on the event may record were created for it. -/
structure Attributed (updates : List ChainUpdate) (eventId : Uuid) (job : VerusJobRecord)
    (answers : List Exchange) : Prop where
  stored : ∀ transactionId, job.transactionId = some transactionId →
    Created updates eventId transactionId
  returned : ∀ transactionId, Returned answers transactionId →
    Created updates eventId transactionId
  found : job.state = .preflight → job.submissionAmbiguous = true → ∀ content,
    FoundContent job answers content → Created updates eventId content.transactionId

theorem Attributed.of_stored {updates : List ChainUpdate} {eventId : Uuid} {job : VerusJobRecord}
    (h : ∀ transactionId, job.transactionId = some transactionId →
      Created updates eventId transactionId) : Attributed updates eventId job [] := by
  refine ⟨h, ?_, ?_⟩
  · rintro transactionId ⟨update, id, rest, heq, -⟩
    cases heq
  · rintro _ _ content ⟨rest, heq, -⟩
    cases heq

/-- What an attempt may record was created for its event. -/
theorem Attributed.recorded {updates : List ChainUpdate} {eventId : Uuid} {job : VerusJobRecord}
    {answers : List Exchange} {transactionId : String} (h : Attributed updates eventId job answers)
    (hallowed : (JobOperation.recordSubmission transactionId).Allowed job answers) :
    Created updates eventId transactionId := by
  obtain ⟨hstate, ⟨hstored, -⟩ | hreturned | ⟨hflag, content, hfound, rfl⟩⟩ := hallowed
  · exact h.stored transactionId hstored
  · exact h.returned transactionId hreturned
  · exact h.found hstate hflag content hfound

theorem Attributed.cons {updates : List ChainUpdate} {eventId : Uuid} {job : VerusJobRecord}
    {answers : List Exchange} (u : ChainUpdate) (h : Attributed updates eventId job answers) :
    Attributed (u :: updates) eventId job answers :=
  ⟨fun id hid => (h.stored id hid).cons u, fun id hid => (h.returned id hid).cons u,
    fun hstate hflag content hfound => (h.found hstate hflag content hfound).cons u⟩

/-- The node answers an attempt. -/
theorem Attributed.answer {updates : List ChainUpdate} {c : OutboxClaim} {job : VerusJobRecord} {answers : List Exchange}
    {exchange : Exchange} (h : Attributed updates c.id job answers)
    (hreported : Reported updates c exchange)
    (hown : job.state = .preflight → job.submissionAmbiguous = true → ∀ content,
      FoundContent job [exchange] content →
      ∃ u, latestUpdate updates job.targetIdentity = some u ∧ u.eventId = c.id) :
    Attributed updates c.id job (exchange :: answers) := by
  refine ⟨h.stored, ?_, ?_⟩
  · rintro transactionId ⟨update, id, rest, heq, rfl⟩
    cases heq
    obtain ⟨u, hu, hid, -, -, htransaction⟩ := hreported
    exact ⟨u, hu, hid, htransaction⟩
  · rintro hstate hflag content ⟨rest, heq, hdigest⟩
    cases heq
    obtain ⟨u, hlatest, hid⟩ := hown hstate hflag content ⟨[], rfl, hdigest⟩
    exact ⟨u, List.mem_of_find?_eq_some hlatest, hid, (hreported u hlatest).symm⟩

end Record

namespace System

variable {W : Type} [DecidableEq W] [Host] {options : W → VerusAnchorWorkerOptions}
  {s s' : System W} {act : Act W} {updates : List ChainUpdate}

/-- Every transaction that is recorded, or may be, was created for its event. -/
structure Attribution (updates : List ChainUpdate) (s : System W) : Prop where
  recorded : ∀ eventId n transactionId,
    Entry.stored eventId n (.recordSubmission transactionId) ∈ s.log →
    Created updates eventId transactionId
  rows : ∀ row ∈ s.db.jobs, ∀ transactionId, row.transactionId = some transactionId →
    Created updates row.outboxEventId transactionId
  attempts : ∀ w thread c job answers, s.threads w = some thread →
    thread.attempt = .working c job answers → Attributed updates c.id job answers

omit [DecidableEq W] in
/-- What a working attempt records was created for its event. -/
theorem Attribution.created (h : Attribution updates s) (hsound : Sound options s) {w : W}
    {thread : Thread} {eventId : Uuid} {transactionId : String} {c : OutboxClaim}
    {k : (StoreCall.job eventId (.recordSubmission transactionId)).Result → Process VerusWorkerResult}
    (running : s.threads w = some thread)
    (next : thread.process = .call (.store (.job eventId (.recordSubmission transactionId))) k)
    (hclaim : thread.attempt.claim = some c) : Created updates c.id transactionId := by
  have hallows := hsound.allows running next
  cases hphase : thread.attempt with
  | working claim job answers =>
    rw [hphase] at hallows hclaim
    cases hclaim
    exact (h.attempts w thread c job answers running hphase).recorded hallows.2
  | _ =>
    rw [hphase] at hallows
    exact hallows.elim

omit [DecidableEq W] in
/-- The transaction of a job after an operation on it was created for its event. -/
theorem Attribution.changed (h : Attribution updates s) (hsound : Sound options s) {w : W}
    {observedAt : ℤ} {thread : Thread} {eventId : Uuid} {operation : JobOperation} {c : OutboxClaim}
    {k : (StoreCall.job eventId operation).Result → Process VerusWorkerResult}
    {result : VerusJobRecord} {db : Db} {row new : VerusJobRow} {worker : String}
    (running : s.threads w = some thread)
    (next : thread.process = .call (.store (.job eventId operation)) k)
    (hclaim : thread.attempt.claim = some c) (hkey : row.outboxEventId = c.id)
    (hcommitted : JobCommitted worker observedAt operation s.db db row new result)
    {transactionId : String} (hid : new.transactionId = some transactionId) :
    Created updates c.id transactionId := by
  rcases hcommitted.move.transactionId_eq with hsame | ⟨transactionId', rfl, hstored⟩
  · rw [← hkey]
    exact h.rows row hcommitted.changed.mem transactionId (hsame.symm.trans hid)
  · rw [hstored] at hid
    rw [← Option.some.inj hid]
    exact h.created hsound running next hclaim

/-- The answer adds nothing that was not created for the event. -/
def Receipt (updates : List ChainUpdate) (s : System W) : Act W → Prop
  | .receive w node => ∀ thread request c job answers, s.Asks w thread request →
      thread.attempt = .working c job answers → Reported updates c ⟨request, node request⟩ ∧
        (job.state = .preflight → job.submissionAmbiguous = true → ∀ content,
          FoundContent job [⟨request, node request⟩] content →
          ∃ u, latestUpdate updates job.targetIdentity = some u ∧ u.eventId = c.id)
  | _ => True

theorem Attribution.step (h : Attribution updates s) (hsound : Sound options s)
    (hreceipt : s.Receipt updates act) (hstep : Step options s act s') : Attribution updates s' := by
  refine ⟨?_, ?_, ?_⟩
  · -- Only a committed operation adds a record of a submission.
    intro eventId n transactionId hmem
    have hold := h.recorded eventId n transactionId
    cases hstep with
    | enqueued => exact hold ((List.mem_cons.1 hmem).resolve_left fun heq => by cases heq)
    | committed w observedAt locked thread call k result db running next commits =>
      refine (List.mem_append.1 hmem).elim (fun hnew => ?_) hold
      cases call with
      | job id operation =>
        simp only [Attempt.storeEntry, Attempt.entry] at hnew
        split at hnew
        · next c hclaim =>
          cases List.mem_singleton.1 hnew
          exact h.created hsound running next hclaim
        · cases hnew
      | _ => cases hnew
    | sent w thread request k running next ready =>
      refine (List.mem_append.1 hmem).elim (fun hnew => ?_) hold
      simp only [Attempt.entry] at hnew
      split at hnew
      · cases List.mem_singleton.1 hnew
      · cases hnew
    | received w node thread request k running next waiting =>
      refine (List.mem_append.1 hmem).elim (fun hnew => ?_) hold
      simp only [Attempt.entry] at hnew
      split at hnew
      · cases List.mem_singleton.1 hnew
      · cases hnew
    | unchanged => exact hold hmem
    | timestamp => exact hold hmem
    | begun => exact hold hmem
    | rejected => exact hold hmem
    | crashed => exact hold hmem
  · intro row hrow transactionId hid
    cases hstep with
    | enqueued input context job db added =>
      obtain ⟨committeeId, jobId, now, hjobs⟩ := added.job
      have hrow : row ∈ s.db.jobs ∨
          row = newJob input committeeId jobId job.outboxEventId now := by
        rw [← List.mem_singleton, ← List.mem_append, ← hjobs]
        exact hrow
      rcases hrow with hrow | rfl
      · exact h.rows row hrow transactionId hid
      · cases hid
    | committed w observedAt locked thread call k result db running next commits =>
      by_cases hjob : ∃ eventId operation, call = .job eventId operation
      · obtain ⟨eventId, operation, rfl⟩ := hjob
        obtain ⟨c, hclaim, rfl⟩ := (hsound.allows running next).claim_eq rfl
        obtain ⟨old, new, hkey, hcommitted⟩ := JobOperation.exec_spec hsound.keys commits
        rcases (hcommitted.changed.jobs row).1 hrow with rfl | ⟨hrow, -⟩
        · rw [hcommitted.changed.key, hkey]
          exact h.changed hsound running next hclaim hkey hcommitted hid
        · exact h.rows row hrow transactionId hid
      · have hjobs : db.jobs = s.db.jobs := congrArg Prod.fst
          (StoreCall.work_eq (fun e o he => hjob ⟨e, o, he⟩) commits)
        refine h.rows row ?_ transactionId hid
        rw [← hjobs]
        exact hrow
    | _ => exact h.rows row hrow transactionId hid
  · intro w thread c job answers hthread hphase
    cases hstep.working hsound hthread hphase with
    | same thread _ running phase => exact h.attempts w thread c job _ running phase
    | answered thread request node answers k act_eq running next phase =>
      subst act_eq
      obtain ⟨hreported, hown⟩ := hreceipt thread request c job answers ⟨running, k, next⟩ phase
      exact (h.attempts w thread c job answers running phase).answer hreported hown
    | stored observedAt locked thread operation k running next claim commits =>
      obtain ⟨old, new, hkey, hcommitted⟩ := JobOperation.exec_spec hsound.keys commits
      refine .of_stored fun transactionId hid => ?_
      rw [(toRecord_eq hcommitted.record).2.2.2.1] at hid
      exact h.changed hsound running next claim hkey hcommitted (Option.filter_eq_some_iff.1 hid).1

end System

namespace Chain

variable {W : Type} [DecidableEq W] [Host] {options : W → VerusAnchorWorkerOptions}
  {s s' : Chain W} {act : ChainAct W}

/-- Every answer names transactions as a node does. -/
def Reports (s : Chain W) : ChainAct W → Prop
  | .act (.receive w node) => ∀ thread request c, s.system.Asks w thread request →
      thread.attempt.claim = some c → Reported s.updates c ⟨request, node request⟩
  | _ => True

/-- When the search of an ambiguous submission finds the digest, the most recent update of the
identity is one of the job. -/
def FindsOwn (s : Chain W) : ChainAct W → Prop
  | .act (.receive w node) => ∀ thread request c job answers, s.system.Asks w thread request →
      thread.attempt = .working c job answers → job.state = .preflight →
      job.submissionAmbiguous = true → ∀ content, FoundContent job [⟨request, node request⟩] content →
      ∃ u, latestUpdate s.updates job.targetIdentity = some u ∧ u.eventId = c.id
  | _ => True

/-- Every recorded transaction was created by an update that was sent for the same event. -/
def RecordsOwn (s : Chain W) : Prop :=
  ∀ eventId n transactionId,
    Entry.stored eventId n (.recordSubmission transactionId) ∈ s.system.log →
    ∃ u ∈ s.updates, u.eventId = eventId ∧ u.transactionId = transactionId ∧
      Entry.sent eventId u.attempt (.updateIdentity u.update) ∈ s.system.log

/-- What the records of a run rest on. -/
structure Tracing (options : W → VerusAnchorWorkerOptions) (s : Chain W) : Prop where
  sound : System.Sound options s.system
  sent : ∀ u ∈ s.updates, Entry.sent u.eventId u.attempt (.updateIdentity u.update) ∈ s.system.log
  attribution : System.Attribution s.updates s.system

/-- A step of the workers. -/
theorem Tracing.acted (h : Tracing options s) {act : Act W} {system : System W}
    (hreceipt : s.system.Receipt s.updates act) (hstep : System.Step options s.system act system) :
    Tracing options { s with system } := by
  refine ⟨h.sound.step hstep, fun u hu => ?_, h.attribution.step h.sound hreceipt hstep⟩
  obtain ⟨new, hlog⟩ := hstep.log_suffix
  show _ ∈ system.log
  rw [hlog]
  exact List.mem_append_right _ (h.sent u hu)

omit [DecidableEq W] in
/-- A write that was sent takes effect. -/
theorem Tracing.cons (h : Tracing options s) {u : ChainUpdate}
    (hsent : Entry.sent u.eventId u.attempt (.updateIdentity u.update) ∈ s.system.log) :
    Tracing options { s with updates := u :: s.updates } := by
  refine ⟨h.sound, fun v hv => ?_, ?_, ?_, ?_⟩
  · rcases List.mem_cons.1 hv with rfl | hv
    · exact hsent
    · exact h.sent v hv
  · exact fun eventId n id hmem => (h.attribution.recorded eventId n id hmem).cons u
  · exact fun row hrow id hid => (h.attribution.rows row hrow id hid).cons u
  · exact fun w thread c job answers running hphase =>
      (h.attribution.attempts w thread c job answers running hphase).cons u

theorem Tracing.step (h : Tracing options s) (hreports : s.Reports act) (hown : s.FindsOwn act)
    (hstep : Step options s act s') : Tracing options s' := by
  cases hstep with
  | acted act system step =>
    refine h.acted ?_ step
    cases act with
    | receive w node =>
      intro thread request c job answers hasks hphase
      exact ⟨hreports thread request c hasks (by rw [hphase]; rfl),
        hown thread request c job answers hasks hphase⟩
    | _ => trivial
  | wrote w transactionId thread update k c system running next claim step sent =>
    refine Tracing.cons (h.acted ?_ step) sent
    trivial
  | created i transactionId eventId n update sent => exact h.cons sent

/-- The transaction that is recorded for a job is one that an update for the job created, in every run
in which the search of an ambiguous submission finds the job's own update as the most recent. -/
theorem records_own {s₀ : Chain W} (hinit : s₀.Initial)
    (h : Reach (Chain.step options) (fun s act => s.Reports act ∧ s.FindsOwn act) s₀ s) :
    s.RecordsOwn := by
  have hinv : Tracing options s := by
    refine h.invariant (I := Tracing options) ?_ fun s act s' hinv hcond hstep =>
      hinv.step hcond.1 hcond.2 (step_inv hstep)
    refine ⟨hinit.system.sound, ?_, ?_, ?_, ?_⟩
    · intro u hu
      rw [hinit.updates] at hu
      exact absurd hu List.not_mem_nil
    · intro eventId n id hmem
      rw [hinit.system.log] at hmem
      exact absurd hmem List.not_mem_nil
    · intro row hrow
      rw [hinit.system.jobs] at hrow
      exact absurd hrow List.not_mem_nil
    · intro w thread c job answers running
      rw [hinit.system.threads w] at running
      cases running
  intro eventId n transactionId hmem
  obtain ⟨u, hu, rfl, hid⟩ := hinv.attribution.recorded eventId n transactionId hmem
  exact ⟨u, hu, rfl, hid, hinv.sent u hu⟩

end Chain

namespace WorkerSample

/-- Two workers, and a chain without updates. -/
def chainStart : Chain Bool := { system := start, updates := [] }

theorem chainStart_initial : chainStart.Initial := ⟨start_initial, rfl⟩

/-- Steps of the workers. -/
def acts (acts : List (Act Bool)) : List (ChainAct Bool) := acts.map .act

/-- The first write takes effect and its answer is lost. -/
def losesAnswer : List (ChainAct Bool) :=
  acts writes.dropLast ++ .write true transaction.val :: acts (.receive true lost :: calls true 0 2)

/-- The key and the transaction of a second job. -/
def policyKey : String := "iQ5w3DRVthprX1NriFaSbKumMUpe9nyUAX"

def otherTransaction : String := "00000000000000000000000000000000000000000000000000000000000000cc"

/-- A second job on the same identity, under another key. -/
def policyInput : EnqueueVerusAnchorInput :=
  { input "two" with
    operationType := "policy_anchor"
    vdxfUri := "cbc-protocol-test.VRSCTEST::v1.anchor.policy"
    vdxfKey := policyKey }

/-- The node as it resolves the second key. -/
def policyNode : (request : Rpc) → request.Result
  | .getVdxfId _ => .ok ⟨policyKey⟩
  | request => node [.str (toHex (encodeUtf8 (canonical "one")))] transaction.val request

/-- The second job is written, and the answer to its write is lost, too. -/
def writesOther : List (ChainAct Bool) :=
  acts (.enqueue policyInput (context "two") :: .begin false :: calls false 10 7 ++
    asks false policyNode 3) ++ .write false otherTransaction ::
    acts (.receive false lost :: calls false 10 2)

/-- The first job is searched for at a node that names the given transaction, and recorded. -/
def findsFirst (latest : String) : List (ChainAct Bool) :=
  acts (.begin true :: calls true 70000 7 ++
    asks true (node [.str (toHex (encodeUtf8 (canonical "one")))] latest) 4 ++ calls true 70000 1)

/-- A test of what the node reports; it lets no write return. -/
def reports (s : Chain Bool) : ChainAct Bool → Bool
  | .act (.receive w node) =>
    match s.system.threads w with
    | some { process := .call (.rpc request) _, .. } =>
      match (⟨request, node request⟩ : Exchange) with
      | ⟨.updateIdentity _, .ok _⟩ => false
      | ⟨.getIdentityContent identity _, .ok content⟩ =>
        (latestUpdate s.updates identity).all fun u => content.transactionId = u.transactionId
      | _ => true
    | _ => true
  | _ => true

theorem reports_of_test {s : Chain Bool} {act : ChainAct Bool} (h : reports s act = true) :
    s.Reports act := by
  cases act with
  | act act =>
    cases act with
    | receive w node =>
      rintro ⟨process, inFlight, attempt⟩ request c ⟨hthread, k, rfl⟩ -
      simp only [reports, hthread] at h
      unfold Reported
      split at h
      · cases h
      · next identity key content heq =>
        simp only [heq]
        intro u hu
        rw [hu] at h
        exact of_decide_eq_true h
      · next hupdate hcontent =>
        split
        · next update id heq => exact absurd heq (hupdate update id)
        · next identity key content heq => exact absurd heq (hcontent identity key content)
        · trivial
    | _ => trivial
  | _ => trivial

/-- A test of what a search finds. -/
def findsOwn (s : Chain Bool) : ChainAct Bool → Bool
  | .act (.receive w _) =>
    match s.system.threads w with
    | some { process := .call (.rpc (.getIdentityContent _ _)) _, attempt := .working c job _, .. } =>
      !job.submissionAmbiguous ||
        (latestUpdate s.updates job.targetIdentity).any fun u => u.eventId = c.id
    | _ => true
  | _ => true

theorem findsOwn_of_test {s : Chain Bool} {act : ChainAct Bool} (h : findsOwn s act = true) :
    s.FindsOwn act := by
  cases act with
  | act act =>
    cases act with
    | receive w node =>
      rintro ⟨process, inFlight, attempt⟩ request c job answers ⟨hthread, k, rfl⟩ rfl - hflag content
        ⟨rest, heq, -⟩
      cases request with
      | getIdentityContent identity key =>
        simp only [findsOwn, hthread, hflag] at h
        obtain ⟨u, hlatest, hid⟩ := (Option.any_eq_true _ _).1 h
        exact ⟨u, hlatest, of_decide_eq_true hid⟩
      | _ => cases heq
    | _ => trivial
  | _ => trivial

/-- A test of both conditions. -/
theorem condition_of_test (s : Chain Bool) (act : ChainAct Bool)
    (h : (reports s act && findsOwn s act) = true) : s.Reports act ∧ s.FindsOwn act := by
  rw [Bool.and_eq_true] at h
  exact ⟨reports_of_test h.1, findsOwn_of_test h.2⟩

/-- A submission is recorded with a transaction that no update of its event created. -/
def recordsForeign (s : Chain Bool) : Bool :=
  s.system.log.any fun
    | .stored eventId _ (.recordSubmission transactionId) =>
      s.updates.all fun u => u.eventId ≠ eventId || u.transactionId ≠ transactionId
    | _ => false

theorem not_recordsOwn_of_foreign {s : Chain Bool} (h : recordsForeign s = true) :
    ¬ s.RecordsOwn := by
  obtain ⟨entry, hentry, hforeign⟩ := List.any_eq_true.1 h
  intro hown
  split at hforeign
  · next eventId n transactionId =>
    obtain ⟨u, hu, hid, htransaction, -⟩ := hown eventId n transactionId hentry
    have hother := List.all_eq_true.1 hforeign u hu
    simp [hid, htransaction] at hother
  · cases hforeign

/-- The search finds the job's own update. -/
theorem records_own_found : ∃ s,
    Reach (Chain.step twoWorkers) (fun s act => s.Reports act ∧ s.FindsOwn act) chainStart s ∧
      s.system.db.jobs.map (fun row => row.transactionId) = [some transaction.val] ∧
      s.RecordsOwn := by
  obtain ⟨s, hreach, hid⟩ := exists_reach_of_any (Chain.step twoWorkers)
    (p := fun s act => reports s act && findsOwn s act) chainStart
    (losesAnswer ++ findsFirst transaction.val) condition_of_test
    (q := fun s => s.system.db.jobs.map (fun row => row.transactionId) = [some transaction.val])
    (by decide +kernel)
  exact ⟨s, hreach, of_decide_eq_true hid, Chain.records_own chainStart_initial hreach⟩

/-- The answer to the first write is lost, another job on the identity is written under another key,
and the search of the first job finds its digest with the transaction of the other. -/
theorem other_transaction_recorded : ∃ s,
    Reach (Chain.step twoWorkers) Chain.Reports chainStart s ∧ ¬ s.RecordsOwn := by
  obtain ⟨s, hreach, hforeign⟩ := exists_reach_of_any (Chain.step twoWorkers) (p := reports)
    chainStart (losesAnswer ++ writesOther ++ findsFirst otherTransaction) (fun _ _ => reports_of_test)
    (q := recordsForeign) (by decide +kernel)
  exact ⟨s, hreach, not_recordsOwn_of_foreign hforeign⟩

end WorkerSample

end ChecksAndBalances
