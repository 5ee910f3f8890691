import ChecksAndBalances.Worker.Attribution
import ChecksAndBalances.Worker.WriteGate

/-!
# Two jobs on one identity

A write replaces the entries under its key, and the identity is free for the next job whenever an
attempt ends.  A job whose write took effect is read back as long as no other job writes the identity
before it is settled.
-/

namespace ChecksAndBalances

open Lib Lib.Tx OutboxRepository VerusJobRepository

/-! ## Settled jobs -/

/-- The job is verified or has failed for good. -/
def VerusJobCore.Settled (job : VerusJobCore) : Prop :=
  job.state = .verified ∨ job.state = .terminalFailed

instance (job : VerusJobCore) : Decidable job.Settled := inferInstanceAs (Decidable (_ ∨ _))

/-- Only a job that is not settled is moved. -/
theorem JobMove.not_settled {worker : String} {observedAt : ℤ} {db : Db} {operation : JobOperation}
    {row new : VerusJobRow} {anchors : List AnchorRecord}
    (h : JobMove worker observedAt db row operation new anchors) (hload : operation ≠ .loadForClaim) :
    ¬ row.toVerusJobCore.Settled := by
  cases h with
  | loaded => exact absurd rfl hload
  | deadLettered errorClass released expected =>
    rcases expected with hstate | hstate <;> simp [VerusJobCore.Settled, hstate]
  | moved operation x transition leased expected =>
    have hlive : x.expected.all (fun state => state ≠ .verified && state ≠ .terminalFailed) =
        true := by
      cases operation <;> cases transition <;> rfl
    have hstate := List.all_eq_true.1 hlive row.state expected
    rintro (hsettled | hsettled) <;> simp [hsettled] at hstate

/-- A settled job stays so. -/
theorem JobMove.settled {worker : String} {observedAt : ℤ} {db : Db} {operation : JobOperation}
    {row new : VerusJobRow} {anchors : List AnchorRecord}
    (h : JobMove worker observedAt db row operation new anchors)
    (hsettled : row.toVerusJobCore.Settled) : new.toVerusJobCore.Settled := by
  by_cases hload : operation = .loadForClaim
  · subst hload
    cases h with
    | loaded => exact hsettled
    | moved operation x transition => cases transition
  · exact absurd hsettled (h.not_settled hload)

namespace System

variable {W : Type} [DecidableEq W] [Host] {options : W → VerusAnchorWorkerOptions}
  {s s' : System W} {act : Act W}

/-- A job was there before the step, with the same work and settled if it was, or its event is new. -/
theorem Step.row_settled (hsound : Sound options s) (h : Step options s act s') :
    ∀ row' ∈ s'.db.jobs, (∀ row ∈ s.db.jobs, row.outboxEventId ≠ row'.outboxEventId) ∨
      ∃ row ∈ s.db.jobs, row.SameWork row' ∧
        (row.toVerusJobCore.Settled → row'.toVerusJobCore.Settled) := by
  cases h with
  | enqueued input context job db added =>
    intro row hrow
    obtain ⟨committeeId, jobId, now, hjobs⟩ := added.job
    have hrow : row ∈ s.db.jobs ∨
        row = newJob input committeeId jobId job.outboxEventId now := by
      rw [← List.mem_singleton, ← List.mem_append, ← hjobs]
      exact hrow
    rcases hrow with hrow | rfl
    · exact Or.inr ⟨row, hrow, ⟨rfl, rfl⟩, fun hsettled => hsettled⟩
    · exact Or.inl added.freshJob
  | committed w observedAt locked thread call k result db running next commits =>
    intro row' hrow'
    right
    by_cases hjob : ∃ eventId operation, call = .job eventId operation
    · obtain ⟨eventId, operation, rfl⟩ := hjob
      obtain ⟨old, new, -, hcommitted⟩ := JobOperation.exec_spec hsound.keys commits
      rcases (hcommitted.changed.jobs row').1 hrow' with rfl | ⟨hrow, -⟩
      · exact ⟨old, hcommitted.changed.mem, ⟨hcommitted.changed.key, hcommitted.move.manifest_eq⟩,
          hcommitted.move.settled⟩
      · exact ⟨row', hrow, ⟨rfl, rfl⟩, fun hsettled => hsettled⟩
    · have hjobs : db.jobs = s.db.jobs := congrArg Prod.fst
        (StoreCall.work_eq (fun e o he => hjob ⟨e, o, he⟩) commits)
      have hrow : row' ∈ s.db.jobs := by
        rw [← hjobs]
        exact hrow'
      exact ⟨row', hrow, ⟨rfl, rfl⟩, fun hsettled => hsettled⟩
  | _ => exact fun row hrow => Or.inr ⟨row, hrow, ⟨rfl, rfl⟩, fun hsettled => hsettled⟩

/-- The job of an event is settled. -/
def SettledJob (s : System W) (eventId : Uuid) : Prop :=
  ∃ row ∈ s.db.jobs, row.outboxEventId = eventId ∧ row.toVerusJobCore.Settled

theorem SettledJob.step {eventId : Uuid} (h : s.SettledJob eventId) (hsound : Sound options s)
    (hstep : Step options s act s') : s'.SettledJob eventId := by
  obtain ⟨row, hrow, hkey, hsettled⟩ := h
  obtain ⟨row', hrow', hsame⟩ := hstep.sameWork hsound row hrow
  refine ⟨row', hrow', hsame.1.trans hkey, ?_⟩
  rcases hstep.row_settled hsound row' hrow' with hnew | ⟨row₀, hrow₀, hsame₀, hkept⟩
  · exact absurd hsame.1.symm (hnew row hrow)
  · rw [hsound.keys row₀ hrow₀ row hrow (hsame₀.1.symm.trans hsame.1)] at hkept
    exact hkept hsettled

end System

/-! ## What the content holds -/

/-- An update for the event took effect. -/
def Took (updates : List ChainUpdate) (eventId : Uuid) : Prop := ∃ u ∈ updates, u.eventId = eventId

/-- It did before the log had more than `time` entries. -/
def TookBy (updates : List ChainUpdate) (eventId : Uuid) (time : ℕ) : Prop :=
  ∃ u ∈ updates, u.eventId = eventId ∧ u.time ≤ time

theorem TookBy.took {updates : List ChainUpdate} {eventId : Uuid} {time : ℕ}
    (h : TookBy updates eventId time) : Took updates eventId := by
  obtain ⟨u, hu, hid, -⟩ := h
  exact ⟨u, hu, hid⟩

theorem TookBy.of_cons {updates : List ChainUpdate} {eventId : Uuid} {time : ℕ} {u : ChainUpdate}
    (h : TookBy (u :: updates) eventId time) (hlate : time < u.time) :
    TookBy updates eventId time := by
  obtain ⟨v, hv, hid, htime⟩ := h
  rcases List.mem_cons.1 hv with rfl | hv
  · omega
  · exact ⟨v, hv, hid, htime⟩

theorem latestUpdate_cons_of_ne {updates : List ChainUpdate} {u : ChainUpdate} {identity : String}
    (h : u.update.identity.identityAddress ≠ identity) :
    latestUpdate (u :: updates) identity = latestUpdate updates identity := by
  simp [latestUpdate, h]

theorem latestUpdate_cons_self {updates : List ChainUpdate} {u : ChainUpdate} {identity : String}
    (h : u.update.identity.identityAddress = identity) :
    latestUpdate (u :: updates) identity = some u := by
  simp [latestUpdate, h]

/-- `FakeVerusRpcAdapter.getIdentityContent`: the identity, with the entries under a key alone where
one is given. -/
def VerusIdentityDefinition.contentUnder (identity : VerusIdentityDefinition) (vdxfKey : String) :
    VerusIdentityDefinition :=
  if vdxfKey.isEmpty then identity
  else
    { identity with
      contentMultiMap := [(vdxfKey, (identity.contentMultiMap.lookup vdxfKey).getD [])] }

@[simp] theorem VerusIdentityDefinition.lookup_contentUnder (identity : VerusIdentityDefinition)
    (vdxfKey : String) :
    (((identity.contentUnder vdxfKey).contentMultiMap.lookup vdxfKey).getD []) =
      (identity.contentMultiMap.lookup vdxfKey).getD [] := by
  unfold contentUnder
  split
  · rfl
  · simp

/-- An answer of `FakeVerusRpcAdapter`: reads of an identity return what its most recent update stored,
a write returns the transaction of an update, and the confirmations of a transaction only grow.  The
error of the readback is none of the adapter. -/
def Shown (updates : List ChainUpdate) (log : List Entry) : Exchange → Prop
  | ⟨.getIdentity identity, .ok answer⟩ => ∀ u, latestUpdate updates identity = some u →
      answer.identity = u.update.identity
  | ⟨.getIdentityContent identity key, .ok content⟩ => ∀ u, latestUpdate updates identity = some u →
      content.identity = u.update.identity.contentUnder key
  | ⟨.updateIdentity _, .ok id⟩ => ∃ u ∈ updates, u.transactionId = id.val
  | ⟨.getRawTransaction id, .ok transaction⟩ => ∀ eventId n before,
      Entry.answered eventId n ⟨.getRawTransaction id, .ok before⟩ ∈ log →
      before.confirmations ≤ transaction.confirmations
  | ⟨_, .error error⟩ => error.code ≠ .readbackMismatch
  | _ => True

section Content

variable [Host]

/-- The digests of the entries of an identity under a key. -/
def identityDigests (vdxfKey : String) (identity : VerusIdentityDefinition) : List String :=
  ((identity.contentMultiMap.lookup vdxfKey).getD []).filterMap digestCanonicalHexEntry

/-- The entry of the manifest is read back with its digest. -/
def EntryReads (manifest : VerusManifest) : Prop :=
  digestCanonicalHexEntry (.str (toHex (encodeUtf8 manifest.manifestCanonical))) =
    some manifest.manifestDigest

/-- The content of the identity holds the digest of the manifest. -/
def HoldsDigest (updates : List ChainUpdate) (manifest : VerusManifest) : Prop :=
  ∃ u, latestUpdate updates manifest.targetIdentity = some u ∧
    manifest.manifestDigest ∈ identityDigests manifest.vdxfKey u.update.identity

/-- A read of the content finds the digest that is there. -/
theorem Shown.found {updates : List ChainUpdate} {log : List Entry} {manifest : VerusManifest}
    {content : VerusIdentityResult}
    (h : Shown updates log
      ⟨.getIdentityContent manifest.targetIdentity manifest.vdxfKey, .ok content⟩)
    (hholds : HoldsDigest updates manifest) :
    manifest.manifestDigest ∈ contentDigests manifest.vdxfKey content := by
  obtain ⟨u, hlatest, hdigest⟩ := hholds
  have hcontent : content.identity = u.update.identity.contentUnder manifest.vdxfKey := h u hlatest
  unfold contentDigests
  rw [hcontent, VerusIdentityDefinition.lookup_contentUnder]
  exact hdigest

omit [Host] in
theorem Shown.error_ne {updates : List ChainUpdate} {log : List Entry} {request : Rpc}
    {error : VerusIntegrationError} (h : Shown updates log ⟨request, .error error⟩) :
    error.code ≠ .readbackMismatch := by
  cases request <;> exact h

/-- The identity that is written for a job holds its digest. -/
theorem WriteGate.digest_mem {options : VerusAnchorWorkerOptions} {manifest : VerusManifest}
    {answered : Exchange → Prop} {update : PreparedIdentityUpdate}
    (h : WriteGate options manifest answered update) (hreads : EntryReads manifest) :
    manifest.manifestDigest ∈ identityDigests manifest.vdxfKey update.identity := by
  obtain ⟨answer, -, -, map, hwritten, hentry, -⟩ := h.identity
  unfold identityDigests
  rw [hwritten]
  show _ ∈ ((map.lookup manifest.vdxfKey).getD []).filterMap digestCanonicalHexEntry
  rw [hentry]
  simp [show digestCanonicalHexEntry _ = some manifest.manifestDigest from hreads]

omit [Host] in
/-- It is the target identity of the job. -/
theorem WriteGate.address_eq {options : VerusAnchorWorkerOptions} {manifest : VerusManifest}
    {answered : Exchange → Prop} {update : PreparedIdentityUpdate}
    (h : WriteGate options manifest answered update) :
    update.identity.identityAddress = manifest.targetIdentity := by
  obtain ⟨answer, -, hsignable, map, hwritten, -⟩ := h.identity
  rw [hwritten]
  exact hsignable.1

/-! ## Excused failures -/

/-- The attempt read the content before any update for the job took effect, and found no digest. -/
def ReadEarly (updates : List ChainUpdate) (eventId : Uuid) (manifest : VerusManifest) (n : ℕ)
    (log : List Entry) : Prop :=
  ∃ content earlier, (Entry.answered eventId n
      ⟨.getIdentityContent manifest.targetIdentity manifest.vdxfKey, .ok content⟩ :: earlier) <:+ log ∧
    manifest.manifestDigest ∉ contentDigests manifest.vdxfKey content ∧
    ¬ TookBy updates eventId earlier.length

variable {updates : List ChainUpdate} {eventId : Uuid} {manifest : VerusManifest} {n : ℕ}
  {log log' : List Entry}

theorem ReadEarly.suffix (h : ReadEarly updates eventId manifest n log) (hlog : log <:+ log') :
    ReadEarly updates eventId manifest n log' := by
  obtain ⟨content, earlier, hread, hmissing, hearly⟩ := h
  exact ⟨content, earlier, hread.trans hlog, hmissing, hearly⟩

/-- A later update leaves the read early. -/
theorem ReadEarly.cons {u : ChainUpdate} (h : ReadEarly updates eventId manifest n log)
    (hlate : log.length ≤ u.time) : ReadEarly (u :: updates) eventId manifest n log := by
  obtain ⟨content, earlier, hread, hmissing, hearly⟩ := h
  refine ⟨content, earlier, hread, hmissing, fun htook => hearly (htook.of_cons ?_)⟩
  have hlength := hread.length_le
  rw [List.length_cons] at hlength
  omega

/-- A mismatch, or an ambiguous submission, is stored for a job only when its content was read before
an update for it took effect; an ambiguous submission also when the node itself reported one. -/
def Excused (updates : List ChainUpdate) (eventId : Uuid) (manifest : VerusManifest) (n : ℕ)
    (log : List Entry) : JobOperation → Prop
  | .terminalFailure errorClass => errorClass = "readback_mismatch" →
      ReadEarly updates eventId manifest n log
  | .retryableFailure _ true => ReadEarly updates eventId manifest n log ∨
      ∃ request error, Entry.answered eventId n ⟨request, .error error⟩ ∈ log ∧
        error.submissionAmbiguous = true
  | _ => True

theorem Excused.cons {u : ChainUpdate} {operation : JobOperation}
    (h : Excused updates eventId manifest n log operation) (hlate : log.length ≤ u.time) :
    Excused (u :: updates) eventId manifest n log operation := by
  unfold Excused at h ⊢
  split at h
  · exact fun hclass => (h hclass).cons hlate
  · exact h.imp_left fun hearly => hearly.cons hlate
  · trivial

/-- What the current answers of an attempt tell of the content. -/
structure Seen (updates : List ChainUpdate) (settled : Prop) (log : List Entry) (c : OutboxClaim)
    (job : VerusJobRecord) (answers : List Exchange) : Prop where
  missing : EntryReads job.toVerusManifest → ∀ content, MissingContent job answers content →
    settled ∨ ReadEarly updates c.id job.toVerusManifest c.attempt log
  error : ∀ request error rest, answers = ⟨request, .error error⟩ :: rest →
    error.code ≠ .readbackMismatch

theorem seen_nil {settled : Prop} {c : OutboxClaim} {job : VerusJobRecord} :
    Seen updates settled log c job [] := by
  refine ⟨?_, ?_⟩
  · rintro - content ⟨rest, heq, -⟩
    cases heq
  · intro request error rest heq
    cases heq

theorem Seen.mono {settled settled' : Prop} {c : OutboxClaim} {job : VerusJobRecord}
    {answers : List Exchange} (h : Seen updates settled log c job answers)
    (hsettled : settled → settled') (hlog : log <:+ log') :
    Seen updates settled' log' c job answers := by
  refine ⟨fun hreads content hmissing => ?_, h.error⟩
  rcases h.missing hreads content hmissing with hdone | hearly
  · exact Or.inl (hsettled hdone)
  · exact Or.inr (hearly.suffix hlog)

/-- The failures of an attempt are excused, or its job is settled already. -/
theorem Seen.excused {settled : Prop} {c : OutboxClaim} {job : VerusJobRecord}
    {answers : List Exchange} {operation : JobOperation}
    (h : Seen updates settled log c job answers)
    (htold : ∀ exchange ∈ answers, Entry.answered c.id c.attempt exchange ∈ log)
    (hallowed : operation.Allowed job answers) (hreads : EntryReads job.toVerusManifest)
    (hopen : ¬ settled) : Excused updates c.id job.toVerusManifest c.attempt log operation := by
  have hearly : ∀ content, MissingContent job answers content →
      ReadEarly updates c.id job.toVerusManifest c.attempt log :=
    fun content hmissing => (h.missing hreads content hmissing).resolve_left hopen
  unfold Excused
  split
  · next errorClass =>
    intro hclass
    obtain ⟨error, hcause, hfinal, rfl⟩ := hallowed
    have hcode : error.code = .readbackMismatch := by
      cases hcode : error.code <;> simp [hcode, VerusErrorCode.errorClass] at hclass ⊢
    cases hcause with
    | node request error rest latest => exact absurd hcode (h.error request error rest latest)
    | unsynced error failure idle working retryable =>
      rw [retryable] at hfinal
      cases hfinal
    | missing error content latest => exact hearly content latest
    | mismatch error content latest => exact hearly content latest
    | pending error idle working submitted other => exact absurd hcode other
    | final error idle working other => exact absurd hcode other
  · obtain ⟨error, hcause, hretry, -, hflag⟩ := hallowed
    cases hcause with
    | node request error rest latest =>
      refine Or.inr ⟨request, error, htold _ ?_, hflag.symm⟩
      rw [latest]
      exact List.mem_cons_self
    | unsynced error failure idle working retryable plain =>
      rw [plain] at hflag
      cases hflag
    | missing error content latest => exact Or.inl (hearly content latest)
    | mismatch error content latest => exact Or.inl (hearly content latest)
    | pending error idle working submitted other plain =>
      rw [plain] at hflag
      cases hflag
    | final error idle working other final =>
      rw [final] at hretry
      cases hretry
  · trivial

end Content

namespace Chain

variable {W : Type} [DecidableEq W] [Host] {options : W → VerusAnchorWorkerOptions}
  {s s' : Chain W} {act : ChainAct W}

/-! ## Runs at the fake adapter -/

/-- The node behaves as `FakeVerusRpcAdapter`: updates take effect as they are sent, and every answer
is one of the adapter. -/
def LikeFake (s : Chain W) : ChainAct W → Prop
  | .act (.receive w node) => ∀ thread request, s.system.Asks w thread request →
      Shown s.updates s.system.log ⟨request, node request⟩
  | .create _ _ => False
  | _ => True

/-- When an update takes effect, every other job on the identity that was written is settled. -/
def Spares (s : Chain W) : ChainAct W → Prop
  | .write w _ => ∀ c update, s.system.writing w = some (c, update) →
      ∀ row ∈ s.system.db.jobs, row.outboxEventId ≠ c.id →
      row.targetIdentity = update.identity.identityAddress → Took s.updates row.outboxEventId →
      row.toVerusJobCore.Settled
  | _ => True

/-- The failures of every job whose entry reads back are excused. -/
def Spared (s : Chain W) : Prop :=
  Along (fun earlier entry => ∀ eventId n operation, entry = .stored eventId n operation →
    ∃ row ∈ s.system.db.jobs, row.outboxEventId = eventId ∧ (EntryReads row.toVerusManifest →
      Excused s.updates eventId row.toVerusManifest n earlier operation)) s.system.log

/-- A written job that is not settled has its digest in the content of its identity. -/
def Kept (s : Chain W) : Prop :=
  ∀ row ∈ s.system.db.jobs, EntryReads row.toVerusManifest → Took s.updates row.outboxEventId →
    ¬ row.toVerusJobCore.Settled → HoldsDigest s.updates row.toVerusManifest

/-- What keeps two jobs on one identity apart. -/
structure Apart (options : W → VerusAnchorWorkerOptions) (s : Chain W) : Prop where
  sound : System.Sound options s.system
  informed : s.system.Informed
  known : ∀ u ∈ s.updates, ∃ row ∈ s.system.db.jobs, row.outboxEventId = u.eventId
  kept : s.Kept
  seen : ∀ w thread c job answers, s.system.threads w = some thread →
    thread.attempt = .working c job answers →
    Seen s.updates (s.system.SettledJob c.id) s.system.log c job answers
  spared : s.Spared

omit [DecidableEq W] in
theorem Initial.apart (h : s.Initial) : Apart options s := by
  refine ⟨h.system.sound, h.system.informed, ?_, ?_, ?_, ?_⟩
  · intro u hu
    rw [h.updates] at hu
    exact absurd hu List.not_mem_nil
  · intro row hrow
    rw [h.system.jobs] at hrow
    exact absurd hrow List.not_mem_nil
  · intro w thread c job answers running
    rw [h.system.threads w] at running
    cases running
  · unfold Spared
    rw [h.system.log]
    trivial

/-! ## A step of the workers -/

section Acted

variable {act : Act W} {system : System W}

theorem Apart.kept_acted (h : Apart options s) (hstep : System.Step options s.system act system) :
    Chain.Kept { s with system } := by
  intro row' hrow' hreads htook hopen
  rcases hstep.row_settled h.sound row' hrow' with hnew | ⟨row, hrow, hsame, hsettled⟩
  · obtain ⟨u, hu, hid⟩ := htook
    obtain ⟨row, hrow, hkey⟩ := h.known u hu
    exact absurd (hkey.trans hid) (hnew row hrow)
  · show HoldsDigest s.updates row'.toVerusManifest
    rw [hsame.1] at htook
    rw [hsame.2] at hreads ⊢
    exact h.kept row hrow hreads htook fun hdone => hopen (hsettled hdone)

/-- The node answers an attempt. -/
theorem Apart.seen_answered (h : Apart options s) {w : W} {thread : Thread} {c : OutboxClaim}
    {job : VerusJobRecord} {answers : List Exchange} {request : Rpc}
    {node : (request : Rpc) → request.Result}
    {k : request.Result → Process VerusWorkerResult}
    (hshown : Shown s.updates s.system.log ⟨request, node request⟩)
    (running : s.system.threads w = some thread) (phase : thread.attempt = .working c job answers)
    (next : thread.process = .call (.rpc request) k)
    (hstep : System.Step options s.system (.receive w node) system) :
    Seen s.updates (system.SettledJob c.id) system.log c job
      (⟨request, node request⟩ :: answers) := by
  have hlog : system.log = .answered c.id c.attempt ⟨request, node request⟩ :: s.system.log := by
    cases hstep with
    | received _ _ thread' request' k' running' next' waiting =>
      rw [running] at running'
      cases running'
      rw [next] at next'
      cases next'
      rw [phase]
      rfl
  refine ⟨?_, ?_⟩
  · rintro hreads content ⟨rest, heq, hmissing⟩
    obtain ⟨hexchange, -⟩ := List.cons.inj heq
    rw [hexchange] at hshown hlog
    obtain ⟨row, hrow, hkey, hmanifest⟩ := h.informed.known w thread c job answers running phase
    by_cases hdone : row.toVerusJobCore.Settled
    · exact Or.inl (System.SettledJob.step ⟨row, hrow, hkey, hdone⟩ h.sound hstep)
    by_cases htook : Took s.updates c.id
    · -- A written job would have been found.
      have hholds : HoldsDigest s.updates job.toVerusManifest := by
        rw [← hmanifest] at hreads ⊢
        rw [← hkey] at htook
        exact h.kept row hrow hreads htook hdone
      exact absurd (hshown.found hholds) hmissing
    · refine Or.inr ⟨content, s.system.log, ?_, hmissing, fun hby => htook hby.took⟩
      rw [hlog]
  · intro request' error rest heq
    obtain ⟨hexchange, -⟩ := List.cons.inj heq
    rw [hexchange] at hshown
    exact hshown.error_ne

omit [DecidableEq W] in
/-- A committed operation is excused. -/
theorem Apart.excused (h : Apart options s) {w : W} {observedAt : ℤ} {locked : List Uuid}
    {thread : Thread} {eventId : Uuid} {operation : JobOperation}
    {k : (StoreCall.job eventId operation).Result → Process VerusWorkerResult}
    {result : VerusJobRecord} {c : OutboxClaim} (running : s.system.threads w = some thread)
    (next : thread.process = .call (.store (.job eventId operation)) k)
    (hclaim : thread.attempt.claim = some c)
    (commits : Commits ((StoreCall.job eventId operation).exec (options w) observedAt locked)
      s.system.db result system.db) :
    ∃ row ∈ system.db.jobs, row.outboxEventId = eventId ∧ (EntryReads row.toVerusManifest →
      Excused s.updates eventId row.toVerusManifest c.attempt s.system.log operation) := by
  obtain ⟨old, new, hkey, hcommitted⟩ := JobOperation.exec_spec h.sound.keys commits
  refine ⟨new, hcommitted.changed.new_mem, hcommitted.changed.key.trans hkey, fun hreads => ?_⟩
  rw [hcommitted.move.manifest_eq] at hreads ⊢
  have hallows := h.sound.allows running next
  cases hphase : thread.attempt with
  | working claim job answers =>
    rw [hphase] at hallows hclaim
    cases hclaim
    obtain ⟨rfl, hallowed⟩ := hallows
    obtain ⟨row, hrow, hid, hmanifest⟩ := h.informed.known w thread c job answers running hphase
    rw [h.sound.keys row hrow old hcommitted.changed.mem (hid.trans hkey.symm)] at hmanifest
    rw [hmanifest] at hreads ⊢
    refine (h.seen w thread c job answers running hphase).excused
      (h.informed.told w thread c job answers running hphase) hallowed hreads ?_
    rintro ⟨row', hrow', hid', hsettled⟩
    rw [h.sound.keys row' hrow' old hcommitted.changed.mem (hid'.trans hkey.symm)] at hsettled
    refine hcommitted.move.not_settled ?_ hsettled
    rintro rfl
    exact hallowed
  | claimed claim =>
    rw [hphase] at hallows
    cases operation with
    | loadForClaim => trivial
    | _ => exact hallows.elim
  | deadLettered claim =>
    rw [hphase] at hallows
    cases operation with
    | markDeadLetter => trivial
    | _ => exact hallows.elim
  | waiting =>
    rw [hphase] at hallows
    exact hallows.elim
  | released =>
    rw [hphase] at hallows
    exact hallows.elim

theorem Apart.acted (h : Apart options s)
    (hshown : ∀ w node, act = .receive w node → ∀ thread request, s.system.Asks w thread request →
      Shown s.updates s.system.log ⟨request, node request⟩)
    (hstep : System.Step options s.system act system) : Apart options { s with system } := by
  obtain ⟨entries, hlog⟩ := hstep.log_suffix
  have hsuffix : s.system.log <:+ system.log := ⟨entries, hlog.symm⟩
  refine ⟨h.sound.step hstep, h.informed.step h.sound hstep, ?_, h.kept_acted hstep, ?_, ?_⟩
  · intro u hu
    obtain ⟨row, hrow, hkey⟩ := h.known u hu
    obtain ⟨row', hrow', hsame⟩ := hstep.sameWork h.sound row hrow
    exact ⟨row', hrow', hsame.1.trans hkey⟩
  · intro w thread c job answers hthread hphase
    cases hstep.working h.sound hthread hphase with
    | same thread _ running phase =>
      exact (h.seen w thread c job _ running phase).mono (fun hdone => hdone.step h.sound hstep)
        hsuffix
    | answered thread request node answers k act_eq running next phase =>
      subst act_eq
      exact h.seen_answered (hshown w node rfl thread request ⟨running, k, next⟩) running phase next
        hstep
    | stored => exact seen_nil
  · refine hstep.along_operations ?_ ?_ h.sound
    · refine Along.mono ?_ h.spared
      intro earlier entry hentry eventId n operation heq
      obtain ⟨row, hrow, hkey, hexcused⟩ := hentry eventId n operation heq
      obtain ⟨row', hrow', hsame⟩ := hstep.sameWork h.sound row hrow
      refine ⟨row', hrow', hsame.1.trans hkey, ?_⟩
      rw [hsame.2]
      exact hexcused
    · intro w observedAt locked thread eventId operation k result c running next hclaim commits
      exact h.excused running next hclaim commits

end Acted

/-! ## An update takes effect -/

omit [DecidableEq W] in
theorem Apart.cons (h : Apart options s) {u : ChainUpdate} (hlate : s.system.log.length ≤ u.time)
    (hwritten : ∃ row ∈ s.system.db.jobs, row.outboxEventId = u.eventId ∧
      ∃ w answered, WriteGate (options w) row.toVerusManifest answered u.update)
    (hspares : ∀ row ∈ s.system.db.jobs, row.outboxEventId ≠ u.eventId →
      row.targetIdentity = u.update.identity.identityAddress → Took s.updates row.outboxEventId →
      row.toVerusJobCore.Settled) : Apart options { s with updates := u :: s.updates } := by
  obtain ⟨own, hown, hkey, w, answered, hgate⟩ := hwritten
  refine ⟨h.sound, h.informed, ?_, ?_, ?_, ?_⟩
  · intro v hv
    rcases List.mem_cons.1 hv with rfl | hv
    · exact ⟨own, hown, hkey⟩
    · exact h.known v hv
  · intro row hrow hreads htook hopen
    show HoldsDigest (u :: s.updates) row.toVerusManifest
    by_cases hid : row.outboxEventId = u.eventId
    · obtain rfl := h.sound.keys row hrow own hown (hid.trans hkey.symm)
      exact ⟨u, latestUpdate_cons_self hgate.address_eq, hgate.digest_mem hreads⟩
    · obtain ⟨v, hv, hvid⟩ := htook
      have hold : Took s.updates row.outboxEventId := by
        rcases List.mem_cons.1 hv with rfl | hv
        · exact absurd hvid.symm hid
        · exact ⟨v, hv, hvid⟩
      have hother : u.update.identity.identityAddress ≠ row.targetIdentity :=
        fun heq => hopen (hspares row hrow hid heq.symm hold)
      unfold HoldsDigest
      rw [latestUpdate_cons_of_ne hother]
      exact h.kept row hrow hreads hold hopen
  · intro w thread c job answers running hphase
    have hseen := h.seen w thread c job answers running hphase
    refine ⟨fun hreads content hmissing => ?_, hseen.error⟩
    exact (hseen.missing hreads content hmissing).imp_right fun hearly => hearly.cons hlate
  · refine along_of_suffix fun earlier entry hsuffix eventId n operation heq => ?_
    obtain ⟨later, hlog⟩ := hsuffix
    have hspared := h.spared
    unfold Spared at hspared
    rw [← hlog] at hspared
    obtain ⟨row, hrow, hid, hexcused⟩ := hspared.at eventId n operation heq
    refine ⟨row, hrow, hid, fun hreads => (hexcused hreads).cons ?_⟩
    rw [← hlog] at hlate
    simp only [List.length_append, List.length_cons] at hlate
    omega

theorem Apart.step (h : Apart options s) (hfake : s.LikeFake act) (hspares : s.Spares act)
    (hstep : Step options s act s') : Apart options s' := by
  cases hstep with
  | acted act system step =>
    refine h.acted ?_ step
    rintro w node rfl thread request hasks
    exact hfake thread request hasks
  | wrote w transactionId thread update k c system running next claim step sent =>
    have hjobs : system.db = s.system.db := by
      cases step
      rfl
    refine Apart.cons (h.acted (fun _ _ heq => by cases heq) step) le_rfl ?_ ?_
    · obtain ⟨row, hrow, hkey, hgate⟩ := System.gate_of_update h.sound h.informed running next claim
      refine ⟨row, ?_, hkey, w, _, hgate⟩
      show row ∈ system.db.jobs
      rw [hjobs]
      exact hrow
    · have hwriting : s.system.writing w = some (c, update) := by
        obtain ⟨process, inFlight, attempt⟩ := thread
        simp only at next
        subst next
        simp [System.writing, running, show attempt.claim = some c from claim]
      show ∀ row ∈ system.db.jobs, _
      rw [hjobs]
      exact hspares c update hwriting
  | created i transactionId eventId n update sent => exact hfake.elim

/-- In every run at the fake adapter in which an update takes effect only when the other written jobs
on the identity are settled, no written job fails for want of its content. -/
theorem spared_apart {s₀ : Chain W} (hinit : s₀.Initial)
    (h : Reach (Chain.step options) (fun s act => s.LikeFake act ∧ s.Spares act) s₀ s) :
    s.Spared :=
  (h.invariant hinit.apart fun _ _ _ hinv hcond hstep =>
    hinv.step hcond.1 hcond.2 (step_inv hstep)).spared

end Chain

namespace WorkerSample

/-- The transaction of the second job. -/
def other : TransactionId := ⟨otherTransaction, by decide⟩

/-- The adapter with the entry of a job in the content; a write returns the transaction, and
transactions have the given confirmations. -/
def adapter (name : String) (id : TransactionId) (confirmations : ℤ) :
    (request : Rpc) → request.Result
  | .updateIdentity _ => .ok id
  | .getRawTransaction id => .ok ⟨id, some blockHash, confirmations⟩
  | .getBlock hash => .ok ⟨hash, confirmations, 10, [transaction.val, otherTransaction]⟩
  | request => node [.str (toHex (encodeUtf8 (canonical name)))] id.val request

/-- The first job is written and waits for its confirmations. -/
def submitsFirst : List (ChainAct Bool) :=
  acts writes.dropLast ++ .write true transaction.val :: acts (.receive true (node [] "") ::
    calls true 0 4 ++ asks true (adapter "one" transaction 0) 1 ++ calls true 0 2)

/-- So does a second job, on the same identity and under the same key. -/
def submitsSecond (observedAt : ℤ) : List (ChainAct Bool) :=
  acts (.enqueue (input "two") (context "two") :: .begin false :: calls false observedAt 7 ++
    asks false (adapter "one" other 0) 3) ++ .write false otherTransaction ::
    acts (.receive false (adapter "one" other 0) :: calls false observedAt 4 ++
      asks false (adapter "two" other 0) 1 ++ calls false observedAt 2)

/-- The first job is confirmed and its content read, with the entry of a job in it. -/
def readsFirst (name : String) : List (ChainAct Bool) :=
  acts (.begin true :: calls true 6000 7 ++ asks true (adapter name transaction 1) 3 ++
    calls true 6000 4 ++ asks true (adapter name transaction 1) 3 ++ calls true 6000 2 ++
    asks true (adapter name transaction 1) 1 ++ calls true 6000 1)

/-! ## Tests -/

/-- The entries are the same strings. -/
def sameEntries : List Json → List Json → Bool
  | [], [] => true
  | .str a :: as, .str b :: bs => a = b && sameEntries as bs
  | _, _ => false

theorem eq_of_sameEntries {as bs : List Json} (h : sameEntries as bs = true) : as = bs := by
  fun_induction sameEntries as bs with
  | case1 => rfl
  | case2 a as b bs ih =>
    rw [Bool.and_eq_true] at h
    rw [of_decide_eq_true h.1, ih h.2]
  | case3 => cases h

/-- Two identities with the same entries under one key, and without a content map. -/
def sameIdentity (a b : VerusIdentityDefinition) : Bool :=
  match a, b with
  | ⟨v, f, ps, m, n, i, p, s, [], [(key, as)], r, c, t⟩,
    ⟨v', f', ps', m', n', i', p', s', [], [(key', bs)], r', c', t'⟩ =>
    [v, f, m, t] = [v', f', m', t'] && ps = ps' &&
      [n, i, p, s, key, r, c] = [n', i', p', s', key', r', c'] && sameEntries as bs
  | _, _ => false

theorem eq_of_sameIdentity {a b : VerusIdentityDefinition} (h : sameIdentity a b = true) :
    a = b := by
  unfold sameIdentity at h
  split at h
  · simp only [Bool.and_eq_true, decide_eq_true_eq, List.cons.injEq, and_true] at h
    obtain ⟨⟨⟨⟨rfl, rfl, rfl, rfl⟩, rfl⟩, rfl, rfl, rfl, rfl, rfl, rfl, rfl⟩, hentries⟩ := h
    rw [eq_of_sameEntries hentries]
  · cases h

/-- A test of an answer. -/
def shown (updates : List ChainUpdate) (log : List Entry) : Exchange → Bool
  | ⟨.getIdentity identity, .ok answer⟩ => (latestUpdate updates identity).all fun u =>
      sameIdentity answer.identity u.update.identity
  | ⟨.getIdentityContent identity key, .ok content⟩ => (latestUpdate updates identity).all fun u =>
      sameIdentity content.identity (u.update.identity.contentUnder key)
  | ⟨.updateIdentity _, .ok id⟩ => updates.any fun u => u.transactionId = id.val
  | ⟨.getRawTransaction id, .ok transaction⟩ => log.all fun
    | .answered _ _ ⟨.getRawTransaction id', .ok before⟩ =>
      id' ≠ id || before.confirmations ≤ transaction.confirmations
    | _ => true
  | ⟨_, .error error⟩ => error.code ≠ .readbackMismatch
  | _ => true

theorem shown_of_test {updates : List ChainUpdate} {log : List Entry} {exchange : Exchange}
    (h : shown updates log exchange = true) : Shown updates log exchange := by
  obtain ⟨request, error | answer⟩ := exchange
  · have hcode : error.code ≠ .readbackMismatch := by
      cases request <;> exact of_decide_eq_true h
    cases request <;> exact hcode
  · cases request with
    | getIdentity identity =>
      intro u hu
      exact eq_of_sameIdentity ((Option.all_eq_true _ _).1 h u hu)
    | getIdentityContent identity key =>
      intro u hu
      exact eq_of_sameIdentity ((Option.all_eq_true _ _).1 h u hu)
    | updateIdentity update =>
      obtain ⟨u, hu, hid⟩ := List.any_eq_true.1 h
      exact ⟨u, hu, of_decide_eq_true hid⟩
    | getRawTransaction id =>
      intro eventId n before hmem
      have hgrows := List.all_eq_true.1 h _ hmem
      simpa using hgrows
    | _ => trivial

/-- A test of the node. -/
def likeFake (s : Chain Bool) : ChainAct Bool → Bool
  | .act (.receive w node) =>
    match s.system.threads w with
    | some { process := .call (.rpc request) _, .. } =>
      shown s.updates s.system.log ⟨request, node request⟩
    | _ => true
  | .create _ _ => false
  | _ => true

theorem likeFake_of_test {s : Chain Bool} {act : ChainAct Bool} (h : likeFake s act = true) :
    s.LikeFake act := by
  cases act with
  | act act =>
    cases act with
    | receive w node =>
      rintro ⟨process, inFlight, attempt⟩ request ⟨hthread, k, rfl⟩
      simp only [likeFake, hthread] at h
      exact shown_of_test h
    | _ => trivial
  | write => trivial
  | create => cases h

/-- A test of the other jobs. -/
def spares (s : Chain Bool) : ChainAct Bool → Bool
  | .write w _ => (s.system.writing w).all fun (c, update) => s.system.db.jobs.all fun row =>
      row.outboxEventId = c.id || row.targetIdentity ≠ update.identity.identityAddress ||
        !s.updates.any (fun u => u.eventId = row.outboxEventId) || row.toVerusJobCore.Settled
  | _ => true

theorem spares_of_test {s : Chain Bool} {act : ChainAct Bool} (h : spares s act = true) :
    s.Spares act := by
  cases act with
  | write w transactionId =>
    rintro c update hwriting row hrow hne htarget ⟨u, hu, hid⟩
    have hrow := List.all_eq_true.1 ((Option.all_eq_true _ _).1 h (c, update) hwriting) row hrow
    have hany : (s.updates.any fun u => u.eventId = row.outboxEventId) = true :=
      List.any_eq_true.2 ⟨u, hu, decide_eq_true hid⟩
    simpa [hne, htarget, hany] using hrow
  | _ => trivial

/-- A test of both. -/
theorem likeFake_spares_of_test (s : Chain Bool) (act : ChainAct Bool)
    (h : (likeFake s act && spares s act) = true) : s.LikeFake act ∧ s.Spares act := by
  rw [Bool.and_eq_true] at h
  exact ⟨likeFake_of_test h.1, spares_of_test h.2⟩

instance [Host] (manifest : VerusManifest) : Decidable (EntryReads manifest) :=
  inferInstanceAs (Decidable (_ = _))

/-- No read of the attempt is early. -/
def readsLate (updates : List ChainUpdate) (eventId : Uuid) (n : ℕ) : List Entry → Bool
  | [] => true
  | entry :: earlier => (match entry with
    | .answered id m ⟨.getIdentityContent _ _, .ok _⟩ => id ≠ eventId || m ≠ n ||
      updates.any fun u => u.eventId = eventId && u.time ≤ earlier.length
    | _ => true) && readsLate updates eventId n earlier

theorem not_readEarly {updates : List ChainUpdate} {eventId : Uuid} {n : ℕ} {log : List Entry}
    {manifest : VerusManifest} (h : readsLate updates eventId n log = true) :
    ¬ ReadEarly updates eventId manifest n log := by
  rintro ⟨content, earlier, ⟨later, rfl⟩, -, hearly⟩
  induction later with
  | nil =>
    obtain ⟨hread, -⟩ := Bool.and_eq_true_iff.1 h
    have hany : (updates.any fun u => u.eventId = eventId && u.time ≤ earlier.length) = true := by
      simpa using hread
    obtain ⟨u, hu, htook⟩ := List.any_eq_true.1 hany
    rw [Bool.and_eq_true] at htook
    exact hearly ⟨u, hu, of_decide_eq_true htook.1, of_decide_eq_true htook.2⟩
  | cons entry later ih =>
    exact ih (Bool.and_eq_true_iff.1 h).2

/-- The latest operation fails a job for its readback, whose entry reads back and was written before
every read of the attempt. -/
def destroys (s : Chain Bool) : Bool :=
  match s.system.log with
  | .stored eventId n (.terminalFailure errorClass) :: earlier => errorClass = "readback_mismatch" &&
    s.system.db.jobs.all fun row => row.outboxEventId ≠ eventId || (EntryReads row.toVerusManifest &&
      readsLate s.updates eventId n earlier)
  | _ => false

theorem not_spared_of_destroys {s : Chain Bool} (h : destroys s = true) : ¬ s.Spared := by
  intro hspared
  unfold Chain.Spared at hspared
  unfold destroys at h
  split at h
  · next eventId n errorClass earlier hlog =>
    rw [hlog] at hspared
    obtain ⟨row, hrow, hid, hexcused⟩ := hspared.1 eventId n _ rfl
    rw [Bool.and_eq_true] at h
    have hrow := List.all_eq_true.1 h.2 row hrow
    simp only [hid, ne_eq, not_true_eq_false, decide_false, Bool.false_or, Bool.and_eq_true,
      decide_eq_true_eq] at hrow
    exact not_readEarly hrow.2 (hexcused hrow.1 (of_decide_eq_true h.1))
  · cases h

/-- The second job writes when the first one is verified. -/
theorem spared_apart_in_turn : ∃ s,
    Reach (Chain.step twoWorkers) (fun s act => s.LikeFake act ∧ s.Spares act) chainStart s ∧
      s.updates.length = 2 ∧ s.Spared := by
  obtain ⟨s, hreach, hlength⟩ := exists_reach_of_any (Chain.step twoWorkers)
    (p := fun s act => likeFake s act && spares s act) chainStart
    (submitsFirst ++ readsFirst "one" ++ acts (calls true 6000 1) ++ submitsSecond 7000)
    likeFake_spares_of_test (q := fun s => s.updates.length = 2) (by decide +kernel)
  exact ⟨s, hreach, of_decide_eq_true hlength, Chain.spared_apart chainStart_initial hreach⟩

/-- The second job writes while the first one waits for its confirmations: the content of the first
is gone when it is read back. -/
theorem destroyed_by_second : ∃ s, Reach (Chain.step twoWorkers) Chain.LikeFake chainStart s ∧
    s.system.db.jobs.map (fun row => (row.targetIdentity, row.vdxfKey)) =
      List.replicate 2 ((input "one").targetIdentity, (input "one").vdxfKey) ∧ ¬ s.Spared := by
  obtain ⟨s, hreach, hdestroys⟩ := exists_reach_of_any (Chain.step twoWorkers) (p := likeFake)
    chainStart (submitsFirst ++ submitsSecond 10 ++ readsFirst "two") (fun _ _ => likeFake_of_test)
    (q := fun s => s.system.db.jobs.map (fun row => (row.targetIdentity, row.vdxfKey)) =
      List.replicate 2 ((input "one").targetIdentity, (input "one").vdxfKey) && destroys s)
    (by decide +kernel)
  rw [Bool.and_eq_true] at hdestroys
  exact ⟨s, hreach, of_decide_eq_true hdestroys.1, not_spared_of_destroys hdestroys.2⟩

end WorkerSample

end ChecksAndBalances
