import ChecksAndBalances.Attestation.Chain
import ChecksAndBalances.Audit.Answers

/-!
# Commands under keys

A command that is repeated under its key changes nothing and answers what it answered first, whatever
the repositories have done in between.  A key that a call has taken commits no other call.
-/

namespace ChecksAndBalances

open Lib Lib.Tx

/-! ## The calls -/

/-- The name that the method gives to its command. -/
def RequestTransition.commandName : RequestTransition → String
  | schedule => "scheduleRequest"
  | checkIn => "checkInParticipant"
  | beginReview => "beginReview"
  | approve => "approveVerification"
  | reject => "rejectVerification"
  | requestMoreInformation => "requestMoreInformation"
  | withdraw => "withdrawVerification"
  | rescheduleAfterMoreInformation => "rescheduleAfterMoreInformation"
  | rejectAfterMoreInformation => "rejectAfterMoreInformation"
  | withdrawAfterMoreInformation => "withdrawAfterMoreInformation"
  | requestIssuance => "requestIssuance"
  | recordIssuance => "recordIssuance"
  | openAppeal => "openAppeal"
  | upholdAppeal => "upholdAppeal"
  | denyAppeal => "denyAppeal"
  | remandAppeal => "remandAppeal"

theorem RequestTransition.run_eq_transition (c : RequestTransition) :
    ∃ command, c.run = VerificationRepository.transition c.commandName command := by
  cases c <;> exact ⟨_, rfl⟩

open VerificationRepository AttestationRepository in
/-- A call that answers with the state of its target. -/
inductive KeyedCall where
  | createRequest (input : CreateVerificationRequestInput)
  | transition (command : RequestTransition) (input : TransitionInput)
  | issue (input : IssueAttestationInput)
  | changeActiveState (command : ActiveStateCommand) (input : MutateAttestationInput)
  | revoke (input : RevokeAttestationInput)
  | lifecycle (call : LifecycleCall)

/-- The answer of a lifecycle command. -/
def LifecycleRecord.outcome (r : LifecycleRecord) : CommandOutcome :=
  ⟨r.externalReference, r.state, r.version, r.replayed⟩

namespace KeyedCall

/-- The transaction of the call. -/
def run : KeyedCall → DbTx CommandOutcome
  | createRequest input => (·.outcome) <$> VerificationRepository.createRequest input
  | transition command input => (·.outcome) <$> command.run input
  | issue input => (·.outcome) <$> AttestationRepository.issue input
  | changeActiveState command input =>
    (·.outcome) <$> AttestationRepository.changeActiveState command input
  | revoke input => (·.outcome) <$> AttestationRepository.revoke input
  | lifecycle call => (·.outcome) <$> call.run

def context : KeyedCall → CommandContext
  | createRequest input => input.context
  | transition _ input => input.context
  | issue input => input.context
  | changeActiveState _ input => input.context
  | revoke input => input.context
  | lifecycle call => call.input.context

/-- The name under which the key is taken. -/
def commandName : KeyedCall → String
  | createRequest _ => "createVerificationRequest"
  | transition command _ => command.commandName
  | issue _ => "issueAttestation"
  | changeActiveState command _ => command.name
  | revoke _ => "revokeAttestation"
  | lifecycle call => call.entity.config.commandName call.command

/-- The target of the call. -/
def reference : KeyedCall → String
  | createRequest input => input.externalReference
  | transition _ input => input.requestReference
  | issue input => input.externalReference
  | changeActiveState _ input => input.attestationReference
  | revoke input => input.attestationReference
  | lifecycle call => call.input.externalReference

/-- The scope in which the call takes its key; a lifecycle call takes it in the committee of its
row. -/
def scope (db : Db) : KeyedCall → Option String
  | lifecycle call => call.keyScope db
  | c => some (idempotencyScope c.context)

/-- The names of the states that the call reads back. -/
def states : KeyedCall → Set String
  | createRequest _ | transition _ _ => Set.range VerificationState.name
  | issue _ | changeActiveState _ _ | revoke _ => Set.range AttestationState.name
  | lifecycle _ => Set.univ

/-! ## Names of commands -/

/-- The commands that answer with the state of a request. -/
def requestCommands : List String :=
  "createVerificationRequest" :: [RequestTransition.schedule, .checkIn, .beginReview, .approve,
    .reject, .requestMoreInformation, .withdraw, .rescheduleAfterMoreInformation,
    .rejectAfterMoreInformation, .withdrawAfterMoreInformation, .requestIssuance, .recordIssuance,
    .openAppeal, .upholdAppeal, .denyAppeal, .remandAppeal].map RequestTransition.commandName

/-- The commands that answer with the state of an attestation. -/
def attestationCommands : List String :=
  ["issueAttestation", "activateAttestation", "expireAttestation", "revokeAttestation"]

theorem commandName_transition (c : RequestTransition) : c.commandName ∈ requestCommands := by
  cases c <;> decide

/-- No lifecycle command has the name of a command on requests or attestations. -/
theorem commandName_lifecycle (e : LifecycleEntity) (command : e.Command) :
    e.config.commandName command ∉ requestCommands ∧
      e.config.commandName command ∉ attestationCommands := by
  cases e <;> cases command <;> decide

theorem commandName_attestation {name : String} (h : name ∈ attestationCommands) :
    name ∉ requestCommands := by
  revert name
  decide

open Classical in
/-- The name of a command tells how its state is read back. -/
theorem states_eq (c : KeyedCall) :
    c.states = if c.commandName ∈ requestCommands then Set.range VerificationState.name
      else if c.commandName ∈ attestationCommands then Set.range AttestationState.name
      else Set.univ := by
  have hattestation : ∀ name ∈ attestationCommands, Set.range AttestationState.name =
      if name ∈ requestCommands then Set.range VerificationState.name
      else if name ∈ attestationCommands then Set.range AttestationState.name else Set.univ := by
    intro name hname
    rw [if_neg (commandName_attestation hname), if_pos hname]
  cases c with
  | createRequest input =>
    exact (if_pos (show "createVerificationRequest" ∈ requestCommands by decide)).symm
  | transition command input => exact (if_pos (commandName_transition command)).symm
  | issue input => exact hattestation "issueAttestation" (by decide)
  | changeActiveState command input =>
    cases command with
    | activateAttestation => exact hattestation "activateAttestation" (by decide)
    | expireAttestation => exact hattestation "expireAttestation" (by decide)
  | revoke input => exact hattestation "revokeAttestation" (by decide)
  | lifecycle call =>
    obtain ⟨hrequest, hother⟩ := commandName_lifecycle call.entity call.command
    exact ((if_neg hrequest).trans (if_neg hother)).symm

/-! ## Repetitions -/

theorem answered_lifecycle {call : LifecycleCall} {db db' : Db} {record : LifecycleRecord}
    (h : Commits call.run db record db') :
    ∃ scope, call.keyScope db = some scope ∧
      Answered db scope (call.entity.config.commandName call.command) call.input.externalReference
        call.input.context Set.univ record.outcome db' := by
  obtain ⟨-, row, hrow, -, -, idempotency, db₁, hbegin, h⟩ :=
    call.entity.config.commits_transition.1 h
  refine ⟨_, LifecycleCall.keyScope_of_loaded hrow, ?_⟩
  rcases h with ⟨hreplayed, ⟨hresult, -⟩, rfl, rfl⟩ | ⟨hnew, next, version, db₂, db₃, hadvance,
    hannounce, hcomplete, rfl⟩
  · obtain ⟨taken, htaken, ⟨hdigest, hcommand⟩, href, hstate, hversion, rfl⟩ :=
      answers_of_replayed hbegin hreplayed
    refine .repeated taken htaken ⟨hdigest, hcommand, href.symm.trans hresult⟩ ?_ rfl rfl
    intro state _ hrecorded
    rw [LifecycleRecord.outcome, hstate, hversion, hrecorded, Option.getD_some]
  · have hbody := IsTrans.trans _ _ _ (audits_sameRecords.advance _ _ _ _ _ _ _ hadvance)
      (audits_sameRecords.announceTransition _ _ _ _ _ _ _ _ _ hannounce)
    obtain ⟨stored, hstored, hanswers⟩ := answers_of_completed hbegin hnew hbody hcomplete
    exact .first stored (unused_of_new hbegin hnew) hstored hanswers trivial ⟨rfl, rfl⟩

/-- Every call that commits is the first under its key, or it repeats the call of the key. -/
theorem answered {c : KeyedCall} {db db' : Db} {outcome : CommandOutcome}
    (hsound : ∀ scope, c.scope db = some scope →
      db.idempotencyAt scope (sha256 c.context.idempotencyKey) = none → db.toDomainTables.Sound)
    (h : Commits c.run db outcome db') :
    ∃ scope, c.scope db = some scope ∧
      Answered db scope c.commandName c.reference c.context c.states outcome db' := by
  cases c with
  | createRequest input =>
    obtain ⟨record, hrecord, rfl⟩ := commits_map.1 h
    exact ⟨_, rfl, answered_createRequest hrecord⟩
  | transition command input =>
    obtain ⟨record, hrecord, rfl⟩ := commits_map.1 h
    obtain ⟨step, hrun⟩ := command.run_eq_transition
    rw [hrun] at hrecord
    exact ⟨_, rfl, answered_transition hrecord⟩
  | issue input =>
    obtain ⟨record, hrecord, rfl⟩ := commits_map.1 h
    exact ⟨_, rfl, answered_issue (hsound _ rfl) hrecord⟩
  | changeActiveState command input =>
    obtain ⟨record, hrecord, rfl⟩ := commits_map.1 h
    exact ⟨_, rfl, answered_changeActiveState (hsound _ rfl) hrecord⟩
  | revoke input =>
    obtain ⟨record, hrecord, rfl⟩ := commits_map.1 h
    exact ⟨_, rfl, answered_revoke (hsound _ rfl) hrecord⟩
  | lifecycle call =>
    obtain ⟨record, hrecord, rfl⟩ := commits_map.1 h
    exact answered_lifecycle hrecord

end KeyedCall

/-- Once a call has committed under its key, a call that commits under the same key is the same call:
it has the digest, the command and the target of the first, it answers as the first did, and it
changes nothing. -/
theorem repetition_answered [Host] {config : AuthConfig} {db₁ db₂ db₃ db₄ : Db} {c c' : KeyedCall}
    {first later : CommandOutcome} (sound : db₁.toDomainTables.Sound)
    (hfirst : Commits c.run db₁ first db₂) (hnew : first.replayed = false)
    (hrun : db₂.Leads config db₃) (hlater : Commits c'.run db₃ later db₄)
    (hkey : c'.context.idempotencyKey = c.context.idempotencyKey)
    (hscope : c'.scope db₃ = c.scope db₁) :
    (c'.context.requestDigest = c.context.requestDigest ∧ c'.commandName = c.commandName ∧
        c'.reference = c.reference) ∧
      later = { first with replayed := true } ∧ db₄ = { db₃ with nextId := db₃.nextId + 1 } := by
  obtain ⟨scope, hc, hanswered⟩ := KeyedCall.answered (fun _ _ _ => sound) hfirst
  cases hanswered with
  | repeated record stored same outcome_eq replayed =>
    rw [hnew] at replayed
    cases replayed
  | first record unused stored answers state target =>
    -- the completed record outlives the run, so the later call finds it
    have hkept := bounds_keysGrow.leads hrun _ _ _ stored answers.completed
    rw [← hkey] at hkept
    have hused : ∀ scope', c'.scope db₃ = some scope' →
        db₃.idempotencyAt scope' (sha256 c'.context.idempotencyKey) = some record := by
      intro scope' hc'
      obtain rfl : scope' = scope := Option.some.inj (hc'.symm.trans (hscope.trans hc))
      exact hkept
    obtain ⟨scope', hc', hanswered'⟩ := KeyedCall.answered
      (fun _ hc' hunused => absurd ((hused _ hc').symm.trans hunused) (by simp)) hlater
    cases hanswered' with
    | first record' unused' =>
      rw [hused _ hc'] at unused'
      cases unused'
    | repeated record' stored' same outcome_eq replayed unchanged =>
      obtain rfl := Option.some.inj ((hused _ hc').symm.trans stored')
      obtain ⟨hdigest, hcommand, hreference⟩ := same
      have hname : c'.commandName = c.commandName := hcommand.symm.trans answers.command
      have htarget : c'.reference = c.reference :=
        Option.some.inj (hreference.symm.trans answers.resultReference)
      have hstates : c'.states = c.states := by rw [c'.states_eq, c.states_eq, hname]
      refine ⟨⟨hdigest.symm.trans answers.requestDigest, hname, htarget⟩, ?_, unchanged⟩
      rw [outcome_eq first.state (hstates ▸ state) answers.resultState, answers.resultVersion,
        htarget, ← target.1]
      rfl

namespace AuditSample

open Json.EqualitySample

/-- The creation of the first request. -/
def creation : VerificationRepository.CreateVerificationRequestInput :=
  { id := none, externalReference := "request_one", participantReference := "participant_one"
    policyVersionId := 3, context := Sample.context "request_one_0" }

/-- The database with the request created, and then scheduled. -/
def created : Db := Sample.db.exec (.createRequest creation)

def scheduled : Db :=
  created.exec (.transition .schedule ⟨"request_one", 1, Sample.context "request_one_1"⟩)

theorem scope_creation (db : Db) :
    (KeyedCall.createRequest creation).scope db = some (idempotencyScope (Sample.context "request_one_0")) :=
  rfl

theorem commits_of_any {α : Type} (t : DbTx α) (db : Db) (p : α → Bool)
    (h : ((t db).toOption.any fun r => p r.1) = true) :
    ∃ a, Commits t db a (commit t db) ∧ p a = true := by
  cases ht : t db with
  | ok r =>
    rw [ht] at h
    refine ⟨r.1, ?_, h⟩
    rw [commit_of_commits (show Commits t db r.1 r.2 from ht)]
    exact ht
  | error e =>
    rw [ht] at h
    cases h

/-- The creation is repeated once the request has been scheduled. -/
theorem repetition_answered_creation :
    ∃ first later, Commits (KeyedCall.createRequest creation).run Sample.db first created ∧
      later = { first with replayed := true } ∧
      Commits (KeyedCall.createRequest creation).run scheduled later
        { scheduled with nextId := scheduled.nextId + 1 } := by
  have hchecks : (((KeyedCall.createRequest creation).run Sample.db).toOption.any
        fun r => !r.1.replayed) = true ∧
      (((KeyedCall.createRequest creation).run scheduled).toOption.any fun _ => true) = true := by
    decide +kernel
  obtain ⟨first, hfirst, hnew⟩ := commits_of_any _ Sample.db
    (fun a : CommandOutcome => !a.replayed) hchecks.1
  obtain ⟨later, hlater, -⟩ := commits_of_any _ scheduled (fun _ => true) hchecks.2
  have hcreated : commit (KeyedCall.createRequest creation).run Sample.db = created := by
    obtain ⟨record, h, -⟩ := commits_map.1 hfirst
    exact (commit_of_commits h).symm
  rw [hcreated] at hfirst
  obtain ⟨-, hanswer, hunchanged⟩ := repetition_answered Sample.db_initial.sound hfirst
    (by simpa using hnew) (leads_exec _ _) hlater rfl
    ((scope_creation _).trans (scope_creation _).symm)
  rw [hunchanged] at hlater
  exact ⟨first, later, hfirst, hanswer, hlater⟩

end AuditSample

end ChecksAndBalances
