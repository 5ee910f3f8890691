import ChecksAndBalances.Attestation.Chain

/-!
# Review decisions

The committee and the reviewer that `recordReviewDecision` lets into a decision.  The tenant comes
by three routes: the authorization, the command context and the reviewer's member row; the reviewer
comes by two, the actor of the command and the member row that the caller names.
-/

namespace ChecksAndBalances

open Lib Lib.Tx VerificationRepository

/-! ## New decisions -/

/-- The new decision that a command commits, if any. -/
def Db.records (db : Db) : Command → Option RecordReviewDecisionInput
  | .recordReviewDecision input =>
    match recordReviewDecision input db with
    | .ok (false, _) => some input
    | _ => none
  | _ => none

/-- The call that commits a new decision. -/
theorem Db.records_eq_some {db : Db} {command : Command} {input : RecordReviewDecisionInput}
    (h : db.records command = some input) :
    command = .recordReviewDecision input ∧
      Commits (recordReviewDecision input) db false (db.exec command) := by
  cases command with
  | recordReviewDecision call =>
    simp only [Db.records] at h
    split at h
    · next db' hcommit =>
      obtain rfl := Option.some.inj h
      have hc : Commits (recordReviewDecision call) db false db' := hcommit
      refine ⟨rfl, ?_⟩
      rw [Db.exec, commit_of_commits hc]
      exact hc
    · cases h
  | _ => cases h

/-! ## The committee of a decision -/

/-- The decision is bound to the authorization it was given, which targets the committee that owns
the request. -/
structure ReviewDecision.Bound (db : Db) (input : RecordReviewDecisionInput)
    (new : ReviewDecision) : Prop where
  authorized : input.authorization.authorized = true
  unconflicted : input.authorization.conflicted = false
  actor : input.authorization.actorReference = input.context.actor.reference
  owner : ∃ r ∈ db.requests, r.id = new.requestId ∧ ∃ c ∈ db.committees, c.id = r.committeeId ∧
    c.externalReference = input.authorization.targetCommitteeReference

/-- What an eligible reviewer's authorization says. -/
theorem requireEligibleReviewer_spec {decision : ReviewerAuthorizationDecision}
    {reviewer : EligibleReviewer} (h : requireEligibleReviewer decision = .ok reviewer) :
    decision.authorized = true ∧ decision.conflicted = false ∧
      reviewer.actorReference = decision.actorReference ∧
      reviewer.committeeReference = decision.targetCommitteeReference ∧
      decision.actorCommitteeReference = decision.targetCommitteeReference := by
  unfold requireEligibleReviewer at h
  split_ifs at h with hcommittee hauthorized hconflicted hpolicy
  cases h
  exact ⟨by simpa using hauthorized, by simpa using hconflicted, rfl, rfl,
    by simpa using hcommittee⟩

/-! ## A small deployment -/

namespace ReviewSample

/-- Two committees; two reviewers are members of the first. -/
def db : Db :=
  { Sample.db with
    committees := [
      { id := 1, externalReference := "committee_one" },
      { id := 4, externalReference := "committee_two" }]
    members := [
      { id := 5, externalReference := "member_one", committeeId := 1
        actorReference := "reviewer_one", state := .active },
      { id := 6, externalReference := "member_two", committeeId := 1
        actorReference := "reviewer_two", state := .active }] }

/-- The commands that bring a request under review. -/
def underReview : List Command := (Sample.issuedRequest "request_one").take 4

/-- A reviewer approves the request under a member row and an authorization for a committee. -/
def approval (decision reviewer member committee : String) : RecordReviewDecisionInput :=
  { id := none
    externalReference := decision
    requestReference := "request_one"
    reviewerMemberReference := member
    policyVersionId := 3
    decision := .approved
    authorization :=
      { actorReference := reviewer
        actorCommitteeReference := committee
        targetCommitteeReference := committee
        authorized := true
        conflicted := false
        policyVersionReference := "policy_one" }
    context :=
      { Sample.context decision with
        actor :=
          { type := "reviewer", reference := reviewer, authenticationStrength := "passkey" } } }

/-- The database with the request under review. -/
def reviewed : Db := underReview.foldl Db.exec db

/-- The approval of the first reviewer, authorised in the committee of the request. -/
def own : RecordReviewDecisionInput :=
  approval "decision_one" "reviewer_one" "member_one" "committee_one"

/-- The same approval, authorised in the other committee. -/
def foreign : RecordReviewDecisionInput :=
  approval "decision_one" "reviewer_one" "member_one" "committee_two"

end ReviewSample

/-- The authorization of a bound decision targets the committee of the command. -/
theorem ReviewDecision.Bound.target {db db' : Db} {input : RecordReviewDecisionInput}
    {c : Committee} {r : VerificationRequest} {m : CommitteeMember} {new : ReviewDecision}
    (bound : new.Bound db' input) (recorded : DecisionRecorded db.toDomainTables input c r m new)
    (hnew : db'.toDomainTables = { db.toDomainTables with decisions := db.decisions ++ [new] })
    (committeeIds : Table.Unique Committee.id db.committees)
    (requestIds : Table.Unique VerificationRequest.id db.requests) :
    input.authorization.targetCommitteeReference = input.context.committeeReference := by
  obtain ⟨hc, hcref, -⟩ := recorded.committee
  obtain ⟨hr, -, hrc, hrid⟩ := recorded.request
  obtain ⟨r', hr', hrid', c', hc', hcid', htarget⟩ := bound.owner
  rw [hnew] at hr' hc'
  obtain rfl := requestIds r' hr' r hr (hrid'.trans hrid)
  obtain rfl := committeeIds c' hc' c hc (hcid'.trans hrc)
  exact htarget.symm.trans hcref

/-- A new decision is bound to its authorization exactly when the authorization targets the
committee of the command. -/
theorem decision_bound_iff {db db' : Db} {input : RecordReviewDecisionInput}
    (committeeIds : Table.Unique Committee.id db.committees)
    (requestIds : Table.Unique VerificationRequest.id db.requests)
    (h : Commits (recordReviewDecision input) db false db') :
    ∃ new, db'.decisions = db.decisions ++ [new] ∧ (new.Bound db' input ↔
      input.authorization.targetCommitteeReference = input.context.committeeReference) := by
  rcases recordReviewDecision_spec h with ⟨hreplayed, -⟩ | ⟨-, c, r, m, new, recorded, hnew⟩
  · cases hreplayed
  · obtain ⟨reviewer, hreviewer, hactor⟩ := recorded.eligible
    obtain ⟨hauthorized, hconflicted, hreference, -, -⟩ := requireEligibleReviewer_spec hreviewer
    obtain ⟨hc, hcref, -⟩ := recorded.committee
    obtain ⟨hr, -, hrc, hrid⟩ := recorded.request
    refine ⟨new, by rw [hnew], fun bound => bound.target recorded hnew committeeIds requestIds,
      fun htarget => ?_⟩
    refine ⟨hauthorized, hconflicted, hreference.symm.trans hactor, r, ?_, hrid.symm, c, ?_,
      hrc.symm, hcref.trans htarget.symm⟩
    · rw [hnew]
      exact hr
    · rw [hnew]
      exact hc

namespace ReviewSample

/-- Both approvals are recorded, whatever committee authorised them. -/
theorem evaluation :
    (reviewed.records (.recordReviewDecision own)).isSome = true ∧
      (reviewed.records (.recordReviewDecision foreign)).isSome = true ∧
      reviewed.committees = db.committees ∧ reviewed.requests.length = 1 := by
  decide +kernel

theorem db_initial : db.Initial := ⟨rfl, rfl, rfl, rfl⟩

theorem committeeIds : Table.Unique Committee.id reviewed.committees := by
  rw [evaluation.2.2.1]
  unfold Table.Unique
  decide

theorem requestIds : Table.Unique VerificationRequest.id reviewed.requests := by
  obtain ⟨r, hr⟩ := List.length_eq_one_iff.1 evaluation.2.2.2
  rw [hr]
  intro a ha b hb _
  rw [List.mem_singleton.1 ha, List.mem_singleton.1 hb]

theorem commits_of_records {db : Db} {input : RecordReviewDecisionInput}
    (h : (db.records (.recordReviewDecision input)).isSome = true) :
    ∃ db', Commits (recordReviewDecision input) db false db' := by
  obtain ⟨call, hcall⟩ := Option.isSome_iff_exists.1 h
  obtain ⟨hcommand, hcommits⟩ := Db.records_eq_some hcall
  obtain rfl := Command.recordReviewDecision.inj hcommand
  exact ⟨_, hcommits⟩

theorem decision_bound_own :
    ∃ db' new, db'.decisions = reviewed.decisions ++ [new] ∧ (new.Bound db' own ↔
      own.authorization.targetCommitteeReference = own.context.committeeReference) := by
  obtain ⟨db', h⟩ := commits_of_records evaluation.1
  exact ⟨db', decision_bound_iff committeeIds requestIds h⟩

/-- An authorization for the other committee records a decision on the request of the first. -/
theorem foreign_decision_recorded :
    reviewed.Reachable (fun _ _ => True) ∧
      ∃ db', Commits (recordReviewDecision foreign) reviewed false db' ∧
        ∀ new, db'.decisions = reviewed.decisions ++ [new] → ¬ new.Bound db' foreign := by
  refine ⟨db_initial.reachable.foldl fun _ _ _ => trivial, ?_⟩
  obtain ⟨db', h⟩ := commits_of_records evaluation.2.1
  refine ⟨db', h, fun new happend bound => ?_⟩
  rcases recordReviewDecision_spec h with ⟨hreplayed, -⟩ | ⟨-, c, r, m, new', recorded, hnew⟩
  · cases hreplayed
  · obtain rfl : new' = new := by
      rw [hnew] at happend
      simpa using happend
    exact absurd (bound.target recorded hnew committeeIds requestIds) (by decide)

end ReviewSample

/-! ## The reviewer of a decision -/

/-- The database with the calls that have committed a new decision, latest first. -/
structure Reviews where
  db : Db
  recorded : List RecordReviewDecisionInput

/-- One command of the system. -/
def Reviews.step (s : Reviews) (command : Command) : Option Reviews :=
  some
    { db := s.db.exec command
      recorded := (s.db.records command).toList ++ s.recorded }

/-- No actor has committed two decisions on one request. -/
def Reviews.OneDecisionEach (s : Reviews) : Prop :=
  s.recorded.Pairwise fun later earlier => later.requestReference = earlier.requestReference →
    later.context.actor.reference ≠ earlier.context.actor.reference

/-- A decision is recorded under the member row of the command's actor. -/
def Db.NamesOwnMember (db : Db) : Command → Prop
  | .recordReviewDecision input => ∀ m ∈ db.members,
      m.externalReference = input.reviewerMemberReference →
        m.actorReference = input.context.actor.reference
  | _ => True

/-- The unique index `committee_member_committee_id_actor_reference_key`. -/
def Db.OneMemberEach (db : Db) : Prop :=
  Table.Unique (fun m : CommitteeMember => (m.committeeId, m.actorReference)) db.members

/-- What never changes of a request. -/
def VerificationRequest.key (r : VerificationRequest) : Uuid × String × Uuid :=
  (r.id, r.externalReference, r.committeeId)

/-- No command changes the members, and none takes back a request or changes its key. -/
theorem Effect.kept {d d' : DomainTables} {command : Command} (e : Effect d command d') :
    d'.members = d.members ∧
      d.requests.map VerificationRequest.key <+: d'.requests.map VerificationRequest.key := by
  have set_key (p : VerificationRequest → Bool) (state : VerificationState)
      (rows : List VerificationRequest) :
      (Table.set p (VerificationRequest.advance state) rows).map VerificationRequest.key =
        rows.map VerificationRequest.key := Table.map_set VerificationRequest.key (fun r => by cases r; rfl) rows
  cases e with
  | unchanged | decided | issued => exact ⟨rfl, List.prefix_rfl⟩
  | requested input row =>
    refine ⟨rfl, ?_⟩
    rw [List.map_append]
    exact List.prefix_append _ _
  | moved => exact ⟨rfl, by rw [set_key]⟩
  | activated | expired | revoked => exact ⟨rfl, by simp only [DomainTables.setState, set_key,
      List.prefix_rfl]⟩
  | renewed => exact ⟨rfl, by simp only [DomainTables.setState, set_key, List.prefix_rfl]⟩

/-- Only `recordReviewDecision` changes the decisions, and it only adds one. -/
theorem decisions_exec {db : Db} (sound : db.toDomainTables.Sound) (command : Command) :
    db.decisions <+: (db.exec command).decisions := by
  have e := effect_of_exec sound command
  generalize hd : (db.exec command).toDomainTables = d at e ⊢
  cases e with
  | decided input decisions =>
    rcases commit_cases (recordReviewDecision input) db with ⟨replayed, h⟩ | ⟨-, h⟩
    · rcases recordReviewDecision_spec h with ⟨-, hsame⟩ | ⟨-, c, r, m, new, -, hnew⟩
      · rw [← hd, Db.exec, hsame]
      · rw [← hd, Db.exec, hnew]
        exact List.prefix_append _ _
    · rw [← hd, Db.exec, h]
  | _ => exact List.prefix_rfl

/-- The rows that a committed decision has left. -/
structure Db.Holds (db : Db) (input : RecordReviewDecisionInput) (r : VerificationRequest)
    (m : CommitteeMember) (d : ReviewDecision) : Prop where
  request : r ∈ db.requests ∧ r.externalReference = input.requestReference
  member : m ∈ db.members ∧ m.committeeId = r.committeeId ∧
    m.actorReference = input.context.actor.reference
  decision : d ∈ db.decisions ∧ d.requestId = r.id ∧ d.reviewerMemberId = m.id

/-- What a committed decision has left is not taken back. -/
theorem Db.Holds.exec {db : Db} {input : RecordReviewDecisionInput} {r : VerificationRequest}
    {m : CommitteeMember} {d : ReviewDecision} (h : db.Holds input r m d)
    (sound : db.toDomainTables.Sound) (command : Command) :
    ∃ r', (db.exec command).Holds input r' m d := by
  obtain ⟨members, requests⟩ := (effect_of_exec sound command).kept
  obtain ⟨hr, href⟩ := h.request
  obtain ⟨hm, hmc, hactor⟩ := h.member
  obtain ⟨hd, hdr, hdm⟩ := h.decision
  obtain ⟨r', hr', hkey⟩ := List.mem_map.1 (requests.subset (List.mem_map_of_mem hr))
  simp only [VerificationRequest.key, Prod.mk.injEq] at hkey
  obtain ⟨hid, href', hcommittee⟩ := hkey
  refine ⟨r', ⟨hr', href'.trans href⟩, ⟨?_, hmc.trans hcommittee.symm, hactor⟩,
    (decisions_exec sound command).subset hd, hdr.trans hid.symm, hdm⟩
  rw [members]
  exact hm

/-- The invariant of the runs: every committed decision is stored under the member row of its
actor. -/
structure Reviews.Accounted (s : Reviews) : Prop where
  sound : s.db.toDomainTables.Sound
  oneMember : s.db.OneMemberEach
  held : ∀ input ∈ s.recorded, ∃ r m d, s.db.Holds input r m d
  once : s.OneDecisionEach

theorem Reviews.Accounted.step {s s' : Reviews} {command : Command} (h : s.Accounted)
    (own : s.db.NamesOwnMember command) (hs : s.step command = some s') : s'.Accounted := by
  obtain rfl := Option.some.inj hs
  have kept := (effect_of_exec h.sound command).kept
  have oneMember : (s.db.exec command).OneMemberEach := by
    rw [Db.OneMemberEach, kept.1]
    exact h.oneMember
  have held : ∀ input ∈ s.recorded, ∃ r m d, (s.db.exec command).Holds input r m d := by
    intro input hinput
    obtain ⟨r, m, d, hold⟩ := h.held input hinput
    obtain ⟨r', hold'⟩ := hold.exec h.sound command
    exact ⟨r', m, d, hold'⟩
  have sound := h.sound.of_effect (effect_of_exec h.sound command)
  cases hrecords : s.db.records command with
  | none =>
    refine ⟨sound, oneMember, ?_, ?_⟩ <;> simp only [Option.toList_none, List.nil_append]
    · exact held
    · exact h.once
  | some input =>
    obtain ⟨rfl, hcommits⟩ := Db.records_eq_some hrecords
    rcases recordReviewDecision_spec hcommits with ⟨hfalse, -⟩ | ⟨-, c, r, m, new, recorded, hnew⟩
    · cases hfalse
    obtain ⟨hr, href, hrc, hrid⟩ := recorded.request
    obtain ⟨hm, hmref, hmc, -, hmid⟩ := recorded.member
    have hactor := own m hm hmref
    refine ⟨sound, oneMember, ?_, ?_⟩ <;>
      simp only [Option.toList_some, List.singleton_append]
    · refine List.forall_mem_cons.2 ⟨⟨r, m, new, ⟨?_, href⟩, ⟨?_, hmc.trans hrc.symm, hactor⟩,
        ?_, hrid, hmid⟩, held⟩
      all_goals simp [hnew, hr, hm]
    · refine List.pairwise_cons.2 ⟨fun earlier hearlier hsame hsameActor => ?_, h.once⟩
      -- the same actor acts through the same member row, which has decided already
      obtain ⟨r₀, m₀, d₀, ⟨hr₀, href₀⟩, ⟨hm₀, hmc₀, hactor₀⟩, hd₀, hdr₀, hdm₀⟩ :=
        h.held earlier hearlier
      obtain rfl : r₀ = r := h.sound.requestReferences r₀ hr₀ r hr
        (href₀.trans (hsame.symm.trans href.symm))
      have hmember : m₀ = m := by
        refine h.oneMember m₀ hm₀ m hm (Prod.ext (hmc₀.trans (hrc.trans hmc.symm)) ?_)
        exact hactor₀.trans (hsameActor.symm.trans hactor.symm)
      rw [hmember] at hdm₀
      exact recorded.first d₀ hd₀ hdr₀ hdm₀

/-- Where every decision is recorded under the member row of its actor, no actor decides twice on
one request. -/
theorem one_decision_each {db : Db} {s : Reviews} (initial : db.Initial)
    (oneMember : db.OneMemberEach)
    (h : Reach Reviews.step (fun s command => s.db.NamesOwnMember command) ⟨db, []⟩ s) :
    s.OneDecisionEach := by
  have accounted : s.Accounted := by
    refine h.invariant ⟨initial.sound, oneMember, ?_, List.Pairwise.nil⟩ fun _ _ _ hi hc hs =>
      hi.step hc hs
    intro input hinput
    cases hinput
  exact accounted.once

instance (db : Db) (command : Command) : Decidable (db.NamesOwnMember command) :=
  match command with
  | .recordReviewDecision _ => inferInstanceAs (Decidable (∀ m ∈ _, _))
  | .createRequest _ | .transition _ _ | .issue _ | .activate _ | .expire _ | .revoke _
  | .clock _ => inferInstanceAs (Decidable True)

instance (s : Reviews) : Decidable s.OneDecisionEach :=
  inferInstanceAs (Decidable (List.Pairwise _ _))

namespace ReviewSample

/-- The runs in which two approvals follow on each other. -/
def approvals (first second : RecordReviewDecisionInput) : List Command :=
  underReview ++ [.recordReviewDecision first, .recordReviewDecision second]

theorem db_oneMember : db.OneMemberEach := by
  unfold Db.OneMemberEach Table.Unique
  decide

theorem one_decision_each_of_two :
    ∃ s : Reviews, s.recorded.length = 2 ∧ s.OneDecisionEach := by
  obtain ⟨s, hreach, htwo⟩ := exists_reach_of_any Reviews.step
    (p := fun s command => decide (s.db.NamesOwnMember command)) ⟨db, []⟩
    (approvals own (approval "decision_two" "reviewer_two" "member_two" "committee_one"))
    (fun _ _ => of_decide_eq_true) (q := fun s => s.recorded.length == 2) (by decide +kernel)
  exact ⟨s, by simpa using htwo, one_decision_each db_initial db_oneMember hreach⟩

/-- One reviewer decides twice on a request, under the member rows of two reviewers. -/
theorem two_decisions_of_one :
    db.Initial ∧ db.OneMemberEach ∧
      ∃ s, Reach Reviews.step (fun _ _ => True) ⟨db, []⟩ s ∧ ¬ s.OneDecisionEach := by
  refine ⟨db_initial, db_oneMember, ?_⟩
  obtain ⟨s, hreach, htwice⟩ := exists_reach_of_any Reviews.step (C := fun _ _ => True)
    (p := fun _ _ => true) ⟨db, []⟩
    (approvals own (approval "decision_two" "reviewer_one" "member_two" "committee_one"))
    (fun _ _ _ => trivial) (q := fun s => !decide s.OneDecisionEach) (by decide +kernel)
  exact ⟨s, hreach, by simpa using htwice⟩

end ReviewSample

end ChecksAndBalances
