import ChecksAndBalances.Auth.Challenges

/-!
# Challenges are used once

Six flows start with the consumption of a challenge, by its identifier or by the digest of a token.  In
every run a stored challenge is consumed at most once, by a flow of its kind and domain and before it
expires; that flow writes for the account of the challenge only, and at most one flow succeeds with the
same token or identifier.
-/

namespace ChecksAndBalances

open Lib Lib.Tx Threads AuthRepository

variable {W : Type} {config : AuthConfig} {admits : (call : ServiceCall) → call.Answer → Prop}
  {start db : Db}

/-! ## Consumptions -/

/-- The entry takes the stored challenge from pending to consumed. -/
def ConsumesChallenge (id : Uuid) (e : AuthEntry W) : Prop :=
  (∃ c ∈ e.before.authChallenges, c.id = id ∧ c.state = .pending) ∧
    ∃ c ∈ e.after.authChallenges, c.id = id ∧ c.state = .consumed

/-- A call leaves the challenges as they are, creates one, or consumes those that it selects. -/
theorem challenges_effect {call : ServiceCall} {answer : call.Answer} {db db' : Db}
    (heffect : AuthEffect db call answer db') :
    db'.authChallenges = db.authChallenges ∨
    (∃ record challenge, NewChallenge db record challenge ∧
      db'.authChallenges = db.authChallenges ++ [challenge]) ∨
    ∃ input, call = .email (.store (.consume input)) ∧
      db'.authChallenges =
        Table.set (ConsumeInput.selects input) (consumedRow input.atTime) db.authChallenges := by
  cases heffect with
  | kept hcall hfacts => exact Or.inl (congrArg AuthFacts.challenges hfacts)
  | challengeCreated challenge hnew hfacts =>
    exact Or.inr (Or.inl ⟨_, challenge, hnew, congrArg AuthFacts.challenges hfacts⟩)
  | consumed hanswer hfacts =>
    exact Or.inr (Or.inr ⟨_, rfl, congrArg AuthFacts.challenges hfacts⟩)
  | accountCreated id hfresh hfacts => exact Or.inl (congrArg AuthFacts.challenges hfacts)
  | sessionCreated session hnew hfacts => exact Or.inl (congrArg AuthFacts.challenges hfacts)
  | sessionsRevoked hcall selected reason atTime hfacts =>
    exact Or.inl (congrArg AuthFacts.challenges hfacts)
  | touched hfacts => exact Or.inl (congrArg AuthFacts.challenges hfacts)
  | passkeySaved passkey hnew hfacts => exact Or.inl (congrArg AuthFacts.challenges hfacts)
  | passkeyUsed hcount hfacts => exact Or.inl (congrArg AuthFacts.challenges hfacts)
  | passkeyRevoked hcount hfacts => exact Or.inl (congrArg AuthFacts.challenges hfacts)

/-- The challenge is stored and no longer pending. -/
def Spent (id : Uuid) (challenges : List AuthChallenge) : Prop :=
  id ∈ challenges.map AuthChallenge.id ∧ ∀ c ∈ challenges, c.id = id → c.state ≠ .pending

theorem Spent.effect {id : Uuid} {db db' : Db} (h : Spent id db.authChallenges)
    {call : ServiceCall} {answer : call.Answer} (heffect : AuthEffect db call answer db') :
    Spent id db'.authChallenges := by
  rcases challenges_effect heffect with heq | ⟨record, challenge, hnew, heq⟩ | ⟨input, -, heq⟩
  · rw [heq]
    exact h
  · rw [heq]
    constructor
    · rw [List.map_append]
      exact List.mem_append_left _ h.1
    · intro c hc hid
      obtain hc | hc := List.mem_append.1 hc
      · exact h.2 c hc hid
      · obtain rfl := List.mem_singleton.1 hc
        obtain ⟨c', hc', hid'⟩ := List.mem_map.1 h.1
        exact absurd (hid'.trans (hid.symm.trans hnew.id)) (hnew.fresh c' hc').1
  · rw [heq]
    constructor
    · rw [Table.map_set (f := consumedRow _) AuthChallenge.id fun _ => rfl]
      exact h.1
    · intro c hc hid
      obtain ⟨c₀, hc₀, rfl⟩ := Table.exists_of_mem_set hc
      by_cases hselected : ConsumeInput.selects input c₀ = true
      · rw [if_pos hselected]
        nofun
      · rw [if_neg hselected] at hid ⊢
        exact h.2 c₀ hc₀ hid

/-- Only a consumption takes a challenge from pending to consumed, one that it selects. -/
theorem ConsumesChallenge.selected {id : Uuid} {e : AuthEntry W}
    (h : ConsumesChallenge id e) (hkeys : AuthKeys e.before.authFacts)
    (heffect : AuthEffect e.before e.call e.answer e.after) :
    ∃ input c, e.call = .email (.store (.consume input)) ∧ c ∈ e.before.authChallenges ∧
      c.id = id ∧ ConsumeInput.selects input c = true := by
  obtain ⟨⟨c, hc, hid, hpending⟩, c', hc', hid', hconsumed⟩ := h
  have hsame : ∀ c₀ ∈ e.before.authChallenges, c₀.id = id → c₀ = c := fun c₀ hc₀ hid₀ =>
    Table.unique_of_nodup hkeys.challenges c₀ hc₀ c hc (hid₀.trans hid.symm)
  have hnot : ∀ c₀ ∈ e.before.authChallenges, c₀.id = id → c₀.state ≠ .consumed := by
    intro c₀ hc₀ hid₀
    rw [hsame c₀ hc₀ hid₀, hpending]
    nofun
  rcases challenges_effect heffect with heq | ⟨record, challenge, hnew, heq⟩ | ⟨input, hcall, heq⟩
  · exact absurd hconsumed (hnot c' (heq ▸ hc') hid')
  · rw [heq, List.mem_append, List.mem_singleton] at hc'
    obtain hc' | rfl := hc'
    · exact absurd hconsumed (hnot c' hc' hid')
    · rw [hnew.state] at hconsumed
      cases hconsumed
  · rw [heq] at hc'
    obtain ⟨c₀, hc₀, rfl⟩ := Table.exists_of_mem_set hc'
    by_cases hselected : ConsumeInput.selects input c₀ = true
    · rw [if_pos hselected] at hid'
      exact ⟨input, c₀, hcall, hc₀, hid', hselected⟩
    · rw [if_neg hselected] at hid' hconsumed
      exact absurd hconsumed (hnot c₀ hc₀ hid')

/-- What is consumed is spent. -/
theorem ConsumesChallenge.spent {id : Uuid} {e : AuthEntry W} (h : ConsumesChallenge id e)
    (hkeys : AuthKeys e.after.authFacts) : Spent id e.after.authChallenges := by
  obtain ⟨-, c, hc, hid, hconsumed⟩ := h
  refine ⟨List.mem_map.2 ⟨c, hc, hid⟩, fun c' hc' hid' => ?_⟩
  rw [Table.unique_of_nodup hkeys.challenges c' hc' c hc (hid'.trans hid.symm), hconsumed]
  nofun

variable [DecidableEq W]

/-- A consumed challenge is not consumed again. -/
theorem not_consumes_later {later earlier : List (AuthEntry W)} {e : AuthEntry W} {id : Uuid}
    (h : AuthChronicle config admits start (later ++ e :: earlier) db)
    (hkeys : AuthKeys start.authFacts) (hconsumes : ConsumesChallenge id e) :
    ∀ e' ∈ later, ¬ ConsumesChallenge id e' := by
  obtain ⟨hvalid, hearlier⟩ := h.at
  have hafter : AuthKeys e.after.authFacts :=
    (authKeys_of_chronicle hearlier hkeys).effect (authEffect_of_valid hvalid)
  have hstart : Spent id e.after.authChallenges ∧ ∀ e' ∈ ([] : List (AuthEntry W)),
      ¬ ConsumesChallenge id e' := ⟨hconsumes.spent hafter, by simp⟩
  refine (h.invariant_after (I := fun later db => Spent id db.authChallenges ∧
    ∀ e' ∈ later, ¬ ConsumesChallenge id e') ?_ hstart ?_).2
  · intro _ db db' hview hspent
    have hchallenges : db'.authChallenges = db.authChallenges :=
      congrArg AuthFacts.challenges (authFacts_of_rows hview)
    rw [hchallenges]
    exact hspent
  · intro later' e' hvalid' _ hspent
    refine ⟨hspent.1.effect (authEffect_of_valid hvalid'), ?_⟩
    rintro e'' (_ | ⟨_, he''⟩) hagain
    · obtain ⟨⟨c, hc, hid, hpending⟩, -⟩ := hagain
      exact hspent.1.2 c hc hid hpending
    · exact hspent.2 e'' he'' hagain

/-- A challenge is consumed at most once. -/
theorem not_consumes_again {later earlier : List (AuthEntry W)} {e : AuthEntry W} {id : Uuid}
    (h : AuthChronicle config admits start (later ++ e :: earlier) db)
    (hkeys : AuthKeys start.authFacts) (hconsumes : ConsumesChallenge id e) :
    ∀ e' ∈ later ++ earlier, ¬ ConsumesChallenge id e' := by
  intro e' he' hagain
  obtain he' | he' := List.mem_append.1 he'
  · exact not_consumes_later h hkeys hconsumes e' he' hagain
  · obtain ⟨between, before, rfl⟩ := List.append_of_mem he'
    rw [show later ++ e :: (between ++ e' :: before) = (later ++ e :: between) ++ e' :: before by
      simp] at h
    exact not_consumes_later h hkeys hagain e (by simp) hconsumes

/-! ## Issued challenges -/

/-- The challenge is the one of the record. -/
structure IssuedChallenge.By (c : IssuedChallenge) (record : AuthChallengeRecord)
    (accounts : List (Uuid × String × TrustDomain)) : Prop where
  id : c.id = record.id
  domain : c.trustDomain = record.trustDomain
  kind : c.kind = record.kind
  digest : c.secretDigest = record.secretDigest
  expiry : c.expiresAt = record.expiresAt
  account : ∀ accountId, c.accountId = some accountId → ∃ reference,
    record.accountReference = some reference ∧ (accountId, reference, c.trustDomain) ∈ accounts

/-- Every challenge was stored at the start or created by a call of the log. -/
def IssuedSince (start : Db) (log : List (AuthEntry W)) (facts : AuthFacts) : Prop :=
  ∀ c ∈ facts.challenges.map AuthChallenge.issued,
    c ∈ start.authChallenges.map AuthChallenge.issued ∨
    ∃ e₀ ∈ log, ∃ record, e₀.call = .email (.store (.createChallenge record)) ∧
      c.By record facts.accounts

omit [DecidableEq W] in
theorem IssuedSince.cons {earlier : List (AuthEntry W)} {e : AuthEntry W}
    (h : IssuedSince start earlier e.before.authFacts)
    (heffect : AuthEffect e.before e.call e.answer e.after) :
    IssuedSince start (e :: earlier) e.after.authFacts := by
  have hidentities := identities_effect heffect
  have hold : ∀ c ∈ e.before.authChallenges.map AuthChallenge.issued,
      c ∈ start.authChallenges.map AuthChallenge.issued ∨ ∃ e₀ ∈ e :: earlier, ∃ record,
        e₀.call = .email (.store (.createChallenge record)) ∧ c.By record e.after.identities := by
    intro c hc
    rcases h c hc with hstart | ⟨e₀, he₀, record, hcall, hby⟩
    · exact Or.inl hstart
    · refine Or.inr ⟨e₀, .tail _ he₀, record, hcall, { hby with account := fun id hid => ?_ }⟩
      obtain ⟨reference, hreference, hmem⟩ := hby.account id hid
      exact ⟨reference, hreference, hidentities hmem⟩
  intro c hc
  rw [Db.authFacts_challenges] at hc
  obtain ⟨-, hissued⟩ | ⟨record, challenge, hcall, hnew, hchallenges⟩ := issued_effect heffect
  · exact hold c (hissued ▸ hc)
  · rw [hchallenges, List.map_append, List.mem_append] at hc
    obtain hc | hc := hc
    · exact hold c hc
    · obtain rfl := List.mem_singleton.1 hc
      refine Or.inr ⟨e, .head _, record, hcall, hnew.id, hnew.domain, hnew.kind, hnew.digest,
        hnew.expiry, fun accountId haccount => ?_⟩
      obtain ⟨a, ha, rfl, hreference, hdomain⟩ := hnew.account accountId haccount
      have hidentity := hidentities (mem_identities ha)
      rw [hdomain, ← hnew.domain] at hidentity
      exact ⟨_, hreference, hidentity⟩

/-- In every run. -/
theorem issuedSince_of_chronicle {log : List (AuthEntry W)}
    (h : AuthChronicle config admits start log db) (hkeys : AuthKeys start.authFacts) :
    IssuedSince start log db.authFacts :=
  auth_invariant (I := IssuedSince start) h hkeys (fun _ hc => Or.inl hc)
    fun _ _ _ _ _ heffect hissued => hissued.cons heffect

omit [DecidableEq W] in
/-- What is issued stays. -/
theorem issued_subset_effect {call : ServiceCall} {answer : call.Answer} {db db' : Db}
    (heffect : AuthEffect db call answer db') :
    db.authChallenges.map AuthChallenge.issued ⊆ db'.authChallenges.map AuthChallenge.issued := by
  obtain ⟨-, hissued⟩ | ⟨record, challenge, -, -, hchallenges⟩ := issued_effect heffect
  · rw [hissued]
    exact List.Subset.refl _
  · rw [hchallenges, List.map_append]
    exact List.subset_append_left _ _

theorem issued_subset {later earlier : List (AuthEntry W)} {e : AuthEntry W}
    (h : AuthChronicle config admits start (later ++ e :: earlier) db) :
    e.before.authChallenges.map AuthChallenge.issued ⊆
      db.authChallenges.map AuthChallenge.issued := by
  refine h.invariant_after (I := fun _ db => e.before.authChallenges.map AuthChallenge.issued ⊆
    db.authChallenges.map AuthChallenge.issued) ?_ ?_ ?_
  · intro _ db db' hview hsubset
    have hchallenges : db'.authChallenges = db.authChallenges :=
      congrArg AuthFacts.challenges (authFacts_of_rows hview)
    rw [hchallenges]
    exact hsubset
  · exact issued_subset_effect (authEffect_of_valid h.at.1)
  · intro _ e' hvalid _ hsubset
    exact List.Subset.trans hsubset (issued_subset_effect (authEffect_of_valid hvalid))

/-! ## What the flows write -/

/-- The call writes for no account but this one.  An authentication uses the passkey that its response
names. -/
def ServiceCall.WritesFor (reference : Option String) : ServiceCall → Prop
  | .email (.store (.consume _)) => True
  | .email (.store (.createChallenge record)) => record.accountReference = reference
  | .email (.store (.recoverAndRevokeSessions input)) => some input.accountReference = reference
  | .email (.store (.changeVerifiedEmail input)) => some input.accountReference = reference
  | .passkey (.findActive _ _) => True
  | .passkey (.save credential _) => some credential.accountReference = reference
  | .passkey (.updateUsage _) => True
  | .email (.host _) => True
  | .webAuthn _ => True
  | _ => False

/-- A flow consumes first, and then writes for the account of the challenge. -/
def ServiceRequest.WritesForConsumed (config : AuthConfig) (request : ServiceRequest)
    (past : List ServiceItem) (call : ServiceCall) : Prop :=
  ∀ input, request.consumes config = some input →
    (past = [] ∧ call = .email (.store (.consume input))) ∨
    ∃ challenge, ServiceRequest.consumedItem input challenge ∈ past ∧
      call.WritesFor challenge.accountReference

/-- The contract of the flows. -/
def flowContract (config : AuthConfig) : Contract ServiceRequest.Result ServiceCall.Answer where
  allows := ServiceRequest.WritesForConsumed config
  admits _ _ := True
  returns _ _ _ := True

section Flows

variable {request : ServiceRequest}

/-- The flow consumes. -/
theorem writesForConsumed_consume {input : ConsumeInput} (h : request.consumes config = some input) :
    request.WritesForConsumed config [] (.email (.store (.consume input))) := by
  intro input' h'
  obtain rfl := Option.some.inj (h.symm.trans h')
  exact Or.inl ⟨rfl, rfl⟩

/-- The flow goes on. -/
theorem writesForConsumed_of_mem {input : ConsumeInput} (h : request.consumes config = some input)
    {challenge : ConsumedAuthChallenge} {past : List ServiceItem}
    (hpast : ServiceRequest.consumedItem input challenge ∈ past) {call : ServiceCall}
    (hcall : call.WritesFor challenge.accountReference) :
    request.WritesForConsumed config past call := by
  intro input' h'
  obtain rfl := Option.some.inj (h.symm.trans h')
  exact Or.inr ⟨challenge, hpast, hcall⟩

/-- A method that consumes nothing. -/
theorem follows_of_consumes_none (h : request.consumes config = none) {α : Type}
    (p : Program ServiceCall ServiceCall.Answer α) (past : List ServiceItem) :
    Follows ((flowContract config).protocol request) past p fun _ _ => True := by
  induction p generalizing past with
  | done a => trivial
  | call call k ih =>
    refine ⟨fun input hinput => ?_, fun answer _ => ih answer _⟩
    rw [h] at hinput
    cases hinput

theorem finishRegistration_flows (input : PasskeyService.FinishRegistrationInput) :
    Follows ((flowContract config).protocol (.finishRegistration input)) []
      (PasskeyService.finishRegistration config input).run fun _ _ => True := by
  unfold PasskeyService.finishRegistration
  refine follows_call (writesForConsumed_consume rfl) fun consumed => ?_
  split
  · trivial
  · next challenge =>
    split
    · trivial
    · next reference hreference =>
      refine follows_call (writesForConsumed_of_mem rfl (.head _) trivial) fun result => ?_
      split
      · trivial
      · refine follows_call (writesForConsumed_of_mem rfl (.tail _ (.head _)) ?_) fun _ => trivial
        exact (AuthServices.nonEmpty_eq_some hreference).symm

theorem finishAuthentication_flows (input : PasskeyService.FinishAuthenticationInput) :
    Follows ((flowContract config).protocol (.finishAuthentication input)) []
      (PasskeyService.finishAuthentication config input).run fun _ _ => True := by
  unfold PasskeyService.finishAuthentication
  refine follows_call (writesForConsumed_consume rfl) fun consumed => ?_
  split
  · trivial
  · next challenge =>
    refine follows_call (writesForConsumed_of_mem rfl (.head _) trivial) fun stored => ?_
    split
    · trivial
    · refine Follows.throwIf_bind (fun _ => trivial) fun _ => ?_
      refine follows_call (writesForConsumed_of_mem rfl (.tail _ (.head _)) trivial) fun result => ?_
      split
      · trivial
      · refine Follows.throwIf_bind (fun _ => trivial) fun _ => ?_
        exact follows_call (writesForConsumed_of_mem rfl (.tail _ (.tail _ (.head _))) trivial)
          fun _ => trivial

/-- What an email service calls. -/
abbrev EmailFlows (config : AuthConfig) (request : EmailRequest) : Prop :=
  Follows (((flowContract config).protocol (.email request)).comap ServiceCall.email) []
    (request.program config.email).run fun _ _ => True

theorem completeEmailSignIn_flows (input : AuthServices.SignInInput) :
    EmailFlows config (.completeEmailSignIn input) := by
  unfold EmailFlows EmailRequest.program AuthServices.completeEmailSignIn
  refine follows_email_store (writesForConsumed_consume rfl) fun challenge => ?_
  split
  · trivial
  · split_ifs <;> trivial

theorem consumeRecoveryGrant_flows (input : AuthServices.SignInInput) :
    EmailFlows config (.consumeRecoveryGrant input) := by
  unfold EmailFlows EmailRequest.program AuthServices.consumeRecoveryGrant
  refine follows_email_store (writesForConsumed_consume rfl) fun challenge => ?_
  split <;> trivial

theorem completeRecovery_flows (input : AuthServices.RecoveryInput) :
    EmailFlows config (.completeRecovery input) := by
  unfold EmailFlows EmailRequest.program AuthServices.completeRecovery
  refine follows_email_store (writesForConsumed_consume rfl) fun challenge => ?_
  split
  · trivial
  · next reference destination haccount =>
    obtain ⟨c, rfl, hc⟩ := Option.bind_eq_some_iff.1 haccount
    obtain ⟨_, hreference, hc⟩ := Option.bind_eq_some_iff.1 hc
    obtain ⟨_, -, ⟨⟩⟩ := Option.bind_eq_some_iff.1 hc
    have hown : some reference = c.accountReference :=
      (AuthServices.nonEmpty_eq_some hreference).symm
    refine follows_email_store (writesForConsumed_of_mem rfl (.head _) hown) fun _ => ?_
    refine follows_email_host (writesForConsumed_of_mem rfl (.tail _ (.head _)) trivial) fun _ => ?_
    split_ifs
    · trivial
    · refine follows_email_host
        (writesForConsumed_of_mem rfl (.tail _ (.tail _ (.head _))) trivial) fun grant => ?_
      refine follows_email_host
        (writesForConsumed_of_mem rfl (.tail _ (.tail _ (.tail _ (.head _)))) trivial) fun id => ?_
      exact follows_email_store
        (writesForConsumed_of_mem rfl (.tail _ (.tail _ (.tail _ (.tail _ (.head _))))) hown)
        fun _ => trivial

/-- The notifications after a consumption. -/
theorem notifications_flow {input : ConsumeInput} (h : request.consumes config = some input)
    {challenge : ConsumedAuthChallenge} {notification : String → SecurityNotification}
    (destinations : List String) {past : List ServiceItem}
    (hpast : ServiceRequest.consumedItem input challenge ∈ past) :
    Follows (((flowContract config).protocol request).comap ServiceCall.email) past
      (destinations.forM fun d => (AuthHostCall.enqueue (notification d)).request :
        AuthProgram Unit).run fun _ _ => True := by
  induction destinations generalizing past with
  | nil => trivial
  | cons d rest ih =>
    refine follows_email_host (writesForConsumed_of_mem h hpast trivial) fun _ => ?_
    exact ih (.tail _ hpast)

theorem confirmEmailChange_flows (input : AuthServices.ConfirmEmailChangeInput) :
    EmailFlows config (.confirmEmailChange input) := by
  unfold EmailFlows EmailRequest.program AuthServices.confirmEmailChange
  refine follows_email_store (writesForConsumed_consume rfl) fun challenge => ?_
  split
  · trivial
  · next reference destination digest haccount =>
    obtain ⟨c, rfl, hc⟩ := Option.bind_eq_some_iff.1 haccount
    obtain ⟨_, hreference, hc⟩ := Option.bind_eq_some_iff.1 hc
    obtain ⟨_, -, hc⟩ := Option.bind_eq_some_iff.1 hc
    obtain ⟨_, -, ⟨⟩⟩ := Option.bind_eq_some_iff.1 hc
    have hown : some reference = c.accountReference :=
      (AuthServices.nonEmpty_eq_some hreference).symm
    refine follows_email_store (writesForConsumed_of_mem rfl (.head _) hown) fun result => ?_
    exact notifications_flow rfl _ (.tail _ (.head _))

/-- Every method honours the contract of the flows. -/
theorem flows_honoured (request : ServiceRequest) :
    Follows ((flowContract config).protocol request) [] (request.program config)
      ((flowContract config).returns request) := by
  cases request with
  | email request =>
    cases request with
    | completeEmailSignIn input => exact Follows.embed (completeEmailSignIn_flows input)
    | completeRecovery input => exact Follows.embed (completeRecovery_flows input)
    | consumeRecoveryGrant input => exact Follows.embed (consumeRecoveryGrant_flows input)
    | confirmEmailChange input => exact Follows.embed (confirmEmailChange_flows input)
    | begin input => exact follows_of_consumes_none rfl _ _
    | lockAccount input => exact follows_of_consumes_none rfl _ _
    | beginEmailChange input => exact follows_of_consumes_none rfl _ _
  | finishRegistration input => exact finishRegistration_flows input
  | finishAuthentication input => exact finishAuthentication_flows input
  | issue input => exact follows_of_consumes_none rfl _ _
  | authenticate input => exact follows_of_consumes_none rfl _ _
  | beginRegistration input => exact follows_of_consumes_none rfl _ _
  | beginAuthentication input => exact follows_of_consumes_none rfl _ _
  | revokeCredential input => exact follows_of_consumes_none rfl _ _
  | direct call => exact follows_of_consumes_none rfl _ _

end Flows

/-! ## Consumptions of a run -/

/-- The consumptions select by an identifier or by a digest. -/
def SameSelector (input input' : ConsumeInput) : Prop :=
  (∃ id, input.challengeId = some id ∧ input'.challengeId = some id) ∨
    ∃ digest, input.secretDigest = some digest ∧ input'.secretDigest = some digest

variable {earlier : List (AuthEntry W)} {e : AuthEntry W}

omit [DecidableEq W] in
theorem sameSelector_self {request : ServiceRequest} {input : ConsumeInput}
    (h : request.consumes config = some input) : SameSelector input input := by
  unfold ServiceRequest.consumes at h
  split at h
  · obtain rfl := Option.some.inj h
    exact Or.inr ⟨_, rfl, rfl⟩
  · obtain rfl := Option.some.inj h
    exact Or.inr ⟨_, rfl, rfl⟩
  · obtain rfl := Option.some.inj h
    exact Or.inr ⟨_, rfl, rfl⟩
  · obtain rfl := Option.some.inj h
    exact Or.inr ⟨_, rfl, rfl⟩
  · obtain rfl := Option.some.inj h
    exact Or.inl ⟨_, rfl, rfl⟩
  · obtain rfl := Option.some.inj h
    exact Or.inl ⟨_, rfl, rfl⟩
  · cases h

omit [DecidableEq W] in
/-- Rows with the same selector are the same. -/
theorem issued_eq_of_sameSelector {input input' : ConsumeInput} (h : SameSelector input input')
    {c c' : AuthChallenge} (hc : Selected input c) (hc' : Selected input' c') :
    c.id = c'.id ∨ c.secretDigest = c'.secretDigest := by
  rcases h with ⟨id, hid, hid'⟩ | ⟨digest, hdigest, hdigest'⟩
  · exact Or.inl ((hc.id id hid).trans (hc'.id id hid').symm)
  · exact Or.inr ((hc.digest digest hdigest).trans (hc'.digest digest hdigest').symm)

omit [DecidableEq W] in
theorem eq_of_sameSelector (hkeys : AuthKeys db.authFacts) {input input' : ConsumeInput}
    (h : SameSelector input input') {c c' : AuthChallenge} (hc : c ∈ db.authChallenges)
    (hc' : c' ∈ db.authChallenges) (hselected : Selected input c) (hselected' : Selected input' c') :
    c = c' := by
  rcases issued_eq_of_sameSelector h hselected hselected' with hid | hdigest
  · exact Table.unique_of_nodup hkeys.challenges c hc c' hc' hid
  · exact Table.unique_of_nodup hkeys.secrets c hc c' hc' hdigest

/-- What the consumption of a challenge says. -/
structure ConsumedBy (config : AuthConfig) (start : Db) (earlier : List (AuthEntry W))
    (e : AuthEntry W) (input : ConsumeInput) (c : AuthChallenge) : Prop where
  request : e.request.consumes config = some input
  first : e.past = []
  item : e.item =
    ServiceRequest.consumedItem input (toConsumed e.before.authAccounts input.atTime c)
  row : c ∈ e.before.authChallenges
  selected : Selected input c
  issued : c.issued ∈ start.authChallenges.map AuthChallenge.issued ∨
    ∃ e₀ ∈ earlier, ∃ record, e₀.call = .email (.store (.createChallenge record)) ∧
      c.issued.By record e.before.identities

omit [DecidableEq W] in
/-- The answer to a consumption. -/
theorem item_of_selects (hkeys : AuthKeys e.before.authFacts)
    (heffect : AuthEffect e.before e.call e.answer e.after) {input : ConsumeInput}
    (hself : SameSelector input input) (hcall : e.call = .email (.store (.consume input)))
    {c : AuthChallenge} (hc : c ∈ e.before.authChallenges)
    (hselects : ConsumeInput.selects input c = true) :
    e.item =
      ServiceRequest.consumedItem input (toConsumed e.before.authAccounts input.atTime c) := by
  obtain ⟨w, request, past, call, answer, before, after⟩ := e
  subst hcall
  have hfound : before.authChallenges.find? (ConsumeInput.selects input) = some c := by
    obtain ⟨c', hc'⟩ := Option.isSome_iff_exists.1 (List.find?_isSome.2 ⟨c, hc, hselects⟩)
    obtain ⟨hmem, hselects'⟩ := Table.mem_of_find? hc'
    rw [hc', eq_of_sameSelector hkeys hself hmem hc (selected_of_selects hselects')
      (selected_of_selects hselects)]
  cases heffect with
  | kept hwrites hfacts => cases hwrites
  | sessionsRevoked hrevokes selected reason atTime hfacts => cases hrevokes
  | consumed hanswer hfacts =>
    have hchallenge : answer = some (toConsumed before.authAccounts input.atTime c) :=
      Eq.trans hanswer (congrArg (Option.map _) hfound)
    subst hchallenge
    rfl

theorem consumedBy_of_consumes {id : Uuid} (hvalid : AuthValid config admits earlier e)
    (hearlier : AuthChronicle config admits start earlier e.before)
    (hkeys : AuthKeys start.authFacts) (h : ConsumesChallenge id e) :
    ∃ input c, c.id = id ∧ ConsumedBy config start earlier e input c := by
  have hbefore := authKeys_of_chronicle hearlier hkeys
  have heffect := authEffect_of_valid hvalid
  obtain ⟨input, c, hcall, hc, hid, hselects⟩ := h.selected hbefore heffect
  have hallowed := hvalid.allowed
  rw [hcall] at hallowed
  obtain ⟨hpast, hrequest⟩ := hallowed
  refine ⟨input, c, hid, hrequest, hpast, ?_, hc, selected_of_selects hselects,
    issuedSince_of_chronicle hearlier hkeys c.issued (List.mem_map_of_mem hc)⟩
  exact item_of_selects hbefore heffect (sameSelector_self hrequest) hcall hc hselects

/-- A method that consumed a challenge took a stored one. -/
theorem consumes_of_item {log : List (AuthEntry W)}
    (h : AuthChronicle config admits start log db) {w : W} {input : ConsumeInput}
    {challenge : ConsumedAuthChallenge}
    (hitem : ServiceRequest.consumedItem input challenge ∈ items w log) :
    ∃ later e earlier c, log = later ++ e :: earlier ∧ e.thread = w ∧
      e.call = .email (.store (.consume input)) ∧ ConsumesChallenge c.id e ∧
      challenge = toConsumed e.before.authAccounts input.atTime c ∧ Selected input c ∧
      c ∈ e.before.authChallenges := by
  obtain ⟨later, e, earlier, rfl, hthread, heq⟩ := exists_entry_of_mem_items hitem
  obtain ⟨hvalid, -⟩ := h.at
  obtain ⟨w', request, past, call, answer, before, after⟩ := e
  obtain ⟨rfl, hanswer⟩ := Sigma.mk.inj heq
  obtain rfl := eq_of_heq hanswer
  cases authEffect_of_valid hvalid with
  | kept hcall hfacts => cases hcall
  | sessionsRevoked hcall selected reason atTime hfacts => cases hcall
  | consumed hanswer hfacts =>
    obtain ⟨c, hfound, hchallenge⟩ := Option.map_eq_some_iff.1 hanswer.symm
    obtain ⟨hc, hselects⟩ := Table.mem_of_find? hfound
    have hselected := selected_of_selects hselects
    refine ⟨later, _, earlier, c, rfl, hthread, rfl, ⟨⟨c, hc, rfl, hselected.pending⟩, ?_⟩,
      hchallenge.symm, hselected, hc⟩
    have hchallenges : after.authChallenges = _ := congrArg AuthFacts.challenges hfacts
    refine ⟨consumedRow input.atTime c, ?_, rfl, rfl⟩
    rw [hchallenges]
    exact Table.mem_set.2 (Or.inl ⟨c, hc, hselects, rfl⟩)

/-- A thread makes one first transaction. -/
theorem past_ne_nil_of_later {later : List (AuthEntry W)}
    (h : AuthChronicle config admits start (later ++ e :: earlier) db) :
    ∀ e' ∈ later, e'.thread = e.thread → e'.past ≠ [] := by
  intro e' he' hthread hpast
  obtain ⟨after, between, rfl⟩ := List.append_of_mem he'
  rw [List.append_assoc] at h
  have hown := h.at.1.own
  rw [hthread, hpast, stored, List.filter_nil, List.append_eq, items, List.map_eq_nil_iff,
    List.filter_eq_nil_iff] at hown
  exact hown e (by simp) (by simp)

theorem first_unique {log : List (AuthEntry W)} (h : AuthChronicle config admits start log db)
    {e e' : AuthEntry W} (he : e ∈ log) (he' : e' ∈ log) (hthread : e'.thread = e.thread)
    (hpast : e.past = []) (hpast' : e'.past = []) : e' = e := by
  obtain ⟨later, earlier, rfl⟩ := List.append_of_mem he
  obtain he' | he' := List.mem_append.1 he'
  · exact absurd hpast' (past_ne_nil_of_later h e' he' hthread)
  · obtain rfl | he' := List.mem_cons.1 he'
    · rfl
    · obtain ⟨between, before, rfl⟩ := List.append_of_mem he'
      rw [show later ++ e :: (between ++ e' :: before) = (later ++ e :: between) ++ e' :: before by
        simp] at h
      exact absurd hpast (past_ne_nil_of_later h e (by simp) hthread.symm)

/-- The requests of the entries of a thread. -/
theorem request_unique {log : List (AuthEntry W)} (h : AuthChronicle config admits start log db)
    {e e' : AuthEntry W} (he : e ∈ log) (he' : e' ∈ log) (hthread : e'.thread = e.thread) :
    e'.request = e.request := by
  obtain ⟨later, earlier, rfl⟩ := List.append_of_mem he
  obtain he' | he' := List.mem_append.1 he'
  · obtain ⟨after, between, rfl⟩ := List.append_of_mem he'
    rw [List.append_assoc] at h
    exact (h.at.1.request e (by simp) hthread.symm).symm
  · obtain rfl | he' := List.mem_cons.1 he'
    · rfl
    · exact h.at.1.request e' he' hthread

/-- The log of the flows. -/
abbrev FlowChronicle (config : AuthConfig) (start : Db) (log : List (AuthEntry W)) (db : Db) : Prop :=
  Chronicle (ServiceCall.exec config) (flowContract config) Db.authRows start log db

/-- The thread of a consumption writes for the account of the challenge only. -/
theorem writesFor_of_consumedBy {log : List (AuthEntry W)}
    (h : AuthChronicle config admits start log db) (hflows : FlowChronicle config start log db)
    {e e' : AuthEntry W} (he : e ∈ log) {input : ConsumeInput} {c : AuthChallenge}
    {earlier : List (AuthEntry W)} (hconsumed : ConsumedBy config start earlier e input c)
    (he' : e' ∈ log) (hthread : e'.thread = e.thread) :
    e'.call.WritesFor
      (toConsumed e.before.authAccounts input.atTime c).accountReference := by
  obtain ⟨later', earlier', hlog⟩ := List.append_of_mem he'
  have hrequest : e'.request.consumes config = some input :=
    (congrArg _ (request_unique h he he' hthread)).trans hconsumed.request
  have hallowed : e'.request.WritesForConsumed config e'.past e'.call := by
    rw [hlog] at hflows
    exact hflows.at.1.allowed
  rcases hallowed input hrequest with ⟨-, hcall⟩ | ⟨challenge, hpast, hcall⟩
  · rw [hcall]
    trivial
  · -- the challenge that the thread saw is the one of its first transaction
    have hitem : ServiceRequest.consumedItem input challenge ∈ items e'.thread earlier' := by
      rw [hlog] at h
      exact h.at.1.mem_items hpast rfl
    obtain ⟨later, e₁, earlier₁, hlog₁, hthread₁, hitem₁⟩ := exists_entry_of_mem_items hitem
    have he₁ : e₁ ∈ log := by
      rw [hlog, hlog₁]
      simp
    have hfirst : e₁.past = [] := by
      have hcall₁ : e₁.call = .email (.store (.consume input)) := congrArg Sigma.fst hitem₁
      obtain ⟨later₂, earlier₂, hlog₂⟩ := List.append_of_mem he₁
      rw [hlog₂] at h
      have hallowed₁ := h.at.1.allowed
      rw [hcall₁] at hallowed₁
      exact hallowed₁.1
    have hsame := first_unique h he he₁ (hthread₁.trans hthread) hconsumed.first hfirst
    rw [hsame, hconsumed.item] at hitem₁
    have hchallenge := Option.some.inj (eq_of_heq (Sigma.mk.inj hitem₁).2)
    rw [hchallenge]
    exact hcall

/-! ## Single use -/

/-- What the method says of the account that it succeeded for. -/
def ServiceRequest.succeedsFor : (request : ServiceRequest) → request.Value → Option String
  | .email (.completeEmailSignIn _), reference => some reference
  | .email (.completeRecovery _), result => some result.accountReference
  | .email (.consumeRecoveryGrant _), reference => some reference
  | .finishRegistration _, credential => some credential.accountReference
  | _, _ => none

/-- A flow that returned has consumed a challenge, that of the account it succeeded for. -/
theorem consumed_of_returned {request : ServiceRequest} {past : List ServiceItem}
    {value : request.Value} {input : ConsumeInput} (h : request.Returned config past value)
    (hrequest : request.consumes config = some input) :
    ∃ challenge, ServiceRequest.consumedItem input challenge ∈ past ∧
      ∀ reference, request.succeedsFor value = some reference →
        challenge.accountReference = some reference := by
  have hfor : ∀ reference, request.ConsumedFor config past reference →
      (∀ reference', request.succeedsFor value = some reference' → reference' = reference) →
        ∃ challenge, ServiceRequest.consumedItem input challenge ∈ past ∧
          ∀ reference', request.succeedsFor value = some reference' →
            challenge.accountReference = some reference' := by
    rintro reference ⟨input', challenge, hinput, hitem, haccount⟩ hsame
    obtain rfl := Option.some.inj (hrequest.symm.trans hinput)
    exact ⟨challenge, hitem, fun reference' h => hsame reference' h ▸ haccount⟩
  cases request with
  | email request =>
    cases request with
    | completeEmailSignIn input => exact hfor _ h fun _ h' => (Option.some.inj h').symm
    | completeRecovery input => exact hfor _ h fun _ h' => (Option.some.inj h').symm
    | consumeRecoveryGrant input => exact hfor _ h fun _ h' => (Option.some.inj h').symm
    | confirmEmailChange input =>
      obtain ⟨reference, h⟩ := h
      exact hfor reference h nofun
    | begin input => cases hrequest
    | lockAccount input => cases hrequest
    | beginEmailChange input => cases hrequest
  | finishRegistration input => exact hfor _ h fun _ h' => (Option.some.inj h').symm
  | finishAuthentication input =>
    obtain ⟨credential, result, challenge, -, -, hitem⟩ := h
    obtain rfl := Option.some.inj hrequest
    exact ⟨challenge, hitem, nofun⟩
  | issue input => cases hrequest
  | authenticate input => cases hrequest
  | beginRegistration input => cases hrequest
  | beginAuthentication input => cases hrequest
  | revokeCredential input => cases hrequest
  | direct call => cases hrequest

/-- Challenges are used once. -/
structure ChallengesUsedOnce (config : AuthConfig) (start : Db) (s : AuthSystem W) : Prop where
  /-- A stored challenge is consumed at most once. -/
  once : ∀ id later e earlier, s.log = later ++ e :: earlier → ConsumesChallenge id e →
    ∀ e' ∈ later ++ earlier, ¬ ConsumesChallenge id e'
  /-- It is consumed by a flow that presents its identifier or its digest, of its kind and domain and
  before it expires, and that flow writes for the account of the challenge only. -/
  flow : ∀ id later e earlier, s.log = later ++ e :: earlier → ConsumesChallenge id e →
    ∃ input c, c.id = id ∧ ConsumedBy config start earlier e input c ∧
      ∀ e' ∈ s.log, e'.thread = e.thread →
        e'.call.WritesFor (toConsumed e.before.authAccounts input.atTime c).accountReference
  /-- A flow that succeeds has consumed a challenge of the account that it succeeds for. -/
  success : ∀ w thread value input, s.threads w = some thread →
    thread.process = some (.done (.ok value)) → thread.request.consumes config = some input →
      ∃ later e earlier c, s.log = later ++ e :: earlier ∧ e.thread = w ∧ ConsumesChallenge c.id e ∧
        ConsumedBy config start earlier e input c ∧
        ∀ reference, thread.request.succeedsFor value = some reference →
          (toConsumed e.before.authAccounts input.atTime c).accountReference = some reference
  /-- At most one flow succeeds with the same token or identifier. -/
  one_success : ∀ w w' thread thread' value value' input input', s.threads w = some thread →
    s.threads w' = some thread' → thread.process = some (.done (.ok value)) →
      thread'.process = some (.done (.ok value')) → thread.request.consumes config = some input →
        thread'.request.consumes config = some input' → SameSelector input input' → w = w'

theorem flowChronicle_of_run {s₀ s : AuthSystem W} (hs₀ : s₀.Initial)
    (hrun : Reach (AuthSystem.step config) (fun _ _ => True) s₀ s) :
    FlowChronicle config s₀.store s.log s.store := by
  have htraced : s.Traced (ServiceCall.exec config) (flowContract config) Db.authRows s₀.store :=
    traced_of_reach flows_honoured (fun _ _ _ _ _ _ _ => trivial) (fun _ act _ => by
      cases act with
      | host w answer => exact fun _ => trivial
      | _ => trivial) hs₀ hrun
  exact htraced.chronicle

/-- The consumption behind a success. -/
theorem exists_consumedBy_of_success {s : AuthSystem W} (h : AuthTraced config admits start s)
    (hkeys : AuthKeys start.authFacts) {w : W} {thread : AuthThread} {value : thread.request.Value}
    {input : ConsumeInput} (hthread : s.threads w = some thread)
    (hdone : thread.process = some (.done (.ok value)))
    (hrequest : thread.request.consumes config = some input) :
    ∃ later e earlier c, s.log = later ++ e :: earlier ∧ e.thread = w ∧ ConsumesChallenge c.id e ∧
      ConsumedBy config start earlier e input c ∧
      ∀ reference, thread.request.succeedsFor value = some reference →
        (toConsumed e.before.authAccounts input.atTime c).accountReference = some reference := by
  have htracked := h.threads w thread hthread
  have hreturned : thread.request.Returned config thread.past value :=
    htracked.follows _ hdone value rfl
  obtain ⟨challenge, hitem, haccount⟩ := consumed_of_returned hreturned hrequest
  obtain ⟨later, e, earlier, c, hlog, hw, hcall, hconsumes, hchallenge, hselected, hc⟩ :=
    consumes_of_item h.chronicle (htracked.mem_items hitem rfl)
  have hchronicle := h.chronicle
  rw [hlog] at hchronicle
  obtain ⟨hvalid, hearlier⟩ := hchronicle.at
  obtain ⟨input', c', hid, hconsumed⟩ := consumedBy_of_consumes hvalid hearlier hkeys hconsumes
  obtain rfl : input' = input := by
    have hrequest' : e.request = thread.request := htracked.request e (by rw [hlog]; simp) hw
    exact Option.some.inj (hconsumed.request.symm.trans (hrequest' ▸ hrequest))
  obtain rfl : c' = c := Table.unique_of_nodup (authKeys_of_chronicle hearlier hkeys).challenges
    c' hconsumed.row c hc hid
  exact ⟨later, e, earlier, c', hlog, hw, hconsumes, hconsumed, fun reference hreference =>
    hchallenge ▸ haccount reference hreference⟩

theorem SameSelector.symm {input input' : ConsumeInput} (h : SameSelector input input') :
    SameSelector input' input := by
  rcases h with ⟨id, hid, hid'⟩ | ⟨digest, hdigest, hdigest'⟩
  · exact Or.inl ⟨id, hid', hid⟩
  · exact Or.inr ⟨digest, hdigest', hdigest⟩

/-- What was consumed before has another selector. -/
theorem not_consumes_of_sameSelector {later : List (AuthEntry W)}
    (h : AuthChronicle config admits start (later ++ e :: earlier) db)
    (hkeys : AuthKeys start.authFacts) {input input' : ConsumeInput}
    (hselector : SameSelector input input') {c c' : AuthChallenge}
    (hconsumes : ConsumesChallenge c.id e) (hc : c ∈ e.before.authChallenges)
    (hselected : Selected input c) (e' : AuthEntry W) (he' : e' ∈ earlier)
    (hc' : c' ∈ e'.before.authChallenges) (hselected' : Selected input' c') :
    ¬ ConsumesChallenge c'.id e' := by
  have hid : c.id = c'.id := by
    rcases issued_eq_of_sameSelector hselector hselected hselected' with hid | hdigest
    · exact hid
    · -- the earlier challenge is still stored
      have hearlier := h.at.2
      obtain ⟨between, before, hbetween⟩ := List.append_of_mem he'
      rw [hbetween] at hearlier
      obtain ⟨c₀, hc₀, hissued⟩ :=
        List.mem_map.1 (issued_subset hearlier (List.mem_map_of_mem hc'))
      have hdigest₀ : c₀.secretDigest = c'.secretDigest :=
        congrArg IssuedChallenge.secretDigest hissued
      have hid₀ : c₀.id = c'.id := congrArg IssuedChallenge.id hissued
      rw [Table.unique_of_nodup (authKeys_of_chronicle h.at.2 hkeys).secrets c hc c₀ hc₀
        (hdigest.trans hdigest₀.symm), hid₀]
  rw [← hid]
  exact not_consumes_again h hkeys hconsumes e' (List.mem_append_right _ he')

/-- In every run. -/
theorem challenges_used_once {s₀ s : AuthSystem W} (hs₀ : s₀.Initial)
    (hkeys : AuthKeys s₀.store.authFacts)
    (hrun : Reach (AuthSystem.step config) (fun _ _ => True) s₀ s) :
    ChallengesUsedOnce config s₀.store s := by
  have htraced := authTraced_of_run hs₀ hrun
  have hflows := flowChronicle_of_run hs₀ hrun
  have hchronicle := htraced.chronicle
  refine ⟨?_, ?_, ?_, ?_⟩
  · intro id later e earlier hlog hconsumes
    rw [hlog] at hchronicle
    exact not_consumes_again hchronicle hkeys hconsumes
  · intro id later e earlier hlog hconsumes
    have hat := hchronicle
    rw [hlog] at hat
    obtain ⟨hvalid, hearlier⟩ := hat.at
    obtain ⟨input, c, hid, hconsumed⟩ := consumedBy_of_consumes hvalid hearlier hkeys hconsumes
    refine ⟨input, c, hid, hconsumed, fun e' he' hthread => ?_⟩
    exact writesFor_of_consumedBy hchronicle hflows (by rw [hlog]; simp) hconsumed he' hthread
  · intro w thread value input hthread hdone hrequest
    exact exists_consumedBy_of_success htraced hkeys hthread hdone hrequest
  · intro w w' thread thread' value value' input input' hthread hthread' hdone hdone' hrequest
      hrequest' hselector
    obtain ⟨later, e, earlier, c, hlog, rfl, hconsumes, hconsumed, -⟩ :=
      exists_consumedBy_of_success htraced hkeys hthread hdone hrequest
    obtain ⟨later', e', earlier', c', hlog', rfl, hconsumes', hconsumed', -⟩ :=
      exists_consumedBy_of_success htraced hkeys hthread' hdone' hrequest'
    have he' : e' ∈ later ++ e :: earlier := by
      rw [← hlog, hlog']
      simp
    rw [hlog] at hchronicle
    obtain he' | he' := List.mem_append.1 he'
    · obtain ⟨after, between, rfl⟩ := List.append_of_mem he'
      rw [List.append_assoc] at hchronicle
      exact absurd hconsumes (not_consumes_of_sameSelector hchronicle hkeys hselector.symm hconsumes'
        hconsumed'.row hconsumed'.selected e (by simp) hconsumed.row hconsumed.selected)
    · obtain rfl | he' := List.mem_cons.1 he'
      · rfl
      · exact absurd hconsumes' (not_consumes_of_sameSelector hchronicle hkeys hselector hconsumes
          hconsumed.row hconsumed.selected e' he' hconsumed'.row hconsumed'.selected)

namespace AuthSample

/-- A registration is begun and finished, and then finished again. -/
def registersTwice : List (AuthAct ℕ) :=
  beginRegistration 0 .initialVerifiedEmail ⟨"first", 100, "credential:first", 0⟩ ++
  finishRegistration 1 ⟨"first", 100, "credential:first", 0⟩ ++
  (finishRegistration 2 ⟨"first", 100, "credential:second", 0⟩).take 2

theorem challenges_used_once_registered : ∃ s : AuthSystem ℕ,
    (s.store.authChallenges.any fun c => c.state = .consumed) = true ∧
      ChallengesUsedOnce AuthSample.config AuthSample.start.store s := by
  obtain ⟨s, hrun, htest⟩ := exists_run_of_any (AuthSystem.step AuthSample.config) AuthSample.start registersTwice
    (p := fun s => s.store.authChallenges.any fun c => c.state = .consumed) (by decide +kernel)
  exact ⟨s, htest, challenges_used_once (initial_initial _) start_keys
    (reach_of_run hrun (allSteps_of_mem (fun _ _ _ => trivial) AuthSample.start))⟩

end AuthSample

end ChecksAndBalances
