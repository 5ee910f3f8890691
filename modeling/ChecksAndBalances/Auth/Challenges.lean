import ChecksAndBalances.Auth.Keys

/-!
# The life of a challenge

What no statement changes of a challenge, which call created it, and the row behind a consumption.
-/

namespace ChecksAndBalances

open Lib Lib.Tx Threads AuthRepository

variable {db db' : Db}

/-! ## One call -/

/-- What no statement changes of a challenge. -/
structure IssuedChallenge where
  id : Uuid
  accountId : Option Uuid
  trustDomain : TrustDomain
  kind : AuthChallengeKind
  secretDigest : String
  expiresAt : ℤ

/-- What no statement changes of the challenge. -/
def AuthChallenge.issued (c : AuthChallenge) : IssuedChallenge :=
  { id := c.id
    accountId := c.accountId
    trustDomain := c.trustDomain
    kind := c.kind
    secretDigest := c.secretDigest
    expiresAt := c.expiresAt }

/-- The challenge that a call creates. -/
def ServiceCall.createdChallenge : ServiceCall → Option Uuid
  | email (.store (.createChallenge record)) => some record.id
  | _ => none

theorem createdChallenge_of_not_writes {call : ServiceCall} (h : call.writes = false) :
    call.createdChallenge = none := by
  cases call with
  | email call =>
    cases call with
    | store call => cases call <;> first | rfl | cases h
    | host call => rfl
  | _ => rfl

theorem createdChallenge_of_revokesSessions {call : ServiceCall}
    (h : call.revokesSessions = true) : call.createdChallenge = none := by
  cases call with
  | email call =>
    cases call with
    | store call => cases call <;> first | rfl | cases h
    | host call => rfl
  | _ => rfl

/-- A call creates one challenge, or leaves what is issued as it is. -/
theorem issued_effect {call : ServiceCall} {answer : call.Answer}
    (heffect : AuthEffect db call answer db') :
    (call.createdChallenge = none ∧
      db'.authChallenges.map AuthChallenge.issued = db.authChallenges.map AuthChallenge.issued) ∨
    ∃ record challenge, call = .email (.store (.createChallenge record)) ∧
      NewChallenge db record challenge ∧ db'.authChallenges = db.authChallenges ++ [challenge] := by
  have hkept : db'.authFacts.challenges = db.authChallenges →
      db'.authChallenges.map AuthChallenge.issued = db.authChallenges.map AuthChallenge.issued :=
    fun h => congrArg (List.map _) h
  cases heffect with
  | kept hcall hfacts =>
    exact Or.inl ⟨createdChallenge_of_not_writes hcall, hkept (congrArg AuthFacts.challenges hfacts)⟩
  | challengeCreated challenge hnew hfacts =>
    exact Or.inr ⟨_, challenge, rfl, hnew, congrArg AuthFacts.challenges hfacts⟩
  | consumed hanswer hfacts =>
    refine Or.inl ⟨rfl, ?_⟩
    refine (congrArg (List.map _) (congrArg AuthFacts.challenges hfacts)).trans ?_
    exact Table.map_set (f := consumedRow _) AuthChallenge.issued (fun _ => rfl) _
  | sessionsRevoked hcall selected reason atTime hfacts =>
    exact Or.inl ⟨createdChallenge_of_revokesSessions hcall,
      hkept (congrArg AuthFacts.challenges hfacts)⟩
  | _ =>
    rename_i hfacts
    exact Or.inl ⟨rfl, hkept (congrArg AuthFacts.challenges hfacts)⟩

/-- What `consume` selects. -/
structure Selected (input : ConsumeInput) (c : AuthChallenge) : Prop where
  id : ∀ id, input.challengeId = some id → c.id = id
  digest : ∀ digest, input.secretDigest = some digest → c.secretDigest = digest
  kind : c.kind = input.kind
  domain : c.trustDomain = input.trustDomain
  pending : c.state = .pending
  unexpired : input.atTime < c.expiresAt

theorem selected_of_selects {input : ConsumeInput} {c : AuthChallenge}
    (h : ConsumeInput.selects input c = true) : Selected input c := by
  simp only [ConsumeInput.selects, Bool.and_eq_true, decide_eq_true_eq, Option.all_eq_true] at h
  obtain ⟨⟨⟨⟨⟨⟨hid, hdigest⟩, hkind⟩, hdomain⟩, hpending⟩, hunexpired⟩, -⟩ := h
  exact ⟨hid, hdigest, hkind, hdomain, hpending, hunexpired⟩

/-- No account is lost. -/
theorem identities_effect {call : ServiceCall} {answer : call.Answer}
    (heffect : AuthEffect db call answer db') : db.identities ⊆ db'.identities := by
  cases heffect with
  | accountCreated id hfresh hfacts =>
    rw [← Db.authFacts_accounts db', hfacts]
    exact List.subset_append_left _ _
  | _ =>
    rename_i hfacts
    rw [← Db.authFacts_accounts db', hfacts]
    exact List.Subset.refl _

/-! ## Runs -/

section Runs

variable {W : Type} {config : AuthConfig} {start : Db}
  {admits : (call : ServiceCall) → call.Answer → Prop}

/-- The entry created the challenge. -/
def CreatesChallenge (id : Uuid) (e : AuthEntry W) : Prop := e.call.createdChallenge = some id

theorem CreatesChallenge.exists_record {id : Uuid} {e : AuthEntry W}
    (h : CreatesChallenge id e) : ∃ record, e.call = .email (.store (.createChallenge record)) := by
  unfold CreatesChallenge ServiceCall.createdChallenge at h
  split at h
  · next record hcall => exact ⟨record, hcall⟩
  · cases h

/-- The challenges that the log created are stored, each created by one call. -/
structure CreatedOnce (log : List (AuthEntry W)) (facts : AuthFacts) : Prop where
  stored : ∀ e ∈ log, ∀ id, CreatesChallenge id e →
    id ∈ facts.challenges.map AuthChallenge.id
  unique : ∀ e ∈ log, ∀ e' ∈ log, ∀ id, CreatesChallenge id e → CreatesChallenge id e' → e = e'

theorem issued_ids (challenges : List AuthChallenge) :
    challenges.map AuthChallenge.id =
      (challenges.map AuthChallenge.issued).map IssuedChallenge.id := by
  rw [List.map_map]
  rfl

theorem CreatedOnce.cons {earlier : List (AuthEntry W)} {e : AuthEntry W}
    (h : CreatedOnce earlier e.before.authFacts)
    (heffect : AuthEffect e.before e.call e.answer e.after) :
    CreatedOnce (e :: earlier) e.after.authFacts := by
  obtain ⟨hnone, hissued⟩ | ⟨record, challenge, hcall, hnew, hchallenges⟩ := issued_effect heffect
  · have hids : e.after.authChallenges.map AuthChallenge.id =
        e.before.authChallenges.map AuthChallenge.id := by
      rw [issued_ids, hissued, ← issued_ids]
    constructor
    · rintro e' (_ | ⟨_, he'⟩) id hid
      · rw [CreatesChallenge, hnone] at hid
        cases hid
      · exact hids ▸ h.stored e' he' id hid
    · rintro e₁ (_ | ⟨_, he₁⟩) e₂ (_ | ⟨_, he₂⟩) id hid₁ hid₂
      · rfl
      · rw [CreatesChallenge, hnone] at hid₁
        cases hid₁
      · rw [CreatesChallenge, hnone] at hid₂
        cases hid₂
      · exact h.unique e₁ he₁ e₂ he₂ id hid₁ hid₂
  · have hself : ∀ id, CreatesChallenge id e → id = challenge.id := by
      intro id hid
      rw [CreatesChallenge, hcall] at hid
      exact (Option.some.inj hid).symm.trans hnew.id.symm
    have hfresh : challenge.id ∉ e.before.authChallenges.map AuthChallenge.id := by
      intro hmem
      obtain ⟨c, hc, hid⟩ := List.mem_map.1 hmem
      exact (hnew.fresh c hc).1 (hid.trans hnew.id)
    constructor
    · show ∀ e' ∈ e :: earlier, ∀ id, _ → id ∈ e.after.authChallenges.map AuthChallenge.id
      rw [hchallenges, List.map_append]
      rintro e' (_ | ⟨_, he'⟩) id hid
      · rw [hself id hid]
        exact List.mem_append_right _ (.head _)
      · exact List.mem_append_left _ (h.stored e' he' id hid)
    · rintro e₁ (_ | ⟨_, he₁⟩) e₂ (_ | ⟨_, he₂⟩) id hid₁ hid₂
      · rfl
      · exact absurd (hself id hid₁ ▸ h.stored e₂ he₂ id hid₂) hfresh
      · exact absurd (hself id hid₂ ▸ h.stored e₁ he₁ id hid₁) hfresh
      · exact h.unique e₁ he₁ e₂ he₂ id hid₁ hid₂

variable [DecidableEq W]

/-- In every run. -/
theorem createdOnce_of_chronicle {log : List (AuthEntry W)} {db : Db}
    (h : AuthChronicle config admits start log db) (hstart : AuthKeys start.authFacts) :
    CreatedOnce log db.authFacts :=
  auth_invariant (I := CreatedOnce) h hstart ⟨by simp, by simp⟩
    fun _ _ _ _ _ heffect hcreated => hcreated.cons heffect

/-- The row behind a consumption of a thread. -/
theorem exists_consumed_row {log : List (AuthEntry W)} {db : Db}
    (h : AuthChronicle config admits start log db) {w : W} {input : ConsumeInput}
    {challenge : ConsumedAuthChallenge}
    (hitem : ServiceRequest.consumedItem input challenge ∈ items w log) :
    ∃ later e earlier c, log = later ++ e :: earlier ∧ e.thread = w ∧
      c ∈ e.before.authChallenges ∧ Selected input c ∧
      challenge = toConsumed e.before.authAccounts input.atTime c ∧
      AuthChronicle config admits start earlier e.before := by
  obtain ⟨later, e, earlier, rfl, hthread, heq⟩ := exists_entry_of_mem_items hitem
  obtain ⟨hvalid, hearlier⟩ := h.at
  obtain ⟨w', request, past, call, answer, before, after⟩ := e
  obtain ⟨rfl, hanswer⟩ := Sigma.mk.inj heq
  obtain rfl := eq_of_heq hanswer
  cases authEffect_of_valid hvalid with
  | kept hcall hfacts => cases hcall
  | sessionsRevoked hcall selected reason atTime hfacts => cases hcall
  | consumed hanswer hfacts =>
    obtain ⟨c, hfound, hchallenge⟩ := Option.map_eq_some_iff.1 hanswer.symm
    obtain ⟨hc, hselected⟩ := Table.mem_of_find? hfound
    exact ⟨later, _, earlier, c, rfl, hthread, hc,
      selected_of_selects hselected, hchallenge.symm, hearlier⟩

end Runs

end ChecksAndBalances
