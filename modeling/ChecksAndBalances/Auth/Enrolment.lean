import ChecksAndBalances.Auth.Challenges
import ChecksAndBalances.Auth.Enrolled

/-!
# The authority behind an enrolment

`beginRegistration` looks at the active passkeys of the account, `finishRegistration` does not, and
the challenge does not say under which authority it was begun.
-/

namespace ChecksAndBalances

open Lib Lib.Tx Threads AuthRepository

section Runs

variable {W : Type} {config : AuthConfig} {admits : (call : ServiceCall) → call.Answer → Prop}
  {start db : Db}

/-! ## Registrations -/

/-- The challenge was created by this call of `beginRegistration`. -/
structure BegunBy (log : List (AuthEntry W)) (id : Uuid) (e : AuthEntry W)
    (input : PasskeyService.BeginRegistrationInput) : Prop where
  logged : e ∈ log
  request : e.request = .beginRegistration input
  creates : CreatesChallenge id e

/-- Every registration challenge was created by a call of `beginRegistration` for its account. -/
def RegistrationsBegun (log : List (AuthEntry W)) (facts : AuthFacts) : Prop :=
  ∀ c ∈ facts.challenges.map AuthChallenge.issued, c.kind = .passkeyRegistration →
    ∃ e input, BegunBy log c.id e input ∧ input.trustDomain = c.trustDomain ∧
      ∀ accountId, c.accountId = some accountId →
        (accountId, input.accountReference, input.trustDomain) ∈ facts.accounts

theorem BegunBy.cons {log : List (AuthEntry W)} {id : Uuid} {e : AuthEntry W}
    {input : PasskeyService.BeginRegistrationInput} (h : BegunBy log id e input)
    (e' : AuthEntry W) : BegunBy (e' :: log) id e input :=
  ⟨.tail _ h.logged, h.request, h.creates⟩

variable [DecidableEq W]

theorem RegistrationsBegun.cons {earlier : List (AuthEntry W)} {e : AuthEntry W}
    (h : RegistrationsBegun earlier e.before.authFacts) (hvalid : AuthValid config admits earlier e)
    (heffect : AuthEffect e.before e.call e.answer e.after) :
    RegistrationsBegun (e :: earlier) e.after.authFacts := by
  have hidentities := identities_effect heffect
  have hold : ∀ c ∈ e.before.authChallenges.map AuthChallenge.issued,
      c.kind = .passkeyRegistration → ∃ e₀ input, BegunBy (e :: earlier) c.id e₀ input ∧
        input.trustDomain = c.trustDomain ∧ ∀ accountId, c.accountId = some accountId →
          (accountId, input.accountReference, input.trustDomain) ∈ e.after.identities := by
    intro c hc hkind
    obtain ⟨e₀, input, hbegun, hdomain, haccount⟩ := h c hc hkind
    exact ⟨e₀, input, hbegun.cons e, hdomain, fun id hid => hidentities (haccount id hid)⟩
  intro c hc hkind
  rw [Db.authFacts_challenges] at hc
  obtain ⟨-, hissued⟩ | ⟨record, challenge, hcall, hnew, hchallenges⟩ := issued_effect heffect
  · exact hold c (hissued ▸ hc) hkind
  · rw [hchallenges, List.map_append, List.mem_append] at hc
    obtain hc | hc := hc
    · exact hold c hc hkind
    · obtain rfl := List.mem_singleton.1 hc
      have hallowed := hvalid.allowed
      rw [hcall] at hallowed
      obtain ⟨hregistration, hbegin, -⟩ := hallowed
      obtain ⟨input, hrequest⟩ := hregistration (hnew.kind.symm.trans hkind)
      obtain ⟨existing, ⟨id, options, -, rfl⟩, -⟩ := hbegin input hrequest
      refine ⟨e, input, ⟨.head _, hrequest, ?_⟩, hnew.domain.symm, fun accountId haccount => ?_⟩
      · rw [CreatesChallenge, hcall]
        exact congrArg some hnew.id.symm
      · obtain ⟨a, ha, rfl, hreference, hdomain⟩ := hnew.account accountId haccount
        have hidentity := mem_identities ha
        rw [← Option.some.inj hreference, hdomain] at hidentity
        exact hidentities hidentity

/-- In every run that starts without registration challenges. -/
theorem registrationsBegun_of_chronicle {log : List (AuthEntry W)}
    (h : AuthChronicle config admits start log db) (hkeys : AuthKeys start.authFacts)
    (hstart : ∀ c ∈ start.authChallenges, c.kind ≠ .passkeyRegistration) :
    RegistrationsBegun log db.authFacts := by
  refine auth_invariant (I := RegistrationsBegun) h hkeys ?_
    fun _ _ hvalid _ _ heffect hbegun => hbegun.cons hvalid heffect
  intro c hc hkind
  obtain ⟨row, hrow, rfl⟩ := List.mem_map.1 hc
  exact absurd hkind (hstart row hrow)

/-- A challenge was created once. -/
theorem BegunBy.unique {log : List (AuthEntry W)} (hlog : AuthChronicle config admits start log db)
    (hkeys : AuthKeys start.authFacts) {id : Uuid} {e e' : AuthEntry W}
    {input input' : PasskeyService.BeginRegistrationInput} (h : BegunBy log id e input)
    (h' : BegunBy log id e' input') : input = input' := by
  obtain rfl := (createdOnce_of_chronicle hlog hkeys).unique _ h.logged _ h'.logged id
    h.creates h'.creates
  simpa using h.request.symm.trans h'.request

/-! ## Saved passkeys -/

/-- The registration that a saved passkey goes back to. -/
theorem exists_begunBy_of_save {earlier : List (AuthEntry W)} {e : AuthEntry W}
    (hvalid : AuthValid config admits earlier e)
    (hearlier : AuthChronicle config admits start earlier e.before)
    (hkeys : AuthKeys start.authFacts)
    (hstart : ∀ c ∈ start.authChallenges, c.kind ≠ .passkeyRegistration)
    {credential : StoredPasskeyCredential} {createdAt : ℤ}
    (hcall : e.call = .passkey (.save credential createdAt)) :
    ∃ finish e₀ input, e.request = .finishRegistration finish ∧
      BegunBy earlier finish.challengeReference e₀ input ∧
      input.accountReference = credential.accountReference ∧
      input.trustDomain = credential.trustDomain := by
  have hallowed := hvalid.allowed
  rw [hcall] at hallowed
  obtain ⟨finish, reference, challenge, info, hrequest, rfl, hreference, hpast⟩ := hallowed
  have hitem : ServiceRequest.consumedItem (ceremonyConsumption finish.trustDomain
      finish.challengeReference .passkeyRegistration finish.now) challenge ∈ e.past := by
    rw [hpast]
    exact .tail _ (.head _)
  obtain ⟨later, e₁, before, c, rfl, -, hc, hselected, rfl, hbefore⟩ :=
    exists_consumed_row hearlier (hvalid.mem_items hitem rfl)
  obtain ⟨e₀, input, hbegun, hinput, haccount⟩ := registrationsBegun_of_chronicle hbefore hkeys
    hstart c.issued (List.mem_map_of_mem hc) hselected.kind
  refine ⟨finish, e₀, input, hrequest, ⟨?_, hbegun.request, ?_⟩, ?_,
    hinput.trans hselected.domain⟩
  · exact List.mem_append_right _ (.tail _ hbegun.logged)
  · rw [← hselected.id _ rfl]
    exact hbegun.creates
  · obtain ⟨accountId, hsome, hjoined⟩ := Option.bind_eq_some_iff.1 hreference
    obtain ⟨a, hfound, rfl⟩ := Option.map_eq_some_iff.1 hjoined
    obtain ⟨ha, htest⟩ := Table.mem_of_find? hfound
    obtain rfl := of_decide_eq_true htest
    have hidentity := (mem_identities_iff
      (authKeys_of_chronicle hbefore hkeys).accounts ha).1 (haccount _ hsome)
    exact hidentity.1.symm

/-- A registration begun without the authority to change credentials saw no active passkey, so that
those of the account were saved since. -/
theorem activeReferences_of_begunBy {log : List (AuthEntry W)}
    (hlog : AuthChronicle config admits start log db) (hkeys : AuthKeys start.authFacts) {id : Uuid}
    {e₀ : AuthEntry W} {input : PasskeyService.BeginRegistrationInput}
    (hbegun : BegunBy log id e₀ input) (hauthority : input.credentialChange = false) :
    (activeReferences db.authFacts input.accountReference input.trustDomain).Perm
      (enrolled input.accountReference input.trustDomain [] (sinceFirst e₀.thread log)) := by
  obtain ⟨hmem, hrequest, hcreates⟩ := hbegun
  obtain ⟨record, hcall⟩ := hcreates.exists_record
  obtain ⟨later, earlier, rfl⟩ := List.append_of_mem hmem
  obtain ⟨hvalid, hearlier⟩ := hlog.at
  have hallowed := hvalid.allowed
  rw [hcall, hrequest] at hallowed
  obtain ⟨existing, ⟨id', options, hpast, -⟩, hauthorized⟩ := hallowed.2.1 input rfl
  obtain ⟨rfl, -⟩ := hauthorized.resolve_right (by simp [hauthority])
  have hitem : (⟨.passkey (.listActive input.accountReference input.trustDomain),
      ([] : List StoredPasskeyCredential)⟩ : ServiceItem) ∈ e₀.past := by
    rw [hpast]
    exact .tail _ (.tail _ (.head _))
  have hlisted := mem_items_append (hvalid.mem_items hitem rfl) (later ++ [e₀])
  rw [List.append_assoc] at hlisted
  exact activeReferences_of_listed hkeys hlog hlisted

/-! ## The authority of an enrolment -/

/-- A passkey that is saved while the account has an active one goes back to a registration that was
begun with the authority to change credentials. -/
def EnrolledWithAuthority (earlier : List (AuthEntry W)) (e : AuthEntry W) : Prop :=
  ∀ credential createdAt, e.call = .passkey (.save credential createdAt) →
    activePasskeys e.before credential.accountReference credential.trustDomain ≠ [] →
      ∃ finish e₀ input, e.request = .finishRegistration finish ∧
        BegunBy earlier finish.challengeReference e₀ input ∧
        input.accountReference = credential.accountReference ∧
        input.trustDomain = credential.trustDomain ∧ input.credentialChange = true

/-- When a registration that was begun without that authority is finished, every passkey of the
account that was saved since it was begun has been revoked. -/
def FinishesFirst (earlier : List (AuthEntry W)) (e : AuthEntry W) : Prop :=
  ∀ credential createdAt, e.call = .passkey (.save credential createdAt) →
    ∀ finish e₀ input, e.request = .finishRegistration finish →
      BegunBy earlier finish.challengeReference e₀ input → input.credentialChange = false →
        enrolled credential.accountReference credential.trustDomain []
          (sinceFirst e₀.thread earlier) = []

/-- The two agree at every entry. -/
theorem enrolled_iff_of_valid {earlier : List (AuthEntry W)} {e : AuthEntry W}
    (hvalid : AuthValid config admits earlier e)
    (hearlier : AuthChronicle config admits start earlier e.before)
    (hkeys : AuthKeys start.authFacts)
    (hstart : ∀ c ∈ start.authChallenges, c.kind ≠ .passkeyRegistration) :
    EnrolledWithAuthority earlier e ↔ FinishesFirst earlier e := by
  have hactive := activePasskeys_eq_nil_iff (authKeys_of_chronicle hearlier hkeys)
  constructor
  · intro henrolled credential createdAt hcall finish e₀ input hrequest hbegun hauthority
    obtain ⟨finish₁, e₁, input₁, hrequest₁, hbegun₁, hreference, hdomain⟩ :=
      exists_begunBy_of_save hvalid hearlier hkeys hstart hcall
    obtain rfl : finish = finish₁ := by simpa using hrequest.symm.trans hrequest₁
    obtain rfl := hbegun.unique hearlier hkeys hbegun₁
    have hperm := activeReferences_of_begunBy hearlier hkeys hbegun hauthority
    rw [hreference, hdomain] at hperm
    -- otherwise the property gives the challenge a second authority
    by_contra hsaved
    have hne : activePasskeys e.before credential.accountReference credential.trustDomain ≠ [] :=
      fun hnil => hsaved ((hactive _ _).1 hnil ▸ hperm).nil_eq.symm
    obtain ⟨finish₂, e₂, input₂, hrequest₂, hbegun₂, -, -, hchange⟩ :=
      henrolled credential createdAt hcall hne
    obtain rfl : finish = finish₂ := by simpa using hrequest.symm.trans hrequest₂
    obtain rfl := hbegun.unique hearlier hkeys hbegun₂
    rw [hauthority] at hchange
    cases hchange
  · intro hfirst credential createdAt hcall hne
    obtain ⟨finish, e₀, input, hrequest, hbegun, hreference, hdomain⟩ :=
      exists_begunBy_of_save hvalid hearlier hkeys hstart hcall
    refine ⟨finish, e₀, input, hrequest, hbegun, hreference, hdomain, ?_⟩
    by_contra hauthority
    rw [Bool.not_eq_true] at hauthority
    have hperm := activeReferences_of_begunBy hearlier hkeys hbegun hauthority
    rw [hreference, hdomain, hfirst _ _ hcall _ _ _ hrequest hbegun hauthority] at hperm
    exact hne ((hactive _ _).2 hperm.eq_nil)

/-- Along every run, passkeys are added to active ones only with the authority to change credentials
exactly when registrations begun without it are finished before another passkey is saved, or after
it is revoked. -/
theorem enrolled_with_authority_iff {s₀ s : AuthSystem W} (hs₀ : s₀.Initial)
    (hkeys : AuthKeys s₀.store.authFacts)
    (hstart : ∀ c ∈ s₀.store.authChallenges, c.kind ≠ .passkeyRegistration)
    (hrun : Reach (AuthSystem.step config) (fun _ _ => True) s₀ s) :
    Along EnrolledWithAuthority s.log ↔ Along FinishesFirst s.log :=
  Along.congr ((authTraced_of_run hs₀ hrun).chronicle.along fun _ _ _ hvalid hearlier =>
    enrolled_iff_of_valid hvalid hearlier hkeys hstart)

end Runs

namespace AuthSample

/-- Two registrations are begun with the initial authority, and both are finished. -/
def twoInitial : List (AuthAct ℕ) :=
  beginRegistration 0 .initialVerifiedEmail ⟨"first", 100, "credential:first", 0⟩ ++
  beginRegistration 1 .initialVerifiedEmail ⟨"second", 101, "credential:second", 0⟩ ++
  finishRegistration 2 ⟨"first", 100, "credential:first", 0⟩ ++
  finishRegistration 3 ⟨"second", 101, "credential:second", 0⟩

/-- A passkey is saved next to an active one, and nobody had the authority to change credentials. -/
def enrolsSecond (s : AuthSystem ℕ) : Bool :=
  match s.log with
  | [] => false
  | e :: earlier =>
    match e.call with
    | .passkey (.save credential _) =>
      !(activePasskeys e.before credential.accountReference credential.trustDomain).isEmpty &&
        earlier.all fun e' => match e'.request with
          | .beginRegistration input => !input.credentialChange
          | _ => true
    | _ => false

theorem not_enrolledWithAuthority {s : AuthSystem ℕ} (h : enrolsSecond s = true) :
    ¬ Along EnrolledWithAuthority s.log := by
  intro halong
  unfold enrolsSecond at h
  split at h
  · cases h
  · next e earlier hlog =>
    rw [hlog] at halong
    split at h
    · next credential createdAt hcall =>
      rw [Bool.and_eq_true, Bool.not_eq_true', List.isEmpty_eq_false_iff, List.all_eq_true] at h
      obtain ⟨finish, e₀, input, -, hbegun, -, -, hchange⟩ := halong.1 _ _ hcall h.1
      have hnone := h.2 e₀ hbegun.logged
      rw [hbegun.request] at hnone
      simp [hchange] at hnone
    · cases h

theorem twoInitial_run : ∃ s : AuthSystem ℕ,
    Reach (AuthSystem.step config) (fun _ _ => True) start s ∧ enrolsSecond s = true := by
  obtain ⟨s, hrun, htest⟩ := exists_run_of_any (AuthSystem.step config) start twoInitial
    (p := enrolsSecond) (by decide +kernel)
  exact ⟨s, reach_of_run hrun (allSteps_of_mem (fun _ _ _ => trivial) start), htest⟩

theorem two_initial_enrolments : ∃ s : AuthSystem ℕ, start.Initial ∧
    AuthKeys start.store.authFacts ∧
    (∀ c ∈ start.store.authChallenges, c.kind ≠ .passkeyRegistration) ∧
    Reach (AuthSystem.step config) (fun _ _ => True) start s ∧
    ¬ Along EnrolledWithAuthority s.log := by
  obtain ⟨s, hrun, htest⟩ := twoInitial_run
  exact ⟨s, initial_initial _, start_keys, by decide, hrun, not_enrolledWithAuthority htest⟩

theorem two_initial_enrolments_iff : ∃ s : AuthSystem ℕ, enrolsSecond s = true ∧
    (Along EnrolledWithAuthority s.log ↔ Along FinishesFirst s.log) := by
  obtain ⟨s, hrun, htest⟩ := twoInitial_run
  exact ⟨s, htest, enrolled_with_authority_iff (initial_initial _) start_keys (by decide) hrun⟩

end AuthSample

end ChecksAndBalances
