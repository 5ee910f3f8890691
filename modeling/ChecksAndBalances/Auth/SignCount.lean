import ChecksAndBalances.Auth.Keys

/-!
# Signature counters

`finishAuthentication` reads the stored counter, lets the WebAuthn library compare it with the one of
the response, and stores the latter if the stored counter is at most that.
-/

namespace ChecksAndBalances

open Lib Lib.Tx Threads AuthRepository

variable {db db' : Db}

/-! ## One call -/

/-- The call stores the usage. -/
def ServiceCall.stores (call : ServiceCall) (usage : PasskeyUsage) : Prop :=
  call = .passkey (.updateUsage usage)

/-- A passkey after a call: its counter is as it was, or the call stored a counter that is no
less. -/
inductive CountedAfter (call : ServiceCall) (p p' : PasskeyMetadata) : Prop
  | kept (hcount : p'.signCount = p.signCount)
      (hcall : ∀ usage, call.stores usage → usage.credentialReference ≠ p.credentialReference)
  | stored (usage : PasskeyUsage) (hcall : call.stores usage)
      (hreference : usage.credentialReference = p.credentialReference)
      (hcount : p'.signCount = usage.counter) (hle : p.signCount ≤ usage.counter)

/-- What a call leaves of a passkey. -/
theorem counted_effect (hkeys : AuthKeys db.authFacts) {call : ServiceCall} {answer : call.Answer}
    (heffect : AuthEffect db call answer db') {p : PasskeyMetadata} (hp : p ∈ db.passkeys) :
    ∃ p' ∈ db'.passkeys, p'.credentialReference = p.credentialReference ∧
      CountedAfter call p p' := by
  have hkept : (∀ usage, ¬ call.stores usage) → p ∈ db'.authFacts.passkeys →
      ∃ p' ∈ db'.passkeys, p'.credentialReference = p.credentialReference ∧
        CountedAfter call p p' :=
    fun hcall hp => ⟨p, hp, rfl, .kept rfl fun usage h => absurd h (hcall usage)⟩
  cases heffect with
  | kept hcall hfacts =>
    refine hkept (fun usage h => ?_) (hfacts ▸ hp)
    rw [h] at hcall
    cases hcall
  | sessionsRevoked hcall selected reason atTime hfacts =>
    refine hkept (fun usage h => ?_) (hfacts ▸ hp)
    rw [h] at hcall
    cases hcall
  | passkeySaved passkey hnew hfacts =>
    exact hkept nofun (hfacts ▸ List.mem_append_left _ hp)
  | passkeyRevoked hcount hfacts =>
    rw [← Db.authFacts_passkeys db', hfacts]
    refine ⟨_, Table.mem_set_of_mem hp, ?_, ?_⟩
    · split_ifs <;> rfl
    · refine .kept ?_ nofun
      split_ifs <;> rfl
  | @passkeyUsed input u db' hcount hfacts =>
    rw [← Db.authFacts_passkeys db', hfacts]
    obtain ⟨k, hk, husable⟩ := List.countP_pos_iff.1 (hcount ▸ Nat.one_pos)
    have hselected := husable
    simp only [usable, Bool.and_eq_true, decide_eq_true_eq] at husable
    by_cases hsame : input.credentialReference = p.credentialReference
    · obtain rfl := Table.unique_of_nodup hkeys.passkeys k hk p hp (husable.1.1.trans hsame)
      refine ⟨_, Table.mem_set_of_mem hp, ?_, .stored input rfl hsame ?_ husable.2⟩
      · rw [if_pos hselected]
        rfl
      · rw [if_pos hselected]
        rfl
    · refine ⟨_, Table.mem_set_of_mem hp, ?_, .kept ?_ ?_⟩
      · split_ifs <;> rfl
      · rw [if_neg (by simp [usable, Ne.symm hsame])]
      · rintro usage ⟨⟩
        exact hsame
  | _ =>
    rename_i hfacts
    exact hkept nofun (hfacts ▸ hp)

/-- A call that stores a usage found the passkey with a counter that is no greater. -/
theorem exists_usable (hkeys : AuthKeys db.authFacts) {call : ServiceCall} {answer : call.Answer}
    (heffect : AuthEffect db call answer db') {usage : PasskeyUsage} (hcall : call.stores usage) :
    ∃ p ∈ db.passkeys, ∃ p' ∈ db'.passkeys, p.credentialReference = usage.credentialReference ∧
      p'.credentialReference = usage.credentialReference ∧ p.signCount ≤ usage.counter ∧
      p'.signCount = usage.counter := by
  subst hcall
  have hcounted := @counted_effect _ _ hkeys _ _ heffect
  cases heffect with
  | kept hcall hfacts => cases hcall
  | sessionsRevoked hcall selected reason atTime hfacts => cases hcall
  | passkeyUsed hcount hfacts =>
    obtain ⟨p, hp, husable⟩ := List.countP_pos_iff.1 (hcount ▸ Nat.one_pos)
    simp only [usable, Bool.and_eq_true, decide_eq_true_eq] at husable
    obtain ⟨p', hp', hreference, hafter⟩ := hcounted hp
    refine ⟨p, hp, p', hp', husable.1.1, hreference.trans husable.1.1, husable.2, ?_⟩
    cases hafter with
    | kept hcount hcall => exact absurd husable.1.1.symm (hcall _ rfl)
    | stored usage' hcall husage hcount hle =>
      obtain rfl : usage = usage' := by simpa [ServiceCall.stores] using hcall
      exact hcount

/-- What `findActive` finds. -/
theorem commits_findActive {reference : String} {trustDomain : TrustDomain}
    {credential : StoredPasskeyCredential}
    (h : Commits (findActive reference trustDomain) db (some credential) db') :
    db' = db ∧ ∃ p ∈ db.passkeys, ∃ a, credential = mapPasskey p a := by
  unfold findActive at h
  simp only [commits_get_bind, commits_pure] at h
  obtain ⟨hfound, hdb⟩ := h
  have hmem := List.mem_of_head? hfound.symm
  obtain ⟨p, hp, hrow⟩ := List.mem_flatMap.1 hmem
  obtain ⟨a, -, heq⟩ := List.mem_map.1 hrow
  exact ⟨hdb, p, hp, a, heq.symm⟩

section Runs

variable {W : Type} {config : AuthConfig} {start : Db}
  {admits : (call : ServiceCall) → call.Answer → Prop}

/-! ## The properties -/

/-- What `verifyAuthenticationResponse` accepts: it rejects a counter that is not greater than the
stored one when either is not zero. -/
def CountersChecked : (call : ServiceCall) → call.Answer → Prop
  | .webAuthn (.verifyAuthenticationResponse input), answer =>
    ∀ result, answer = some result → result.verified = true →
      input.credential.counter < result.newCounter ∨
        (result.newCounter = 0 ∧ input.credential.counter = 0)
  | _, _ => True

/-- A stored counter that is not zero was not stored for the credential before. -/
def FreshCount (earlier : List (AuthEntry W)) (e : AuthEntry W) : Prop :=
  ∀ usage, e.call.stores usage → usage.counter ≠ 0 → ∀ e' ∈ earlier, ∀ usage',
    e'.call.stores usage' → usage'.credentialReference = usage.credentialReference →
      usage'.counter ≠ usage.counter

/-- A counter that is not zero is not yet the stored one when it is stored. -/
def CountMoves (_earlier : List (AuthEntry W)) (e : AuthEntry W) : Prop :=
  ∀ usage, e.call.stores usage → usage.counter ≠ 0 → ∀ p ∈ e.before.passkeys,
    p.credentialReference = usage.credentialReference → p.signCount ≠ usage.counter

/-- No stored counter decreases. -/
def CountsGrow (_earlier : List (AuthEntry W)) (e : AuthEntry W) : Prop :=
  ∀ p ∈ e.before.passkeys, ∃ p' ∈ e.after.passkeys,
    p'.credentialReference = p.credentialReference ∧ p.signCount ≤ p'.signCount

/-! ## Runs -/

/-- A passkey after a part of the log: its counter is as it was, or a call stored it. -/
structure Counted (log : List (AuthEntry W)) (p p' : PasskeyMetadata) : Prop where
  reference : p'.credentialReference = p.credentialReference
  grows : p.signCount ≤ p'.signCount
  source : p'.signCount = p.signCount ∨ ∃ e ∈ log, ∃ usage, e.call.stores usage ∧
    usage.credentialReference = p.credentialReference ∧ usage.counter = p'.signCount

theorem Counted.cons {log : List (AuthEntry W)} {p p' p'' : PasskeyMetadata}
    (h : Counted log p p') {e : AuthEntry W}
    (hreference : p''.credentialReference = p'.credentialReference)
    (hcounted : CountedAfter e.call p' p'') : Counted (e :: log) p p'' := by
  cases hcounted with
  | kept hcount hcall =>
    refine ⟨hreference.trans h.reference, hcount ▸ h.grows, ?_⟩
    rw [hcount]
    obtain hsame | ⟨e', he', hstored⟩ := h.source
    · exact Or.inl hsame
    · exact Or.inr ⟨e', .tail _ he', hstored⟩
  | stored usage hcall husage hcount hle =>
    refine ⟨hreference.trans h.reference, h.grows.trans (hcount ▸ hle), Or.inr ?_⟩
    exact ⟨e, .head _, usage, hcall, husage.trans h.reference, hcount.symm⟩

theorem CountedAfter.le {call : ServiceCall} {p p' : PasskeyMetadata} (h : CountedAfter call p p') :
    p.signCount ≤ p'.signCount := by
  cases h with
  | kept hcount hcall => exact hcount.ge
  | stored usage hcall husage hcount hle => exact hcount ▸ hle

variable [DecidableEq W]

/-- A passkey since an entry. -/
theorem counted_since (hkeys : AuthKeys start.authFacts) {later earlier : List (AuthEntry W)}
    {e : AuthEntry W} (h : AuthChronicle config admits start (later ++ e :: earlier) db)
    {p : PasskeyMetadata} (hp : p ∈ e.after.passkeys) : ∃ p' ∈ db.passkeys, Counted later p p' := by
  refine h.invariant_after (I := fun later db => ∃ p' ∈ db.passkeys, Counted later p p') ?_ ?_ ?_
  · rintro log s s' hview ⟨p', hp', hcounted⟩
    have hpasskeys : s'.passkeys = s.passkeys :=
      congrArg AuthFacts.passkeys (authFacts_of_rows hview)
    exact ⟨p', hpasskeys ▸ hp', hcounted⟩
  · exact ⟨p, hp, rfl, le_rfl, Or.inl rfl⟩
  · rintro log e' hvalid hearlier ⟨p', hp', hcounted⟩
    obtain ⟨p'', hp'', hreference, hafter⟩ :=
      counted_effect (authKeys_of_chronicle hearlier hkeys) (authEffect_of_valid hvalid) hp'
    exact ⟨p'', hp'', hcounted.cons hreference hafter⟩

/-- What an authentication found, verified and stored. -/
structure Authentication (earlier : List (AuthEntry W)) (e : AuthEntry W) (usage : PasskeyUsage)
    (found : PasskeyMetadata) : Prop where
  entry : ∃ later e₀ before, earlier = later ++ e₀ :: before ∧ found ∈ e₀.after.passkeys
  reference : found.credentialReference = usage.credentialReference
  checked : found.signCount < usage.counter ∨ (usage.counter = 0 ∧ found.signCount = 0)

theorem authentication_of_valid {earlier : List (AuthEntry W)} {e : AuthEntry W}
    {usage : PasskeyUsage} (hvalid : AuthValid config CountersChecked earlier e)
    (hearlier : AuthChronicle config CountersChecked start earlier e.before)
    (hcall : e.call.stores usage) : ∃ found, Authentication earlier e usage found := by
  have hallowed := hvalid.allowed
  rw [show e.call = _ from hcall] at hallowed
  obtain ⟨input, challenge, credential, result, hrequest, rfl, hverified, hpast⟩ := hallowed
  have hverification : (⟨.webAuthn (.verifyAuthenticationResponse
      (PasskeyService.authenticationVerification config input challenge credential)),
      some result⟩ : ServiceItem) ∈ e.past := by
    rw [hpast]
    exact .head _
  have hfind : (⟨.passkey (.findActive input.response.id input.trustDomain), some credential⟩ :
      ServiceItem) ∈ e.past := by
    rw [hpast]
    exact .tail _ (.head _)
  obtain ⟨later, e₀, before, rfl, -, heq⟩ :=
    exists_entry_of_mem_items (hvalid.mem_items hfind rfl)
  obtain ⟨w, request, past, call, answer, db₀, db₁⟩ := e₀
  obtain ⟨rfl, hanswer⟩ := Sigma.mk.inj heq
  obtain rfl := eq_of_heq hanswer
  obtain ⟨_, hexec, hcommits⟩ := hearlier.at.1.commits
  obtain rfl := Option.some.inj hexec
  obtain ⟨hsame, found, hfound, a, rfl⟩ := commits_findActive hcommits
  refine ⟨found, ⟨later, _, before, rfl, hsame ▸ hfound⟩, rfl, ?_⟩
  exact hvalid.admitted _ hverification result rfl hverified

/-- The two agree at every entry. -/
theorem freshCount_iff_of_valid (hkeys : AuthKeys start.authFacts) {earlier : List (AuthEntry W)}
    {e : AuthEntry W} (hvalid : AuthValid config CountersChecked earlier e)
    (hearlier : AuthChronicle config CountersChecked start earlier e.before) :
    FreshCount earlier e ↔ CountMoves earlier e := by
  have hbefore := authKeys_of_chronicle hearlier hkeys
  constructor
  · intro hfresh usage hcall hne p hp hreference hsame
    obtain ⟨found, ⟨later, e₀, before, rfl, hfound⟩, hfound_reference, hchecked⟩ :=
      authentication_of_valid hvalid hearlier hcall
    obtain ⟨p', hp', hcounted⟩ := counted_since hkeys hearlier hfound
    obtain rfl := Table.unique_of_nodup hbefore.passkeys p' hp' p hp
      (hcounted.reference.trans (hfound_reference.trans hreference.symm))
    obtain hstale | ⟨e', he', usage', hcall', hreference', hcount⟩ := hcounted.source
    · obtain hlt | ⟨hzero, -⟩ := hchecked
      · omega
      · exact hne hzero
    · exact hfresh usage hcall hne e' (List.mem_append_left _ he') usage' hcall'
        (hreference'.trans hfound_reference) (hcount.trans hsame)
  · intro hmoves usage hcall hne e' he' usage' hcall' hreference hsame
    obtain ⟨later, before, rfl⟩ := List.append_of_mem he'
    obtain ⟨hvalid', hbefore'⟩ := hearlier.at
    obtain ⟨-, -, p, hp, -, hp_reference, -, hp_count⟩ := exists_usable
      (authKeys_of_chronicle hbefore' hkeys) (authEffect_of_valid hvalid') hcall'
    obtain ⟨p', hp', hcounted⟩ := counted_since hkeys hearlier hp
    obtain ⟨q, hq, -, -, hq_reference, -, hq_count, -⟩ :=
      exists_usable hbefore (authEffect_of_valid hvalid) hcall
    obtain rfl := Table.unique_of_nodup hbefore.passkeys p' hp' q hq
      (hcounted.reference.trans (hp_reference.trans (hreference.trans hq_reference.symm)))
    refine hmoves usage hcall hne p' hp' hq_reference (le_antisymm hq_count ?_)
    rw [← hsame, ← hp_count]
    exact hcounted.grows

theorem countsGrow_of_valid (hkeys : AuthKeys start.authFacts) {earlier : List (AuthEntry W)}
    {e : AuthEntry W} (hvalid : AuthValid config admits earlier e)
    (hearlier : AuthChronicle config admits start earlier e.before) : CountsGrow earlier e := by
  intro p hp
  obtain ⟨p', hp', hreference, hcounted⟩ :=
    counted_effect (authKeys_of_chronicle hearlier hkeys) (authEffect_of_valid hvalid) hp
  exact ⟨p', hp', hreference, hcounted.le⟩

/-- A returned authentication stored its counter. -/
theorem exists_stored_of_returned {s : AuthSystem W}
    (hs : AuthTraced config admits start s) {w : W}
    {input : PasskeyService.FinishAuthenticationInput} {past : List ServiceItem}
    {value : PasskeyService.AuthenticatedPasskey}
    (hthread : s.threads w = some
      { request := .finishAuthentication input, past, process := some (.done (.ok value)) }) :
    ∃ e ∈ s.log, e.thread = w ∧ ∃ usage, e.call.stores usage ∧
      usage.credentialReference = value.credentialReference := by
  have htracked := hs.threads w _ hthread
  obtain ⟨credential, result, challenge, rfl, hstored, -⟩ := htracked.follows _ rfl value rfl
  obtain ⟨later, e, earlier, hlog, he, heq⟩ :=
    exists_entry_of_mem_items (htracked.mem_items hstored rfl)
  exact ⟨e, by simp [hlog], he, _, (Sigma.mk.inj heq).1, rfl⟩

/-- Along every run in which the verification checks the counters, no two authentications of a
credential store the same counter other than zero exactly when no such counter is already the stored
one; no stored counter ever decreases, and every returned authentication has stored its counter. -/
theorem sign_counts_fresh_iff {s₀ s : AuthSystem W} (hs₀ : s₀.Initial)
    (hkeys : AuthKeys s₀.store.authFacts)
    (hrun : Reach (AuthSystem.step config)
      (fun _ act => act.Answers (authContract config CountersChecked)) s₀ s) :
    (Along FreshCount s.log ↔ Along CountMoves s.log) ∧ Along CountsGrow s.log ∧
      ∀ w input past value, s.threads w = some
        { request := .finishAuthentication input, past, process := some (.done (.ok value)) } →
          ∃ e ∈ s.log, e.thread = w ∧ ∃ usage, e.call.stores usage ∧
            usage.credentialReference = value.credentialReference := by
  have htraced : AuthTraced config CountersChecked s₀.store s := by
    refine authTraced_of_reach (fun call answer hexec => ?_) (fun _ _ hact => hact) hs₀ hrun
    cases call with
    | webAuthn call => cases hexec
    | _ => trivial
  refine ⟨Along.congr (htraced.chronicle.along fun _ _ _ hvalid hearlier =>
    freshCount_iff_of_valid hkeys hvalid hearlier), htraced.chronicle.along fun _ _ _ hvalid
      hearlier => countsGrow_of_valid hkeys hvalid hearlier, fun w input past value hthread =>
        exists_stored_of_returned htraced hthread⟩

end Runs

namespace AuthSample

/-- The participant has a passkey. -/
def onePasskey : AuthSystem ℕ :=
  initial { Db.empty with authAccounts := accounts, passkeys := [passkey 20 "credential:first"] }

theorem onePasskey_keys : AuthKeys onePasskey.store.authFacts where
  accounts := by decide
  references := by decide
  sessions := by decide
  tokens := by decide
  challenges := by decide
  secrets := by decide
  passkeys := by decide
  owners := by decide

/-- `beginAuthentication` in the participant domain. -/
def beginAuthentication (w : ℕ) (host : Host) : List (AuthAct ℕ) := [
  .start w (.beginAuthentication { trustDomain := .participant, now := 0 }),
  .host w host.answer, .host w host.answer, .store w]

/-- `finishAuthentication` up to the verification. -/
def verifyAuthentication (w : ℕ) (host : Host) : List (AuthAct ℕ) := [
  .start w (.finishAuthentication
    { trustDomain := .participant, challengeReference := host.id
      response := ⟨host.credential, ""⟩, now := 1000 }),
  .store w, .store w, .host w host.answer]

/-- Two responses with the counter 5 are verified against the stored 0. -/
def clones : List (AuthAct ℕ) :=
  beginAuthentication 0 ⟨"first", 100, "credential:first", 5⟩ ++
  beginAuthentication 1 ⟨"second", 101, "credential:first", 5⟩ ++
  verifyAuthentication 2 ⟨"first", 100, "credential:first", 5⟩ ++
  verifyAuthentication 3 ⟨"second", 101, "credential:first", 5⟩ ++ [.store 2, .store 3]

theorem Host.counters_checked (host : Host) (call : ServiceCall) :
    CountersChecked call (host.answer call) := by
  match call with
  | .webAuthn (.verifyAuthenticationResponse input) =>
    intro result hresult _
    obtain ⟨hchecked, ⟨⟩⟩ := Option.ite_none_right_eq_some.1 hresult
    exact hchecked.2
  | .webAuthn (.generateRegistrationOptions _) => trivial
  | .webAuthn (.generateAuthenticationOptions _ _) => trivial
  | .webAuthn (.verifyRegistrationResponse _) => trivial
  | .email _ => trivial
  | .session _ => trivial
  | .passkey _ => trivial
  | .account _ => trivial

theorem beginAuthentication_answers (w : ℕ) (host : Host) :
    ∀ act ∈ beginAuthentication w host, act.Answers (authContract config CountersChecked) := by
  simp only [beginAuthentication, List.forall_mem_cons]
  exact ⟨trivial, host.counters_checked, host.counters_checked, trivial, List.forall_mem_nil _⟩

theorem verifyAuthentication_answers (w : ℕ) (host : Host) :
    ∀ act ∈ verifyAuthentication w host, act.Answers (authContract config CountersChecked) := by
  simp only [verifyAuthentication, List.forall_mem_cons]
  exact ⟨trivial, trivial, trivial, host.counters_checked, List.forall_mem_nil _⟩

theorem clones_answers : ∀ act ∈ clones, act.Answers (authContract config CountersChecked) := by
  simp only [clones, List.forall_mem_append]
  refine ⟨⟨⟨⟨?_, ?_⟩, ?_⟩, ?_⟩, ?_⟩
  · exact beginAuthentication_answers _ _
  · exact beginAuthentication_answers _ _
  · exact verifyAuthentication_answers _ _
  · exact verifyAuthentication_answers _ _
  · simp only [List.forall_mem_cons]
    exact ⟨trivial, trivial, List.forall_mem_nil _⟩
/-- The last two entries store the same usage of the passkey with the counter 5. -/
def storesTwice (s : AuthSystem ℕ) : Bool :=
  match s.log with
  | e :: e' :: _ =>
    match e.call, e'.call with
    | .passkey (.updateUsage usage), .passkey (.updateUsage usage') =>
      usage.credentialReference = usage'.credentialReference && usage.counter = 5 &&
        usage'.counter = 5
    | _, _ => false
  | _ => false

theorem not_freshCount {s : AuthSystem ℕ} (h : storesTwice s = true) :
    ¬ Along FreshCount s.log := by
  intro halong
  unfold storesTwice at h
  split at h
  · next e e' rest hlog =>
    rw [hlog] at halong
    split at h
    · next usage usage' hcall hcall' =>
      simp only [Bool.and_eq_true, decide_eq_true_eq] at h
      exact halong.1 usage hcall (by omega) e' (.head _) usage' hcall' h.1.1.symm (by omega)
    · cases h
  · cases h

theorem clones_run : ∃ s : AuthSystem ℕ, Reach (AuthSystem.step config)
    (fun _ act => act.Answers (authContract config CountersChecked)) onePasskey s ∧
    storesTwice s = true := by
  obtain ⟨s, hrun, htest⟩ := exists_run_of_any (AuthSystem.step config) onePasskey clones
    (p := storesTwice) (by decide +kernel)
  exact ⟨s, reach_of_run hrun
    (allSteps_of_mem (fun act hact _ => clones_answers act hact) _), htest⟩

theorem cloned_counter_accepted : ∃ s : AuthSystem ℕ, onePasskey.Initial ∧
    AuthKeys onePasskey.store.authFacts ∧
    Reach (AuthSystem.step config)
      (fun _ act => act.Answers (authContract config CountersChecked)) onePasskey s ∧
    ¬ Along FreshCount s.log := by
  obtain ⟨s, hrun, htest⟩ := clones_run
  exact ⟨s, initial_initial _, onePasskey_keys, hrun, not_freshCount htest⟩

theorem cloned_counter_iff : ∃ s : AuthSystem ℕ, storesTwice s = true ∧
    (Along FreshCount s.log ↔ Along CountMoves s.log) ∧ Along CountsGrow s.log := by
  obtain ⟨s, hrun, htest⟩ := clones_run
  have hcounts := sign_counts_fresh_iff (initial_initial _) onePasskey_keys hrun
  exact ⟨s, htest, hcounts.1, hcounts.2.1⟩

end AuthSample

end ChecksAndBalances
