import ChecksAndBalances.Auth.Challenges
import ChecksAndBalances.Auth.Enrolled

/-!
# The last passkey of an account

`revokeCredential` of the service counts the active passkeys of the account in one statement and
revokes in another, so that other revocations can be committed in between.
-/

namespace ChecksAndBalances

open Lib Lib.Tx Threads AuthRepository

section Runs

variable {W : Type} [DecidableEq W] {config : AuthConfig}
  {admits : (call : ServiceCall) → call.Answer → Prop} {start db : Db}

/-! ## The properties -/

/-- No passkey is revoked on the strength of another way of recovery. -/
def WithoutAlternate : ServiceRequest → Prop
  | .revokeCredential input => input.alternateRecoveryAvailable = false
  | _ => True

/-- An account with an active passkey keeps one. -/
def KeepsOne (_earlier : List (AuthEntry W)) (e : AuthEntry W) : Prop :=
  ∀ reference trustDomain, activePasskeys e.before reference trustDomain ≠ [] →
    activePasskeys e.after reference trustDomain ≠ []

/-- When a passkey is revoked, another of those that the call counted, or that were saved since, has
not been revoked since. -/
def CountStands (earlier : List (AuthEntry W)) (e : AuthEntry W) : Prop :=
  ∀ input active, e.request = .revokeCredential input →
    e.call = .passkey
      (.revokeCredential input.credentialReference input.accountReference input.now) →
    e.past = [⟨.passkey (.listActive input.accountReference input.trustDomain), active⟩] →
      ∃ r ∈ enrolled input.accountReference input.trustDomain
        (active.map StoredPasskeyCredential.credentialReference) (sinceFirst e.thread earlier),
        r ≠ input.credentialReference

/-! ## Accounts -/

/-- No account is lost. -/
theorem identities_subset {later earlier : List (AuthEntry W)} {e : AuthEntry W}
    (h : AuthChronicle config admits start (later ++ e :: earlier) db) :
    e.before.identities ⊆ db.identities := by
  refine h.invariant_after (I := fun _ db => e.before.identities ⊆ db.identities) ?_ ?_ ?_
  · intro _ s s' hview hsubset
    rw [show s'.identities = s.identities from congrArg AuthFacts.accounts (authFacts_of_rows hview)]
    exact hsubset
  · exact identities_effect (authEffect_of_valid h.at.1)
  · exact fun _ e' hvalid _ hsubset =>
      List.Subset.trans hsubset (identities_effect (authEffect_of_valid hvalid))

/-- An active passkey belongs to one account. -/
theorem activeReferences_account (hkeys : AuthKeys db.authFacts) {r reference reference' : String}
    {trustDomain trustDomain' : TrustDomain}
    (h : r ∈ activeReferences db.authFacts reference trustDomain)
    (h' : r ∈ activeReferences db.authFacts reference' trustDomain') :
    reference = reference' ∧ trustDomain = trustDomain' := by
  obtain ⟨p, hp, rfl⟩ := List.mem_map.1 h
  obtain ⟨p', hp', hsame⟩ := List.mem_map.1 h'
  obtain ⟨hp, hactive⟩ := List.mem_filter.1 hp
  obtain ⟨hp', hactive'⟩ := List.mem_filter.1 hp'
  obtain rfl := Table.unique_of_nodup hkeys.passkeys p' hp' p hp hsame
  simp only [isActiveOf, Bool.and_eq_true, decide_eq_true_eq] at hactive hactive'
  have := Table.unique_of_nodup hkeys.accounts _ hactive.2 _ hactive'.2 rfl
  simpa using this

/-- The reference of an account tells its domain. -/
theorem identity_of_reference (hkeys : AuthKeys db.authFacts) {id id' : Uuid} {reference : String}
    {trustDomain trustDomain' : TrustDomain} (h : (id, reference, trustDomain) ∈ db.identities)
    (h' : (id', reference, trustDomain') ∈ db.identities) :
    id = id' ∧ trustDomain = trustDomain' := by
  have := Table.unique_of_nodup hkeys.references _ h _ h' rfl
  simpa using this

/-- What a revocation found. -/
theorem revoked_mem {credentialReference accountReference : String}
    (hcount : db.passkeys.countP (revocable db credentialReference accountReference) = 1) :
    ∃ a ∈ db.authAccounts, a.externalReference = accountReference ∧
      credentialReference ∈ activeReferences db.authFacts accountReference a.trustDomain := by
  obtain ⟨p, hp, hrevocable⟩ := List.countP_pos_iff.1 (hcount ▸ Nat.one_pos)
  simp only [revocable, Bool.and_eq_true, decide_eq_true_eq, List.any_eq_true] at hrevocable
  obtain ⟨⟨rfl, hactive⟩, a, ha, hid, rfl⟩ := hrevocable
  refine ⟨a, ha, rfl, List.mem_map.2 ⟨p, List.mem_filter.2 ⟨hp, ?_⟩, rfl⟩⟩
  simp [isActiveOf, hactive, ← hid, mem_identities ha]

/-- A listed account exists. -/
theorem exists_identity_of_listed (hkeys : AuthKeys start.authFacts) {log : List (AuthEntry W)}
    (h : AuthChronicle config admits start log db) {w : W} {reference : String}
    {trustDomain : TrustDomain} {active : List StoredPasskeyCredential}
    (hitem : (⟨.passkey (.listActive reference trustDomain), active⟩ : ServiceItem) ∈ items w log)
    (hactive : active ≠ []) : ∃ id, (id, reference, trustDomain) ∈ db.identities := by
  obtain ⟨later, e, earlier, rfl, rfl, heq⟩ := exists_entry_of_mem_items hitem
  obtain ⟨hvalid, hearlier⟩ := h.at
  obtain ⟨-, hlisted, -⟩ := listed_of_item hkeys hvalid hearlier heq
  obtain ⟨listed, hmem⟩ := List.exists_mem_of_ne_nil active hactive
  obtain ⟨p, hp, -⟩ := List.mem_map.1 (hlisted.subset (List.mem_map_of_mem hmem))
  have hp := (List.mem_filter.1 hp).2
  simp only [isActiveOf, Bool.and_eq_true, decide_eq_true_eq] at hp
  exact ⟨p.authAccountId, identities_subset h hp.2⟩

/-! ## A revocation -/

/-- A revocation of the service, with the count before it. -/
structure Revocation (earlier : List (AuthEntry W)) (e : AuthEntry W)
    (input : PasskeyService.RevokeCredentialInput) (active : List StoredPasskeyCredential) :
    Prop where
  request : e.request = .revokeCredential input
  call : e.call = .passkey
    (.revokeCredential input.credentialReference input.accountReference input.now)
  past : e.past = [⟨.passkey (.listActive input.accountReference input.trustDomain), active⟩]
  counted : (activeReferences e.before.authFacts input.accountReference input.trustDomain).Perm
    (enrolled input.accountReference input.trustDomain
      (active.map StoredPasskeyCredential.credentialReference) (sinceFirst e.thread earlier))
  found : active ≠ [] → input.credentialReference ∈
    activeReferences e.before.authFacts input.accountReference input.trustDomain
  guarded : 1 < active.length ∨ input.alternateRecoveryAvailable = true
  left : ∀ reference trustDomain, activeReferences e.after.authFacts reference trustDomain =
    (activeReferences e.before.authFacts reference trustDomain).filter
      fun r => r ≠ input.credentialReference

/-- A call adds to the active passkeys of every account, or revokes one. -/
theorem enrolledAfter_cases (call : ServiceCall) :
    (∀ reference trustDomain active, active ⊆ call.enrolledAfter reference trustDomain active) ∨
    ∃ credentialReference accountReference revokedAt,
      call = .passkey (.revokeCredential credentialReference accountReference revokedAt) := by
  cases call with
  | passkey call =>
    cases call with
    | save credential createdAt =>
      refine Or.inl fun reference trustDomain active => ?_
      simp only [ServiceCall.enrolledAfter]
      split_ifs
      · exact List.subset_append_left _ _
      · exact List.Subset.refl _
    | revokeCredential credentialReference accountReference revokedAt => exact Or.inr ⟨_, _, _, rfl⟩
    | _ => exact Or.inl fun _ _ => List.Subset.refl
  | _ => exact Or.inl fun _ _ => List.Subset.refl

theorem revocation_of_valid {earlier : List (AuthEntry W)} {e : AuthEntry W}
    (hvalid : AuthValid config admits earlier e)
    (hearlier : AuthChronicle config admits start earlier e.before)
    (hkeys : AuthKeys start.authFacts) {credentialReference accountReference : String}
    {revokedAt : ℤ}
    (hcall : e.call = .passkey (.revokeCredential credentialReference accountReference revokedAt)) :
    ∃ input active, Revocation earlier e input active := by
  have hbefore := authKeys_of_chronicle hearlier hkeys
  have hallowed := hvalid.allowed
  rw [hcall] at hallowed
  obtain ⟨input, active, hrequest, rfl, rfl, rfl, hpast, hguarded⟩ := hallowed
  have hitem : (⟨.passkey (.listActive input.accountReference input.trustDomain), active⟩ :
      ServiceItem) ∈ items e.thread earlier := by
    refine hvalid.mem_items ?_ rfl
    rw [hpast]
    exact .head _
  have hleft : ∀ reference trustDomain, activeReferences e.after.authFacts reference trustDomain =
      (activeReferences e.before.authFacts reference trustDomain).filter
        fun r => r ≠ input.credentialReference := by
    intro reference trustDomain
    rw [activeReferences_effect hbefore (authEffect_of_valid hvalid), hcall]
    rfl
  refine ⟨input, active, hrequest, hcall, hpast, activeReferences_of_listed hkeys hearlier hitem,
    fun hactive => ?_, hguarded, hleft⟩
  obtain ⟨id, hidentity⟩ := exists_identity_of_listed hkeys hearlier hitem hactive
  have heffect := authEffect_of_valid hvalid
  obtain ⟨w, request, past, call, answer, before, after⟩ := e
  subst hcall
  cases heffect with
  | kept hcall hfacts => cases hcall
  | sessionsRevoked hcall selected reason atTime hfacts => cases hcall
  | passkeyRevoked hcount hfacts =>
    obtain ⟨a, ha, hreference, hfound⟩ := revoked_mem hcount
    have hsame := mem_identities ha
    rw [hreference] at hsame
    rwa [(identity_of_reference hbefore hidentity hsame).2]

/-- The two agree at every entry without alternate recovery. -/
theorem keepsOne_iff_of_valid {earlier : List (AuthEntry W)} {e : AuthEntry W}
    (hvalid : AuthValid config admits earlier e)
    (hearlier : AuthChronicle config admits start earlier e.before)
    (hkeys : AuthKeys start.authFacts)
    (halternate : WithoutAlternate e.request) :
    KeepsOne earlier e ↔ CountStands earlier e := by
  have hbefore := authKeys_of_chronicle hearlier hkeys
  have hafter := hbefore.effect (authEffect_of_valid hvalid)
  simp only [KeepsOne, ne_eq, activePasskeys_eq_nil_iff hbefore, activePasskeys_eq_nil_iff hafter]
  obtain hadds | ⟨_, _, _, hcall⟩ := enrolledAfter_cases e.call
  · refine iff_of_true (fun reference trustDomain hne hnil => hne ?_) ?_
    · rw [activeReferences_effect hbefore (authEffect_of_valid hvalid)] at hnil
      exact List.subset_nil.1 (hnil ▸ hadds reference trustDomain _)
    · intro input active _ hcall
      have := hadds "" .participant [input.credentialReference]
      rw [hcall] at this
      simp [ServiceCall.enrolledAfter] at this
  · obtain ⟨input, active, hrevocation⟩ := revocation_of_valid hvalid hearlier hkeys hcall
    rw [hrevocation.request] at halternate
    have hmany : 1 < active.length :=
      hrevocation.guarded.resolve_right (by simp [show _ = false from halternate])
    have hfound := hrevocation.found (List.ne_nil_of_length_pos (by omega))
    have hstands : CountStands earlier e ↔ ∃ r ∈ activeReferences e.before.authFacts
        input.accountReference input.trustDomain, r ≠ input.credentialReference := by
      constructor
      · intro h
        obtain ⟨r, hr, hother⟩ := h input active hrevocation.request hrevocation.call
          hrevocation.past
        exact ⟨r, hrevocation.counted.mem_iff.2 hr, hother⟩
      · rintro ⟨r, hr, hother⟩ input' active' hrequest' - hpast'
        obtain rfl : input = input' := by simpa using hrevocation.request.symm.trans hrequest'
        obtain ⟨-, hactive⟩ := Sigma.mk.inj (List.cons.inj (hrevocation.past.symm.trans hpast')).1
        obtain rfl := eq_of_heq hactive
        exact ⟨r, hrevocation.counted.mem_iff.1 hr, hother⟩
    rw [hstands]
    simp only [hrevocation.left, List.filter_eq_nil_iff, decide_eq_true_eq, not_not]
    constructor
    · intro h
      by_contra! hnone
      exact h _ _ (List.ne_nil_of_mem hfound) hnone
    · rintro ⟨r, hr, hother⟩ reference trustDomain hne hall
      -- the account has no other passkey, so it is the one of the revocation
      obtain ⟨r', hr'⟩ := List.exists_mem_of_ne_nil _ hne
      obtain ⟨rfl, rfl⟩ := activeReferences_account hbefore (hall r' hr' ▸ hr') hfound
      exact hother (hall r hr)

/-- What every entry keeps is kept by the run. -/
theorem active_of_keepsOne {log : List (AuthEntry W)} (h : AuthChronicle config admits start log db)
    (hlog : Along KeepsOne log) {reference : String} {trustDomain : TrustDomain}
    (hstart : activePasskeys start reference trustDomain ≠ []) :
    activePasskeys db reference trustDomain ≠ [] := by
  have hrows : ∀ {db db' : Db}, db'.authRows = db.authRows →
      activePasskeys db' reference trustDomain = activePasskeys db reference trustDomain := by
    intro db db' hview
    simp only [Db.authRows, Prod.mk.injEq] at hview
    simp only [activePasskeys, hview.1, hview.2.2.2]
  induction log generalizing db with
  | nil =>
    rw [hrows h]
    exact hstart
  | cons e earlier ih =>
    rw [hrows h.1]
    exact hlog.1 _ _ (ih h.2.2 hlog.2)

/-- Along every run of revocations without alternate recovery, and of any other calls, accounts keep
an active passkey exactly when every count stands until its revocation; then every account that has
one at the start has one at the end. -/
theorem last_passkey_kept_iff {s₀ s : AuthSystem W} (hs₀ : s₀.Initial)
    (hkeys : AuthKeys s₀.store.authFacts)
    (hrun : Reach (AuthSystem.step config) (fun _ act => act.Starts WithoutAlternate) s₀ s) :
    (Along KeepsOne s.log ↔ Along CountStands s.log) ∧
      (Along CountStands s.log → ∀ reference trustDomain,
        activePasskeys s₀.store reference trustDomain ≠ [] →
          activePasskeys s.store reference trustDomain ≠ []) := by
  have htraced := authTraced_of_run hs₀ (hrun.mono fun _ _ _ => trivial)
  have hrequested := requested_of_reach (fun _ _ hact => hact) hs₀ hrun
  have hiff : Along KeepsOne s.log ↔ Along CountStands s.log :=
    Along.congr (htraced.chronicle.along fun _ e he hvalid hearlier =>
      keepsOne_iff_of_valid hvalid hearlier hkeys (hrequested.log e he))
  exact ⟨hiff, fun hstands _ _ => active_of_keepsOne htraced.chronicle (hiff.2 hstands)⟩

end Runs

namespace AuthSample

/-- Two active passkeys of the participant. -/
def twoPasskeys : AuthSystem ℕ := initial { Db.empty with
  authAccounts := accounts
  passkeys := [passkey 20 "credential:first", passkey 21 "credential:second"] }

theorem twoPasskeys_keys : AuthKeys twoPasskeys.store.authFacts where
  accounts := by decide
  references := by decide
  sessions := by decide
  tokens := by decide
  challenges := by decide
  secrets := by decide
  passkeys := by decide
  owners := by decide

/-- `revokeCredential` for the participant. -/
def revocation (credentialReference : String) : PasskeyService.RevokeCredentialInput :=
  { credentialReference, accountReference := "account:one", trustDomain := .participant
    recentlyReauthenticated := true, alternateRecoveryAvailable := false, now := 1000 }

/-- Both passkeys are counted before either is revoked. -/
def bothRevoked : List (AuthAct ℕ) := [
  .start 0 (.revokeCredential (revocation "credential:first")), .store 0,
  .start 1 (.revokeCredential (revocation "credential:second")), .store 1, .store 0, .store 1]

/-- The last entry takes the account its last passkey. -/
def losesLast (s : AuthSystem ℕ) : Bool :=
  s.log.head?.any fun e => !(activePasskeys e.before "account:one" .participant).isEmpty &&
    (activePasskeys e.after "account:one" .participant).isEmpty

theorem not_keepsOne {s : AuthSystem ℕ} (h : losesLast s = true) : ¬ Along KeepsOne s.log := by
  intro halong
  obtain ⟨e, hhead, htest⟩ := (Option.any_eq_true _ _).1 h
  obtain ⟨earlier, hlog⟩ := List.head?_eq_some_iff.1 hhead
  rw [Bool.and_eq_true, Bool.not_eq_true', List.isEmpty_eq_false_iff, List.isEmpty_iff] at htest
  rw [hlog] at halong
  exact halong.1 _ _ htest.1 htest.2

theorem bothRevoked_starts : ∀ act ∈ bothRevoked, act.Starts WithoutAlternate := by
  simp [bothRevoked, Act.Starts, WithoutAlternate, revocation]

theorem both_passkeys_revoked : ∃ s : AuthSystem ℕ, twoPasskeys.Initial ∧
    AuthKeys twoPasskeys.store.authFacts ∧
    Reach (AuthSystem.step config) (fun _ act => act.Starts WithoutAlternate) twoPasskeys s ∧
    activePasskeys twoPasskeys.store "account:one" .participant ≠ [] ∧
    activePasskeys s.store "account:one" .participant = [] ∧ ¬ Along KeepsOne s.log := by
  obtain ⟨s, hrun, htest⟩ := exists_run_of_any (AuthSystem.step config) twoPasskeys bothRevoked
    (p := fun s => losesLast s && (activePasskeys s.store "account:one" .participant).isEmpty)
    (by decide +kernel)
  rw [Bool.and_eq_true, List.isEmpty_iff] at htest
  exact ⟨s, initial_initial _, twoPasskeys_keys,
    reach_of_run hrun (allSteps_of_mem (fun act hact _ => bothRevoked_starts act hact) _),
    by decide, htest.2, not_keepsOne htest.1⟩

theorem both_passkeys_revoked_iff : ∃ s : AuthSystem ℕ, s.log.length = 4 ∧
    (Along KeepsOne s.log ↔ Along CountStands s.log) := by
  obtain ⟨s, hrun, htest⟩ := exists_run_of_any (AuthSystem.step config) twoPasskeys bothRevoked
    (p := fun s => s.log.length = 4) (by decide +kernel)
  exact ⟨s, of_decide_eq_true htest, (last_passkey_kept_iff (initial_initial _) twoPasskeys_keys
    (reach_of_run hrun
      (allSteps_of_mem (fun act hact _ => bothRevoked_starts act hact) _))).1⟩

end AuthSample

end ChecksAndBalances
