import ChecksAndBalances.Auth.Keys

/-!
# The active passkeys of an account

The references of the active passkeys of an account are what the log leaves of those at the start:
a saved passkey of the account is active until it is revoked.
-/

namespace ChecksAndBalances

open Lib Lib.Tx Threads AuthRepository

variable {db db' : Db} {reference : String} {trustDomain : TrustDomain}

/-! ## Active passkeys -/

/-- The passkey is an active one of the account. -/
def isActiveOf (accounts : List (Uuid × String × TrustDomain)) (reference : String)
    (trustDomain : TrustDomain) (p : PasskeyMetadata) : Bool :=
  p.state = .active && decide ((p.authAccountId, reference, trustDomain) ∈ accounts)

/-- The references of the active passkeys of an account. -/
def activeReferences (facts : AuthFacts) (reference : String) (trustDomain : TrustDomain) :
    List String :=
  (facts.passkeys.filter (isActiveOf facts.accounts reference trustDomain)).map
    PasskeyMetadata.credentialReference

/-- The accounts with an identifier and further properties, as a list of at most one. -/
theorem filter_account (hids : (db.identities.map Prod.fst).Nodup) (id : Uuid) :
    (db.authAccounts.filter fun a => a.id = id && a.externalReference = reference &&
        a.trustDomain = trustDomain).length =
      if (id, reference, trustDomain) ∈ db.identities then 1 else 0 := by
  have hcount : (db.authAccounts.filter fun a => a.id = id && a.externalReference = reference &&
      a.trustDomain = trustDomain).length = db.identities.count (id, reference, trustDomain) := by
    rw [← List.countP_eq_length_filter, Db.identities, List.count, List.countP_map]
    refine List.countP_congr fun a _ => ?_
    simp [AuthAccount.identity, and_assoc]
  rw [hcount, List.Nodup.count (List.Nodup.of_map _ hids)]

/-- One passkey in the join with its account. -/
theorem activePasskeys_row (hids : (db.identities.map Prod.fst).Nodup) (p : PasskeyMetadata) :
    ((db.authAccounts.filter fun a => a.id = p.authAccountId && a.externalReference = reference &&
        a.trustDomain = trustDomain && p.state = .active).map fun _ => p.credentialReference) =
      if isActiveOf db.identities reference trustDomain p then [p.credentialReference] else [] := by
  have hlength : (db.authAccounts.filter fun a => a.id = p.authAccountId &&
      a.externalReference = reference && a.trustDomain = trustDomain).length = _ :=
    filter_account hids p.authAccountId
  rw [List.map_const']
  by_cases hactive : p.state = .active
  · simp only [hactive, decide_true, Bool.and_true, hlength, isActiveOf, Bool.true_and,
      decide_eq_true_eq]
    split_ifs <;> rfl
  · simp [hactive, isActiveOf]

theorem activePasskeys_references (hids : (db.identities.map Prod.fst).Nodup) :
    (activePasskeys db reference trustDomain).map (fun row => row.1.credentialReference) =
      activeReferences db.authFacts reference trustDomain := by
  unfold activePasskeys activeReferences
  rw [List.map_flatMap]
  rw [Db.authFacts_accounts, Db.authFacts_passkeys]
  induction db.passkeys with
  | nil => rfl
  | cons p rest ih =>
    rw [List.flatMap_cons, ih, List.map_map, List.filter_cons]
    refine (congrArg (· ++ _) (activePasskeys_row hids p)).trans ?_
    split_ifs <;> rfl

theorem activePasskeys_eq_nil_iff (hkeys : AuthKeys db.authFacts) (reference : String)
    (trustDomain : TrustDomain) : activePasskeys db reference trustDomain = [] ↔
      activeReferences db.authFacts reference trustDomain = [] := by
  rw [← activePasskeys_references hkeys.accounts, List.map_eq_nil_iff]

/-- What `listActive` answers. -/
theorem commits_listActive (hids : (db.identities.map Prod.fst).Nodup)
    {answer : List StoredPasskeyCredential}
    (h : Commits (listActive reference trustDomain) db answer db') :
    (answer.map StoredPasskeyCredential.credentialReference).Perm
      (activeReferences db.authFacts reference trustDomain) := by
  unfold listActive at h
  simp only [commits_get_bind, commits_pure] at h
  obtain ⟨rfl, -⟩ := h
  rw [← activePasskeys_references hids, List.map_map]
  exact (List.perm_insertionSort _ _).map _

/-! ## The log -/

/-- What a call does to the active passkeys of an account. -/
def ServiceCall.enrolledAfter (reference : String) (trustDomain : TrustDomain) :
    ServiceCall → List String → List String
  | passkey (.save credential _), active =>
    if credential.accountReference = reference ∧ credential.trustDomain = trustDomain then
      active ++ [credential.credentialReference]
    else active
  | passkey (.revokeCredential credentialReference _ _), active =>
    active.filter fun r => r ≠ credentialReference
  | _, active => active

/-- What the log leaves of the active passkeys of an account. -/
def enrolled {W : Type} (reference : String) (trustDomain : TrustDomain) (active : List String)
    (log : List (AuthEntry W)) : List String :=
  log.foldr (fun e active => e.call.enrolledAfter reference trustDomain active) active

theorem enrolledAfter_of_not_writes {call : ServiceCall} (h : call.writes = false)
    (active : List String) : call.enrolledAfter reference trustDomain active = active := by
  cases call with
  | passkey call =>
    cases call with
    | save credential createdAt => cases h
    | revokeCredential credentialReference accountReference revokedAt => cases h
    | _ => rfl
  | _ => rfl

theorem enrolledAfter_of_revokesSessions {call : ServiceCall} (h : call.revokesSessions = true)
    (active : List String) : call.enrolledAfter reference trustDomain active = active := by
  cases call with
  | passkey call => cases h
  | _ => rfl

/-- The identifier of an account tells its reference and its domain. -/
theorem mem_identities_iff (hids : (db.identities.map Prod.fst).Nodup) {a : AuthAccount}
    (ha : a ∈ db.authAccounts) : (a.id, reference, trustDomain) ∈ db.identities ↔
      a.externalReference = reference ∧ a.trustDomain = trustDomain := by
  constructor
  · intro hmem
    have := Table.unique_of_nodup hids _ hmem _ (mem_identities ha) rfl
    simp only [Prod.mk.injEq, true_and] at this
    exact ⟨this.1.symm, this.2.symm⟩
  · rintro ⟨rfl, rfl⟩
    exact mem_identities ha

/-- What a call leaves of the active passkeys of an account. -/
theorem activeReferences_effect (hkeys : AuthKeys db.authFacts) {call : ServiceCall}
    {answer : call.Answer} (heffect : AuthEffect db call answer db') :
    activeReferences db'.authFacts reference trustDomain = call.enrolledAfter reference trustDomain
      (activeReferences db.authFacts reference trustDomain) := by
  cases heffect with
  | kept hcall hfacts => rw [enrolledAfter_of_not_writes hcall, hfacts]
  | accountCreated id hfresh hfacts =>
    rw [hfacts]
    refine congrArg (List.map _) (List.filter_congr fun p hp => ?_)
    obtain ⟨i, hi, hid⟩ := List.mem_map.1 (hkeys.owners p hp)
    obtain ⟨a, ha, rfl⟩ := exists_account_of_identity hi
    have hne : p.authAccountId ≠ id := hid ▸ (hfresh a ha).1
    refine congrArg (decide (p.state = .active) && ·) (decide_eq_decide.2 ?_)
    simp [hne]
  | challengeCreated challenge hnew hfacts =>
    rw [hfacts]
    rfl
  | consumed hanswer hfacts =>
    rw [hfacts]
    rfl
  | sessionCreated session hnew hfacts =>
    rw [hfacts]
    rfl
  | sessionsRevoked hcall selected reason atTime hfacts =>
    rw [enrolledAfter_of_revokesSessions hcall, hfacts]
    rfl
  | touched hfacts =>
    rw [hfacts]
    rfl
  | @passkeySaved credential _ _ _ passkey hnew hfacts =>
    obtain ⟨id, createdAt, a, ha, hreference, hdomain, rfl⟩ := hnew.row
    have howner : (a.id, reference, trustDomain) ∈ db.identities ↔ _ :=
      mem_identities_iff hkeys.accounts ha
    rw [hreference, hdomain] at howner
    rw [hfacts, ServiceCall.enrolledAfter]
    show ((db.passkeys ++ [_]).filter _).map _ = _
    rw [List.filter_append, List.map_append]
    by_cases hsame : credential.accountReference = reference ∧ credential.trustDomain = trustDomain
    · rw [if_pos hsame]
      simp [activeReferences, isActiveOf, passkeyRow, howner.2 hsame]
    · rw [if_neg hsame]
      simp [activeReferences, isActiveOf, passkeyRow, mt howner.1 hsame]
  | passkeyUsed hcount hfacts =>
    rw [hfacts]
    show ((Table.set _ _ db.passkeys).filter _).map _ = _
    rw [Table.filter_set fun _ => by rfl, Table.map_set _ fun _ => by rfl]
    rfl
  | @passkeyRevoked credentialReference accountReference _ _ _ hcount hfacts =>
    rw [hfacts, ServiceCall.enrolledAfter]
    show ((Table.set _ _ db.passkeys).filter _).map _ = _
    rw [Table.filter_set_of_false fun _ => by rfl, activeReferences, List.filter_map]
    refine congrArg (List.map _) (List.filter_congr fun p hp => ?_)
    -- the reference selects the one row that is revoked
    obtain ⟨k, hk, hrevocable⟩ := List.countP_pos_iff.1 (hcount ▸ Nat.one_pos)
    simp only [revocable, Bool.and_eq_true, decide_eq_true_eq] at hrevocable
    by_cases hsame : p.credentialReference = credentialReference
    · obtain rfl := Table.unique_of_nodup hkeys.passkeys p (List.mem_filter.1 hp).1 k hk
        (hsame.trans hrevocable.1.1.symm)
      simp [revocable, hrevocable]
    · simp [revocable, hsame]

/-! ## Runs -/

section Runs

variable {W : Type} {config : AuthConfig}
  {admits : (call : ServiceCall) → call.Answer → Prop} {start : Db}

theorem enrolled_append (active : List String) (later earlier : List (AuthEntry W)) :
    enrolled reference trustDomain active (later ++ earlier) =
      enrolled reference trustDomain (enrolled reference trustDomain active earlier) later :=
  List.foldr_append

theorem enrolledAfter_perm (call : ServiceCall) {active active' : List String}
    (h : active.Perm active') : (call.enrolledAfter reference trustDomain active).Perm
      (call.enrolledAfter reference trustDomain active') := by
  cases call with
  | passkey call =>
    cases call with
    | save credential createdAt =>
      simp only [ServiceCall.enrolledAfter]
      split_ifs
      · exact h.append_right _
      · exact h
    | revokeCredential credentialReference accountReference revokedAt => exact h.filter _
    | _ => exact h
  | _ => exact h

theorem enrolled_perm {active active' : List String} (h : active.Perm active')
    (log : List (AuthEntry W)) : (enrolled reference trustDomain active log).Perm
      (enrolled reference trustDomain active' log) := by
  induction log with
  | nil => exact h
  | cons e earlier ih => exact enrolledAfter_perm e.call ih

variable [DecidableEq W]

/-- The active passkeys of an account are what the log leaves of those at the start. -/
theorem activeReferences_eq_enrolled (hstart : AuthKeys start.authFacts)
    {log : List (AuthEntry W)} {db : Db} (h : AuthChronicle config admits start log db) :
    activeReferences db.authFacts reference trustDomain =
      enrolled reference trustDomain (activeReferences start.authFacts reference trustDomain) log :=
  auth_invariant (I := fun log facts => activeReferences facts reference trustDomain =
      enrolled reference trustDomain (activeReferences start.authFacts reference trustDomain) log)
    h hstart rfl fun earlier e _ _ hkeys heffect hactive => by
      rw [activeReferences_effect hkeys heffect, hactive]
      rfl

/-- What a listing of a log answered. -/
theorem listed_of_item (hstart : AuthKeys start.authFacts) {earlier : List (AuthEntry W)}
    {e : AuthEntry W} (hvalid : AuthValid config admits earlier e)
    (hearlier : AuthChronicle config admits start earlier e.before)
    {existing : List StoredPasskeyCredential}
    (hitem : e.item = ⟨.passkey (.listActive reference trustDomain), existing⟩) :
    e.past = [] ∧ (existing.map StoredPasskeyCredential.credentialReference).Perm
      (activeReferences e.before.authFacts reference trustDomain) ∧
      activeReferences e.after.authFacts reference trustDomain =
        activeReferences e.before.authFacts reference trustDomain := by
  have hbefore := authKeys_of_chronicle hearlier hstart
  have heffect : activeReferences e.after.authFacts reference trustDomain = _ :=
    activeReferences_effect hbefore (authEffect_of_valid hvalid)
  obtain ⟨w, request, past, call, answer, before, after⟩ := e
  obtain ⟨rfl, rfl⟩ := Sigma.mk.inj hitem
  obtain ⟨_, hexec, hcommits⟩ := hvalid.commits
  obtain rfl := Option.some.inj hexec
  exact ⟨hvalid.allowed, commits_listActive hbefore.accounts hcommits, heffect⟩

/-- They are what the log since a listing leaves of what it listed. -/
theorem activeReferences_of_listed (hstart : AuthKeys start.authFacts) {log : List (AuthEntry W)}
    {db : Db} (h : AuthChronicle config admits start log db) {w : W}
    {existing : List StoredPasskeyCredential}
    (hitem : (⟨.passkey (.listActive reference trustDomain), existing⟩ : ServiceItem) ∈
      items w log) :
    (activeReferences db.authFacts reference trustDomain).Perm (enrolled reference trustDomain
      (existing.map StoredPasskeyCredential.credentialReference) (sinceFirst w log)) := by
  obtain ⟨later, e, earlier, rfl, rfl, heq⟩ := exists_entry_of_mem_items hitem
  obtain ⟨hvalid, hearlier⟩ := h.at
  obtain ⟨hfirst, hlisted, hkept⟩ := listed_of_item hstart hvalid hearlier heq
  have hafter : AuthChronicle config admits start (e :: earlier) e.after := ⟨rfl, hvalid, hearlier⟩
  rw [h.sinceFirst_eq hfirst, activeReferences_eq_enrolled hstart h, enrolled_append,
    ← activeReferences_eq_enrolled hstart hafter, hkept]
  exact enrolled_perm hlisted.symm later

end Runs

end ChecksAndBalances
