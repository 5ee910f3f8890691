import ChecksAndBalances.Hosted.Simulation
import ChecksAndBalances.Hosted.System

/-!
# What the calls of the hosted service do

What a committed call of Redis answers and writes, and what an entry of the log says of the
challenge and the result of an identifier.
-/

namespace ChecksAndBalances

open Lib Lib.Tx Threads

/-! ## Redis -/

namespace RedisStore

variable [ServiceHost] {now : ℤ} {redis redis' : Redis} {id : String}

theorem commits_shown {α : Type} {ofJson : Json → Option α} {shown : Option String} {o : Option α}
    (h : Commits (match shown with
      | none => pure none
      | some text => some <$> parse ofJson text : RedisTx (Option α)) redis o redis') :
    redis' = redis ∧ o = shown.bind fun text => (Json.parse readNumber text).bind ofJson := by
  cases shown with
  | none =>
    obtain ⟨rfl, rfl⟩ := commits_pure.1 h
    exact ⟨rfl, rfl⟩
  | some text =>
    change Commits (some <$> parse ofJson text) redis o redis' at h
    rw [map_eq_pure_bind] at h
    obtain ⟨a, redis₁, hparse, hrest⟩ := commits_bind.1 h
    obtain ⟨hfound, rfl⟩ := commits_found.1 hparse
    obtain ⟨rfl, rfl⟩ := commits_pure.1 hrest
    exact ⟨rfl, hfound.symm⟩

/-- A challenge is read from its key. -/
theorem commits_getChallenge {o : Option StoredChallenge}
    (h : Commits (getChallenge now id) redis o redis') :
    redis' = redis ∧ o = (redis.get now (key "challenge" id)).bind fun text =>
      (Json.parse readNumber text).bind StoredChallenge.ofJson :=
  commits_shown (commits_get_bind.1 h)

/-- A result is read from its key. -/
theorem commits_getResult {o : Option StoredResult}
    (h : Commits (getResult now id) redis o redis') :
    redis' = redis ∧ o = (redis.get now (key "result" id)).bind fun text =>
      (Json.parse readNumber text).bind StoredResult.ofJson :=
  commits_shown (commits_get_bind.1 h)

/-- A challenge is written once, to live until it expires. -/
theorem commits_createChallenge {challenge : StoredChallenge} {o : Bool}
    (h : Commits (createChallenge now challenge) redis o redis') :
    redis' = redis ∨ ∃ expiresAt, dateParse challenge.expiresAt = some expiresAt ∧
      redis.get now (key "challenge" challenge.challengeID) = none ∧
      redis' = Function.update redis (key "challenge" challenge.challengeID)
        (some (challenge.text, expiresAt)) := by
  obtain ⟨expiresAt, hexpiry, h⟩ := commits_found_bind.1 h
  split_ifs at h
  · exact Or.inl (commits_pure.1 h).2
  · replace h := commits_get_bind.1 h
    split_ifs at h with hexists
    · exact Or.inl (commits_pure.1 h).2
    · refine Or.inr ⟨expiresAt, hexpiry, by simpa using hexists, ?_⟩
      replace h := commits_modify_bind.1 h
      have hredis := (commits_pure.1 h).2
      rwa [set, add_sub_cancel] at hredis

/-- A result can be stored: the challenge lives, and its result is neither there nor consumed. -/
structure Vacant (now : ℤ) (redis : Redis) (id : String) : Prop where
  challenge : (redis.get now (key "challenge" id)).isSome = true
  unconsumed : redis.get now (key "consumed" id) = none
  free : redis.get now (key "result" id) = none

/-- What `putResult` does when it stores. -/
structure Stores (now : ℤ) (redis : Redis) (id : String) (result : StoredResult) (expiresAt : ℤ)
    (redis' : Redis) : Prop where
  expiry : dateParse result.expiresAt = some expiresAt
  live : now < expiresAt
  vacant : Vacant now redis id
  after : redis' = Function.update redis (key "result" id) (some (result.text, expiresAt))

/-- A result is stored while its challenge lives and no result does, or nothing changes. -/
theorem commits_putResult {result : StoredResult} {o : PutOutcome}
    (h : Commits (putResult now id result) redis o redis') :
    (o ≠ .stored ∧ redis' = redis) ∨
      (o = .stored ∧ ∃ expiresAt, Stores now redis id result expiresAt redis') := by
  obtain ⟨expiresAt, hexpiry, h⟩ := commits_found_bind.1 h
  split_ifs at h with hlive
  · obtain ⟨rfl, rfl⟩ := commits_pure.1 h
    exact Or.inl ⟨by decide, rfl⟩
  · replace h := commits_get_bind.1 h
    split_ifs at h with hconsumed
    · obtain ⟨rfl, rfl⟩ := commits_pure.1 h
      exact Or.inl ⟨by decide, rfl⟩
    · rw [Bool.or_eq_true, not_or] at hconsumed
      cases hfree : redis.get now (key "result" id) with
      | some current =>
        rw [hfree] at h
        obtain ⟨rfl, rfl⟩ := commits_pure.1 h
        refine Or.inl ⟨?_, rfl⟩
        split_ifs <;> decide
      | none =>
        rw [hfree] at h
        replace h := commits_modify_bind.1 h
        obtain ⟨rfl, hredis⟩ := commits_pure.1 h
        rw [set, add_sub_cancel] at hredis
        refine Or.inr ⟨rfl, expiresAt, hexpiry, by omega, ⟨?_, ?_, hfree⟩, hredis⟩
        · simpa [Option.isSome_iff_ne_none] using hconsumed.2
        · simpa using hconsumed.1

/-- An acknowledgement removes the result and the challenge, or nothing changes. -/
theorem commits_acknowledge {proofDigest : String} {tombstoneExpiresAt : ℤ} {o : Bool}
    (h : Commits (acknowledge now id proofDigest tombstoneExpiresAt) redis o redis') :
    (o = false ∧ redis' = redis) ∨ (o = true ∧ ∃ v, redis' = Function.update
      (Function.update (Function.update redis (key "result" id) none) (key "challenge" id) none)
      (key "consumed" id) v) := by
  replace h := commits_get_bind.1 h
  cases hshown : redis.get now (key "result" id) with
  | none =>
    rw [hshown] at h
    exact Or.inl (commits_pure.1 h)
  | some current =>
    rw [hshown] at h
    obtain ⟨decoded, -, h⟩ := commits_found_bind.1 h
    split_ifs at h with hdigest
    · exact Or.inl (commits_pure.1 h)
    · replace h := commits_modify_bind.1 (commits_modify_bind.1 (commits_modify_bind.1 h))
      obtain ⟨ho, hredis⟩ := commits_pure.1 h
      exact Or.inr ⟨ho, _, hredis⟩

/-! What a call answers to a store of which the keys are known. -/

theorem getChallenge_commits {challenge : StoredChallenge}
    (h : redis.get now (key "challenge" id) = some challenge.text) :
    Commits (getChallenge now id) redis (some challenge) redis := by
  rw [getChallenge, commits_get_bind, h]
  show Commits (some <$> parse StoredChallenge.ofJson challenge.text) redis (some challenge) redis
  rw [map_eq_pure_bind]
  exact commits_bind.2 ⟨challenge, redis, commits_found.2 ⟨challenge.parse_text, rfl⟩,
    commits_pure.2 ⟨rfl, rfl⟩⟩

theorem getResult_commits {o : Option StoredResult}
    (h : redis.get now (key "result" id) = o.map StoredResult.text) :
    Commits (getResult now id) redis o redis := by
  rw [getResult, commits_get_bind, h]
  cases o with
  | none => exact commits_pure.2 ⟨rfl, rfl⟩
  | some r =>
    show Commits (some <$> parse StoredResult.ofJson r.text) redis (some r) redis
    rw [map_eq_pure_bind]
    exact commits_bind.2 ⟨r, redis, commits_found.2 ⟨r.parse_text, rfl⟩,
      commits_pure.2 ⟨rfl, rfl⟩⟩

theorem putResult_commits {result : StoredResult} {t : ℤ} (h : Vacant now redis id)
    (ht : dateParse result.expiresAt = some t) (hlive : now < t) :
    Commits (putResult now id result) redis .stored
      (Function.update redis (key "result" id) (some (result.text, t))) := by
  refine commits_found_bind.2 ⟨t, ht, ?_⟩
  rw [if_neg (not_le.2 (sub_pos.2 hlive)), commits_get_bind, h.unconsumed, h.free,
    Option.isNone_eq_false_iff.2 h.challenge]
  refine commits_modify_bind.2 (commits_pure.2 ⟨rfl, ?_⟩)
  rw [set, add_sub_cancel]

end RedisStore

/-! ## Entries -/

/-- The result that a call has stored, with its challenge. -/
def HostedItem.stored : HostedItem → Option (String × StoredResult)
  | ⟨.store (.putResult challengeID result), .stored⟩ => some (challengeID, result)
  | _ => none

/-- The challenge whose result a call has acknowledged. -/
def HostedItem.acknowledged : HostedItem → Option String
  | ⟨.store (.acknowledge challengeID _ _), true⟩ => some challengeID
  | _ => none

/-- What a call has found of the result of a challenge. -/
def HostedItem.found : HostedItem → Option (String × Option StoredResult)
  | ⟨.store (.getResult challengeID), result⟩ => some (challengeID, result)
  | _ => none

variable [ServiceHost] {W : Type} {e : HostedEntry W}

/-- What an entry writes to Redis. -/
inductive HostedWrite (e : HostedEntry W) : Prop
  | stores (challengeID : String) (result : StoredResult) (expiresAt : ℤ)
      (stored : HostedItem.stored e.item = some (challengeID, result))
      (acknowledged : HostedItem.acknowledged e.item = none)
      (stores : RedisStore.Stores e.before.clock e.before.redis challengeID result expiresAt
        e.after.redis)
  | acknowledges (challengeID : String) (v : Option (String × ℤ))
      (stored : HostedItem.stored e.item = none)
      (acknowledged : HostedItem.acknowledged e.item = some challengeID)
      (after : e.after.redis = Function.update (Function.update (Function.update e.before.redis
        (RedisStore.key "result" challengeID) none) (RedisStore.key "challenge" challengeID) none)
        (RedisStore.key "consumed" challengeID) v)
  | creates (challenge : StoredChallenge) (expiresAt : ℤ) (stored : HostedItem.stored e.item = none)
      (acknowledged : HostedItem.acknowledged e.item = none)
      (call : e.call = .store (.createChallenge challenge))
      (expiry : dateParse challenge.expiresAt = some expiresAt)
      (after : e.after.redis = Function.update e.before.redis
        (RedisStore.key "challenge" challenge.challengeID) (some (challenge.text, expiresAt)))
  | nothing (stored : HostedItem.stored e.item = none)
      (acknowledged : HostedItem.acknowledged e.item = none)
      (after : e.after.redis = e.before.redis)

namespace HostedWrite

/-- The result of a challenge is stored, acknowledged or left alone. -/
theorem result (h : HostedWrite e) (id : String) :
    (HostedItem.acknowledged e.item ≠ some id ∧
      ∃ r t, HostedItem.stored e.item = some (id, r) ∧
        RedisStore.Stores e.before.clock e.before.redis id r t e.after.redis) ∨
    (HostedItem.acknowledged e.item = some id ∧
      e.after.redis (RedisStore.key "result" id) = none ∧
      e.after.redis (RedisStore.key "challenge" id) = none) ∨
    (HostedItem.acknowledged e.item ≠ some id ∧
      e.after.redis (RedisStore.key "result" id) = e.before.redis (RedisStore.key "result" id)) := by
  have hrc := RedisStore.challenge_ne_result
  have hrd := RedisStore.result_ne_consumed
  have hcd := RedisStore.challenge_ne_consumed
  cases h with
  | stores challengeID r t hstored hack hstores =>
    by_cases hid : id = challengeID
    · subst hid
      exact Or.inl ⟨by simp [hack], r, t, hstored, hstores⟩
    · right
      right
      rw [hack, hstores.after, Function.update_of_ne fun h => hid (RedisStore.key_injective _ h)]
      exact ⟨nofun, rfl⟩
  | acknowledges challengeID v hstored hack hafter =>
    right
    rw [hack, hafter, Function.update_of_ne (hrd _ _), Function.update_of_ne (hrc _ _).symm,
      Function.update_of_ne (hcd _ _)]
    by_cases hid : id = challengeID
    · subst hid
      exact Or.inl ⟨rfl, Function.update_self .., Function.update_self ..⟩
    · right
      rw [Function.update_of_ne fun h => hid (RedisStore.key_injective _ h)]
      exact ⟨fun h => hid (Option.some.inj h).symm, rfl⟩
  | creates challenge t hstored hack hcall hexpiry hafter =>
    right
    right
    rw [hack, hafter, Function.update_of_ne (hrc _ _).symm]
    exact ⟨nofun, rfl⟩
  | nothing hstored hack hafter =>
    right
    right
    rw [hack, hafter]
    exact ⟨nofun, rfl⟩

/-- The challenge is created, removed or left alone. -/
theorem challenge (h : HostedWrite e) (id : String) :
    (∃ c t, e.call = .store (.createChallenge c) ∧ c.challengeID = id ∧
      dateParse c.expiresAt = some t ∧
      e.after.redis (RedisStore.key "challenge" id) = some (c.text, t)) ∨
    e.after.redis (RedisStore.key "challenge" id) = none ∨
    e.after.redis (RedisStore.key "challenge" id) =
      e.before.redis (RedisStore.key "challenge" id) := by
  have hrc := RedisStore.challenge_ne_result
  have hcd := RedisStore.challenge_ne_consumed
  cases h with
  | stores challengeID r t hstored hack hstores =>
    rw [hstores.after, Function.update_of_ne (hrc _ _)]
    exact Or.inr (Or.inr rfl)
  | acknowledges challengeID v hstored hack hafter =>
    right
    rw [hafter, Function.update_of_ne (hcd _ _)]
    by_cases hid : id = challengeID
    · subst hid
      exact Or.inl (Function.update_self ..)
    · rw [Function.update_of_ne fun h => hid (RedisStore.key_injective _ h),
        Function.update_of_ne (hrc _ _)]
      exact Or.inr rfl
  | creates challenge t hstored hack hcall hexpiry hafter =>
    by_cases hid : id = challenge.challengeID
    · subst hid
      exact Or.inl ⟨challenge, t, hcall, rfl, hexpiry, by rw [hafter, Function.update_self]⟩
    · rw [hafter, Function.update_of_ne fun h => hid (RedisStore.key_injective _ h)]
      exact Or.inr (Or.inr rfl)
  | nothing hstored hack hafter =>
    rw [hafter]
    exact Or.inr (Or.inr rfl)

end HostedWrite

section Valid

variable [DecidableEq W] {K : Contract HostedRequest.Result HostedCall.Answer}
  {earlier : List (HostedEntry W)}

theorem hostedWrite_of_valid (h : e.Valid HostedCall.exec K earlier) : HostedWrite e := by
  obtain ⟨transaction, hexec, hcommits⟩ := h.commits
  obtain ⟨thread, request, past, call, answer, before, after⟩ := e
  cases call with
  | store call =>
    obtain rfl := Option.some.inj hexec
    obtain ⟨hredis, -⟩ := HostedStore.commits_onRedis.1 hcommits
    cases call with
    | createChallenge challenge =>
      rcases RedisStore.commits_createChallenge hredis with hsame | ⟨expiresAt, hexpiry, -, hafter⟩
      · exact .nothing rfl rfl hsame
      · exact .creates challenge expiresAt rfl rfl rfl hexpiry hafter
    | getChallenge challengeID =>
      exact .nothing rfl rfl (RedisStore.commits_getChallenge hredis).1
    | putResult challengeID result =>
      rcases RedisStore.commits_putResult hredis with ⟨hne, hsame⟩ | ⟨rfl, expiresAt, hstores⟩
      · refine .nothing ?_ rfl hsame
        cases answer <;> first | rfl | exact absurd rfl hne
      · exact .stores challengeID result expiresAt rfl rfl hstores
    | getResult challengeID => exact .nothing rfl rfl (RedisStore.commits_getResult hredis).1
    | acknowledge challengeID proofDigest tombstoneExpiresAt =>
      rcases RedisStore.commits_acknowledge hredis with ⟨rfl, hsame⟩ | ⟨rfl, v, hafter⟩
      · exact .nothing rfl rfl hsame
      · exact .acknowledges challengeID v rfl rfl hafter
  | now =>
    obtain rfl := Option.some.inj hexec
    replace hcommits := commits_get_bind.1 hcommits
    exact .nothing rfl rfl (congrArg HostedStore.redis (commits_pure.1 hcommits).2)
  | advance ms =>
    obtain rfl := Option.some.inj hexec
    have hafter := congrArg HostedStore.redis (commits_modify.1 hcommits)
    exact .nothing rfl rfl hafter
  | createChallenge | verifyCallback | getIdentityFromChain | randomUUID => cases hexec

/-- The clock does not go back. -/
theorem clock_le_of_valid (h : e.Valid HostedCall.exec K earlier) :
    e.before.clock ≤ e.after.clock := by
  obtain ⟨transaction, hexec, hcommits⟩ := h.commits
  obtain ⟨thread, request, past, call, answer, before, after⟩ := e
  cases call with
  | store call =>
    obtain rfl := Option.some.inj hexec
    exact (HostedStore.commits_onRedis.1 hcommits).2.ge
  | now =>
    obtain rfl := Option.some.inj hexec
    replace hcommits := commits_get_bind.1 hcommits
    exact (congrArg HostedStore.clock (commits_pure.1 hcommits).2).ge
  | advance ms =>
    obtain rfl := Option.some.inj hexec
    have hafter : after.clock = before.clock + ms :=
      congrArg HostedStore.clock (commits_modify.1 hcommits)
    exact (le_add_of_nonneg_right (Int.natCast_nonneg ms)).trans hafter.ge
  | createChallenge | verifyCallback | getIdentityFromChain | randomUUID => cases hexec

/-- What a call finds is what Redis shows under the key; it writes nothing. -/
theorem found_of_valid (h : e.Valid HostedCall.exec K earlier) {challengeID : String}
    {o : Option StoredResult} (hfound : HostedItem.found e.item = some (challengeID, o)) :
    e.after.redis = e.before.redis ∧
      o = (e.before.redis.get e.before.clock (RedisStore.key "result" challengeID)).bind fun text =>
        (Json.parse readNumber text).bind StoredResult.ofJson := by
  obtain ⟨transaction, hexec, hcommits⟩ := h.commits
  obtain ⟨thread, request, past, call, answer, before, after⟩ := e
  unfold HostedItem.found at hfound
  split at hfound
  · next id result hitem =>
    cases hitem
    obtain ⟨rfl, rfl⟩ := Prod.mk.inj (Option.some.inj hfound)
    obtain rfl := Option.some.inj hexec
    exact RedisStore.commits_getResult (HostedStore.commits_onRedis.1 hcommits).1
  · cases hfound

/-- What a call that stores a result has done. -/
theorem stores_of_valid (h : e.Valid HostedCall.exec K earlier) {challengeID : String}
    {result : StoredResult} (hstored : HostedItem.stored e.item = some (challengeID, result)) :
    e.call = .store (.putResult challengeID result) ∧ ∃ expiresAt,
      RedisStore.Stores e.before.clock e.before.redis challengeID result expiresAt
        e.after.redis := by
  obtain ⟨transaction, hexec, hcommits⟩ := h.commits
  obtain ⟨thread, request, past, call, answer, before, after⟩ := e
  unfold HostedItem.stored at hstored
  split at hstored
  · next id stored hitem =>
    cases hitem
    obtain ⟨rfl, rfl⟩ := Prod.mk.inj (Option.some.inj hstored)
    obtain rfl := Option.some.inj hexec
    rcases RedisStore.commits_putResult (HostedStore.commits_onRedis.1 hcommits).1 with
      ⟨hne, -⟩ | ⟨-, hstores⟩
    · exact absurd rfl hne
    · exact ⟨rfl, hstores⟩
  · cases hstored

end Valid

end ChecksAndBalances
