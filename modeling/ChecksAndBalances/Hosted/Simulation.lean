import ChecksAndBalances.Hosted.Store
import ChecksAndBalances.Lib.Simulation

/-!
# The store in memory and the store in Redis

`MemoryStore` answers every sequence of calls as `RedisStore` does.  What the three maps hold is
what readers find under the three families of keys: an entry that has not been cleaned up yet is one
that Redis does not show any more.
-/

namespace ChecksAndBalances

open Lib Lib.Tx

namespace RedisStore

/-! ## Keys -/

theorem key_injective (kind : String) : Function.Injective (key kind) := by
  intro a b h
  have htext := congrArg String.toList h
  simp only [key, String.toList_append, List.append_assoc, List.append_cancel_left_eq] at htext
  exact String.ext (by simpa using htext)

theorem challenge_ne_result (a b : String) : key "challenge" a ≠ key "result" b := by
  intro h
  simpa [key, keyPrefix] using congrArg String.toList h

theorem challenge_ne_consumed (a b : String) : key "challenge" a ≠ key "consumed" b := by
  intro h
  simpa [key, keyPrefix] using congrArg String.toList h

theorem result_ne_consumed (a b : String) : key "result" a ≠ key "consumed" b := by
  intro h
  simpa [key, keyPrefix] using congrArg String.toList h

end RedisStore

section Stores

variable [ServiceHost]

/-! ## What the maps hold -/

/-- A challenge as Redis keeps it. -/
def StoredChallenge.entry (c : StoredChallenge) : Option (String × ℤ) :=
  (dateParse c.expiresAt).map fun t => (c.text, t)

/-- A result as Redis keeps it. -/
def StoredResult.entry (r : StoredResult) : Option (String × ℤ) :=
  (dateParse r.expiresAt).map fun t => (r.text, t)

namespace MemoryStore

def challengeTexts (m : MemoryStore) : Expiring String String :=
  (Option.bind · StoredChallenge.entry) ∘ m.challenges

def resultTexts (m : MemoryStore) : Expiring String String :=
  (Option.bind · StoredResult.entry) ∘ m.results

def consumedTexts (m : MemoryStore) : Expiring String String :=
  (Option.map fun t => ("1", t)) ∘ m.consumed

/-- Every entry has a deadline that has not passed. -/
structure Fresh (now : ℤ) (m : MemoryStore) : Prop where
  challenges : ∀ id c, m.challenges id = some c → ∃ t, dateParse c.expiresAt = some t ∧ now < t
  results : ∀ id r, m.results id = some r → ∃ t, dateParse r.expiresAt = some t ∧ now < t
  consumed : ∀ id t, m.consumed id = some t → now < t

/-- The texts of the entries are dates. -/
structure Dated (m : MemoryStore) : Prop where
  challenges : ∀ id c, m.challenges id = some c → (dateParse c.expiresAt).isSome = true
  results : ∀ id r, m.results id = some r → (dateParse r.expiresAt).isSome = true

theorem fresh_cleanup {m : MemoryStore} (h : m.Dated) (now : ℤ) : (m.cleanup now).Fresh now where
  challenges id c hc := by
    obtain ⟨hc, hlive⟩ := Option.filter_eq_some_iff.1 hc
    obtain ⟨t, ht⟩ := Option.isSome_iff_exists.1 (h.challenges id c hc)
    exact ⟨t, ht, by simpa [expired, ht] using hlive⟩
  results id r hr := by
    obtain ⟨hr, hlive⟩ := Option.filter_eq_some_iff.1 hr
    obtain ⟨t, ht⟩ := Option.isSome_iff_exists.1 (h.results id r hr)
    exact ⟨t, ht, by simpa [expired, ht] using hlive⟩
  consumed id t ht := by
    obtain ⟨ht, hlive⟩ := Option.filter_eq_some_iff.1 ht
    simpa using hlive

theorem Fresh.dated {now : ℤ} {m : MemoryStore} (h : m.Fresh now) : m.Dated where
  challenges id c hc := by
    obtain ⟨t, ht, -⟩ := h.challenges id c hc
    simp [ht]
  results id r hr := by
    obtain ⟨t, ht, -⟩ := h.results id r hr
    simp [ht]

omit [ServiceHost] in
/-- Cleaning up removes only what a reader does not find any more. -/
theorem filter_bind_filter {α : Type} {now : ℤ} (entry : α → Option (String × ℤ)) {keep : α → Bool}
    (hkeep : ∀ a e, entry a = some e → keep a = decide (now < e.2)) (o : Option α) :
    ((o.filter keep).bind entry).filter (fun e => now < e.2) =
      (o.bind entry).filter fun e => now < e.2 := by
  cases o with
  | none => rfl
  | some a =>
    cases he : entry a with
    | none => cases hk : keep a <;> simp [Option.filter_some, hk, he]
    | some e =>
      have hk := hkeep a e he
      by_cases hlive : now < e.2
      · simp [Option.filter_some, hk, hlive, he]
      · simp [Option.filter_some, hk, hlive, he]

theorem keep_iff_live {now : ℤ} {expiresAt text : String} {e : String × ℤ}
    (he : ((dateParse expiresAt).map fun t => (text, t)) = some e) :
    (!expired now expiresAt) = decide (now < e.2) := by
  obtain ⟨t, ht, rfl⟩ := Option.map_eq_some_iff.1 he
  simp only [expired, ht, Option.any_some, ← decide_not, not_le]

theorem at_cleanup (now : ℤ) (m : MemoryStore) :
    (m.cleanup now).challengeTexts.At now = m.challengeTexts.At now ∧
      (m.cleanup now).resultTexts.At now = m.resultTexts.At now ∧
      (m.cleanup now).consumedTexts.At now = m.consumedTexts.At now := by
  refine ⟨?_, ?_, ?_⟩
  · funext id
    exact filter_bind_filter StoredChallenge.entry (fun _ _ => keep_iff_live) (m.challenges id)
  · funext id
    exact filter_bind_filter StoredResult.entry (fun _ _ => keep_iff_live) (m.results id)
  · funext id
    have hkeep : ∀ (t : ℤ) (e : String × ℤ), some ("1", t) = some e →
        (!(t ≤ now : Bool)) = decide (now < e.2) := by
      rintro t e ⟨⟩
      simp only [← decide_not, not_le]
    have h := filter_bind_filter (fun t => some ("1", t)) hkeep (m.consumed id)
    simpa [Expiring.At, consumedTexts, cleanup, Option.map_eq_bind] using h

end MemoryStore

/-! ## The simulation -/

/-- What readers find in Redis from a time on is what the maps hold. -/
structure Simulates (now : ℤ) (m : MemoryStore) (redis : Redis) : Prop where
  challenges : Expiring.At now (redis ∘ RedisStore.key "challenge") = m.challengeTexts.At now
  results : Expiring.At now (redis ∘ RedisStore.key "result") = m.resultTexts.At now
  consumed : Expiring.At now (redis ∘ RedisStore.key "consumed") = m.consumedTexts.At now

namespace Simulates

variable {now now' : ℤ} {m : MemoryStore} {redis : Redis}

theorem mono (h : Simulates now m redis) (hnow : now ≤ now') : Simulates now' m redis where
  challenges := Expiring.at_mono hnow h.challenges
  results := Expiring.at_mono hnow h.results
  consumed := Expiring.at_mono hnow h.consumed

theorem cleanup (h : Simulates now m redis) : Simulates now (m.cleanup now) redis where
  challenges := h.challenges.trans (MemoryStore.at_cleanup now m).1.symm
  results := h.results.trans (MemoryStore.at_cleanup now m).2.1.symm
  consumed := h.consumed.trans (MemoryStore.at_cleanup now m).2.2.symm

/-! What a reader finds under each kind of key. -/

theorem get_challenge (h : Simulates now m redis) (hm : m.Fresh now) (id : String) :
    redis.get now (RedisStore.key "challenge" id) = (m.challenges id).map StoredChallenge.text := by
  refine (Expiring.get_eq_of_at h.challenges id).trans ?_
  cases hc : m.challenges id with
  | none => simp [Expiring.get, Expiring.At, MemoryStore.challengeTexts, hc]
  | some c =>
    obtain ⟨t, ht, hlive⟩ := hm.challenges id c hc
    simp [Expiring.get, Expiring.At, MemoryStore.challengeTexts, StoredChallenge.entry, hc, ht, hlive]

theorem get_result (h : Simulates now m redis) (hm : m.Fresh now) (id : String) :
    redis.get now (RedisStore.key "result" id) = (m.results id).map StoredResult.text := by
  refine (Expiring.get_eq_of_at h.results id).trans ?_
  cases hr : m.results id with
  | none => simp [Expiring.get, Expiring.At, MemoryStore.resultTexts, hr]
  | some r =>
    obtain ⟨t, ht, hlive⟩ := hm.results id r hr
    simp [Expiring.get, Expiring.At, MemoryStore.resultTexts, StoredResult.entry, hr, ht, hlive]

theorem get_consumed (h : Simulates now m redis) (hm : m.Fresh now) (id : String) :
    redis.get now (RedisStore.key "consumed" id) = (m.consumed id).map fun _ => "1" := by
  refine (Expiring.get_eq_of_at h.consumed id).trans ?_
  cases ht : m.consumed id with
  | none => simp [Expiring.get, Expiring.At, MemoryStore.consumedTexts, ht]
  | some t =>
    have hlive := hm.consumed id t ht
    simp [Expiring.get, Expiring.At, MemoryStore.consumedTexts, ht, hlive]

/-! What a write leaves. -/

theorem update_challenge (h : Simulates now m redis) (id : String)
    (challenge : Option StoredChallenge) {v : Option (String × ℤ)}
    (hv : v = challenge.bind StoredChallenge.entry) :
    Simulates now { m with challenges := Function.update m.challenges id challenge }
      (Function.update redis (RedisStore.key "challenge" id) v) where
  challenges := by
    rw [Function.update_comp_eq_of_injective _ (RedisStore.key_injective _),
      MemoryStore.challengeTexts, Function.comp_update, hv]
    exact Expiring.at_update_congr h.challenges
  results := by
    rw [Function.update_comp_eq_of_forall_ne _ _ fun id' =>
      (RedisStore.challenge_ne_result id id').symm]
    exact h.results
  consumed := by
    rw [Function.update_comp_eq_of_forall_ne _ _ fun id' =>
      (RedisStore.challenge_ne_consumed id id').symm]
    exact h.consumed

theorem update_result (h : Simulates now m redis) (id : String) (result : Option StoredResult)
    {v : Option (String × ℤ)} (hv : v = result.bind StoredResult.entry) :
    Simulates now { m with results := Function.update m.results id result }
      (Function.update redis (RedisStore.key "result" id) v) where
  challenges := by
    rw [Function.update_comp_eq_of_forall_ne _ _ fun id' => RedisStore.challenge_ne_result id' id]
    exact h.challenges
  results := by
    rw [Function.update_comp_eq_of_injective _ (RedisStore.key_injective _),
      MemoryStore.resultTexts, Function.comp_update, hv]
    exact Expiring.at_update_congr h.results
  consumed := by
    rw [Function.update_comp_eq_of_forall_ne _ _ fun id' =>
      (RedisStore.result_ne_consumed id id').symm]
    exact h.consumed

theorem update_consumed (h : Simulates now m redis) (id : String) (t : ℤ) :
    Simulates now { m with consumed := Function.update m.consumed id (some t) }
      (Function.update redis (RedisStore.key "consumed" id) (some ("1", t))) where
  challenges := by
    rw [Function.update_comp_eq_of_forall_ne _ _ fun id' => RedisStore.challenge_ne_consumed id' id]
    exact h.challenges
  results := by
    rw [Function.update_comp_eq_of_forall_ne _ _ fun id' => RedisStore.result_ne_consumed id' id]
    exact h.results
  consumed := by
    rw [Function.update_comp_eq_of_injective _ (RedisStore.key_injective _),
      MemoryStore.consumedTexts, Function.comp_update]
    exact Expiring.at_update_congr h.consumed

end Simulates

/-! ## One call -/

/-- The times of the call lie in the future. -/
def ChallengeStoreCall.inFuture (now : ℤ) : ChallengeStoreCall → Bool
  | createChallenge challenge => (dateParse challenge.expiresAt).any fun t => now < t
  | putResult _ result => (dateParse result.expiresAt).any fun t => now < t
  | acknowledge _ _ tombstoneExpiresAt => now < tombstoneExpiresAt
  | getChallenge _ | getResult _ => true

/-- The result that the call stores, if any. -/
def ChallengeStoreCall.result? : ChallengeStoreCall → Option StoredResult
  | putResult _ result => some result
  | _ => none

/-- The two stores at a time: the results come from calls, and every text of a time is a date. -/
structure Coupled (P : StoredResult → Prop) (now : ℤ) (m : MemoryStore) (redis : Redis) : Prop where
  simulates : Simulates now m redis
  dated : m.Dated
  known : ∀ id r, m.results id = some r → P r

/-- The two stores commit with the same answer and stay coupled. -/
def Answers (P : StoredResult → Prop) (now : ℤ) {α : Type} (t : MemoryTx α) (u : RedisTx α)
    (m : MemoryStore) (redis : Redis) : Prop :=
  ∃ a m' redis', Commits t m a m' ∧ Commits u redis a redis' ∧ Coupled P now m' redis'

omit [ServiceHost] in
theorem eq_some_of_update {α : Type} {f : String → Option α} {k id : String} {v : Option α} {a : α}
    (h : Function.update f k v id = some a) : v = some a ∨ f id = some a := by
  rcases eq_or_ne id k with rfl | hid
  · rw [Function.update_self] at h
    exact Or.inl h
  · rw [Function.update_of_ne hid] at h
    exact Or.inr h

namespace Coupled

variable {P : StoredResult → Prop} {now now' : ℤ} {m : MemoryStore} {redis : Redis}

theorem mono (h : Coupled P now m redis) (hnow : now ≤ now') : Coupled P now' m redis :=
  ⟨h.simulates.mono hnow, h.dated, h.known⟩

theorem cleanup (h : Coupled P now m redis) : Coupled P now (m.cleanup now) redis where
  simulates := h.simulates.cleanup
  dated := (MemoryStore.fresh_cleanup h.dated now).dated
  known id r hr := h.known id r (Option.filter_eq_some_iff.1 hr).1

theorem createChallenge (h : Coupled P now m redis) {challenge : StoredChallenge} {t : ℤ}
    (ht : dateParse challenge.expiresAt = some t) (hlive : now < t) :
    Answers P now (MemoryStore.createChallenge now challenge)
      (RedisStore.createChallenge now challenge) m redis := by
  have hclean := h.cleanup
  have hfresh := MemoryStore.fresh_cleanup h.dated now
  have hget := hclean.simulates.get_challenge hfresh challenge.challengeID
  unfold Answers MemoryStore.createChallenge RedisStore.createChallenge
  simp only [commits_modify_bind, commits_get_bind, commits_found_bind, ht, Option.some.injEq,
    exists_eq_left', if_neg (not_le.2 (sub_pos.2 hlive)), hget, Option.isSome_map]
  split_ifs with hc
  · exact ⟨false, _, _, commits_pure.2 ⟨rfl, rfl⟩, commits_pure.2 ⟨rfl, rfl⟩, hclean⟩
  · refine ⟨true, _, _, commits_modify_bind.2 (commits_pure.2 ⟨rfl, rfl⟩),
      commits_modify_bind.2 (commits_pure.2 ⟨rfl, rfl⟩), ?_, ?_, hclean.known⟩
    · refine hclean.simulates.update_challenge challenge.challengeID (some challenge) ?_
      simp [StoredChallenge.entry, ht]
    · refine ⟨fun id c hc => ?_, hclean.dated.results⟩
      rcases eq_some_of_update hc with hc | hc
      · rw [← Option.some.inj hc, ht, Option.isSome_some]
      · exact hclean.dated.challenges id c hc

theorem getChallenge (h : Coupled P now m redis) (challengeID : String) :
    Answers P now (MemoryStore.getChallenge now challengeID)
      (RedisStore.getChallenge now challengeID) m redis := by
  have hclean := h.cleanup
  have hget := hclean.simulates.get_challenge (MemoryStore.fresh_cleanup h.dated now) challengeID
  refine ⟨(m.cleanup now).challenges challengeID, m.cleanup now, redis, ?_, ?_, hclean⟩
  · exact commits_modify_bind.2 (commits_get_bind.2 (commits_pure.2 ⟨rfl, rfl⟩))
  · rw [RedisStore.getChallenge, commits_get_bind, hget]
    cases (m.cleanup now).challenges challengeID with
    | none => exact commits_pure.2 ⟨rfl, rfl⟩
    | some c =>
      show Commits (some <$> RedisStore.parse StoredChallenge.ofJson c.text) redis (some c) redis
      rw [map_eq_pure_bind]
      exact commits_bind.2 ⟨c, redis, commits_found.2 ⟨c.parse_text, rfl⟩,
        commits_pure.2 ⟨rfl, rfl⟩⟩

theorem getResult (h : Coupled P now m redis) (challengeID : String) :
    Answers P now (MemoryStore.getResult now challengeID)
      (RedisStore.getResult now challengeID) m redis := by
  have hclean := h.cleanup
  have hget := hclean.simulates.get_result (MemoryStore.fresh_cleanup h.dated now) challengeID
  refine ⟨(m.cleanup now).results challengeID, m.cleanup now, redis, ?_, ?_, hclean⟩
  · exact commits_modify_bind.2 (commits_get_bind.2 (commits_pure.2 ⟨rfl, rfl⟩))
  · rw [RedisStore.getResult, commits_get_bind, hget]
    cases (m.cleanup now).results challengeID with
    | none => exact commits_pure.2 ⟨rfl, rfl⟩
    | some r =>
      show Commits (some <$> RedisStore.parse StoredResult.ofJson r.text) redis (some r) redis
      rw [map_eq_pure_bind]
      exact commits_bind.2 ⟨r, redis, commits_found.2 ⟨r.parse_text, rfl⟩,
        commits_pure.2 ⟨rfl, rfl⟩⟩

theorem putResult (h : Coupled P now m redis) (hP : ∀ r r', P r → P r' →
    r.proofDigest = r'.proofDigest → r = r') (challengeID : String) {result : StoredResult}
    (hresult : P result) {t : ℤ} (ht : dateParse result.expiresAt = some t) (hlive : now < t) :
    Answers P now (MemoryStore.putResult now challengeID result)
      (RedisStore.putResult now challengeID result) m redis := by
  have hclean := h.cleanup
  have hfresh := MemoryStore.fresh_cleanup h.dated now
  unfold Answers MemoryStore.putResult RedisStore.putResult
  simp only [commits_modify_bind, commits_get_bind, commits_found_bind, ht, Option.some.injEq,
    exists_eq_left', if_neg (not_le.2 (sub_pos.2 hlive)), Option.isSome_map, Option.isNone_map,
    hclean.simulates.get_challenge hfresh challengeID,
    hclean.simulates.get_consumed hfresh challengeID,
    hclean.simulates.get_result hfresh challengeID]
  split_ifs with hconsumed
  · exact ⟨.consumed, _, _, commits_pure.2 ⟨rfl, rfl⟩, commits_pure.2 ⟨rfl, rfl⟩, hclean⟩
  · cases hr : (m.cleanup now).results challengeID with
    | some existing =>
      have hsame : existing.text = result.text ↔ existing.proofDigest = result.proofDigest := by
        constructor
        · intro htext
          rw [StoredResult.text_injective htext]
        · intro hdigest
          rw [hP existing result (hclean.known challengeID existing hr) hresult hdigest]
      simp only [Option.map_some, hsame]
      exact ⟨_, _, _, commits_pure.2 ⟨rfl, rfl⟩, commits_pure.2 ⟨rfl, rfl⟩, hclean⟩
    | none =>
      refine ⟨.stored, _, _, commits_modify_bind.2 (commits_pure.2 ⟨rfl, rfl⟩),
        commits_modify_bind.2 (commits_pure.2 ⟨rfl, rfl⟩), ?_, ?_, ?_⟩
      · refine hclean.simulates.update_result challengeID (some result) ?_
        simp [StoredResult.entry, ht]
      · refine ⟨hclean.dated.challenges, fun id r hr => ?_⟩
        rcases eq_some_of_update hr with hr | hr
        · rw [← Option.some.inj hr, ht, Option.isSome_some]
        · exact hclean.dated.results id r hr
      · intro id r hr
        rcases eq_some_of_update hr with hr | hr
        · rw [← Option.some.inj hr]
          exact hresult
        · exact hclean.known id r hr

theorem acknowledge (h : Coupled P now m redis) (challengeID proofDigest : String)
    {tombstoneExpiresAt : ℤ} (hlive : now < tombstoneExpiresAt) :
    Answers P now (MemoryStore.acknowledge now challengeID proofDigest tombstoneExpiresAt)
      (RedisStore.acknowledge now challengeID proofDigest tombstoneExpiresAt) m redis := by
  have hclean := h.cleanup
  have hget := hclean.simulates.get_result (MemoryStore.fresh_cleanup h.dated now) challengeID
  unfold Answers MemoryStore.acknowledge RedisStore.acknowledge
  simp only [commits_modify_bind, commits_get_bind, hget]
  cases hr : (m.cleanup now).results challengeID with
  | none => exact ⟨false, _, _, commits_pure.2 ⟨rfl, rfl⟩, commits_pure.2 ⟨rfl, rfl⟩, hclean⟩
  | some r =>
    have hparse : Json.parse readNumber r.text = some (.obj r.members) := r.ofTexts.parse_eq
    simp only [Option.map_some, RedisStore.parse, commits_found_bind, hparse, Option.bind_some,
      Option.some.injEq, exists_eq_left', r.proofDigest_members, ne_eq, ite_not]
    split_ifs with hdigest
    · have hset : RedisStore.set now (RedisStore.key "consumed" challengeID) "1"
          (max 1 (tombstoneExpiresAt - now)) = fun redis => Function.update redis
            (RedisStore.key "consumed" challengeID) (some ("1", tombstoneExpiresAt)) := by
        have hmax : now + max 1 (tombstoneExpiresAt - now) = tombstoneExpiresAt := by omega
        funext redis
        rw [RedisStore.set, hmax]
      rw [hset]
      refine ⟨true, _, _, commits_modify_bind.2 (commits_pure.2 ⟨rfl, rfl⟩),
        commits_modify_bind.2 (commits_modify_bind.2 (commits_modify_bind.2
          (commits_pure.2 ⟨rfl, rfl⟩))), ?_, ?_, ?_⟩
      · exact ((hclean.simulates.update_result challengeID none rfl).update_challenge
          challengeID none rfl).update_consumed challengeID tombstoneExpiresAt
      · refine ⟨fun id c hc => ?_, fun id r hr => ?_⟩
        · exact hclean.dated.challenges id c ((eq_some_of_update hc).resolve_left nofun)
        · exact hclean.dated.results id r ((eq_some_of_update hr).resolve_left nofun)
      · intro id r hr
        exact hclean.known id r ((eq_some_of_update hr).resolve_left nofun)
    · exact ⟨false, _, _, commits_pure.2 ⟨rfl, rfl⟩, commits_pure.2 ⟨rfl, rfl⟩, hclean⟩

/-- Every call with times in the future is answered alike. -/
theorem exec (h : Coupled P now m redis) (hP : ∀ r r', P r → P r' →
    r.proofDigest = r'.proofDigest → r = r') {call : ChallengeStoreCall}
    (hfuture : call.inFuture now = true) (hresult : ∀ r ∈ call.result?, P r) :
    Answers P now (MemoryStore.exec now call) (RedisStore.exec now call) m redis := by
  cases call with
  | createChallenge challenge =>
    obtain ⟨t, ht, hlive⟩ := (Option.any_eq_true _ _).1 hfuture
    exact h.createChallenge ht (of_decide_eq_true hlive)
  | getChallenge challengeID => exact h.getChallenge challengeID
  | putResult challengeID result =>
    obtain ⟨t, ht, hlive⟩ := (Option.any_eq_true _ _).1 hfuture
    exact h.putResult hP challengeID (hresult result rfl) ht (of_decide_eq_true hlive)
  | getResult challengeID => exact h.getResult challengeID
  | acknowledge challengeID proofDigest tombstoneExpiresAt =>
    exact h.acknowledge challengeID proofDigest (of_decide_eq_true hfuture)

end Coupled

/-! ## Sequences of calls -/

namespace MemoryStore

/-- The answers of the store to a sequence of calls, each with the time of the clock. -/
def answers : MemoryStore → List (ℤ × ChallengeStoreCall) →
    List ((c : ℤ × ChallengeStoreCall) × Except ChallengeStoreError c.2.Answer) :=
  Lib.answers fun c => exec c.1 c.2

end MemoryStore

namespace RedisStore

/-- The answers of the store to a sequence of calls, each with the time of the clock. -/
def answers : Redis → List (ℤ × ChallengeStoreCall) →
    List ((c : ℤ × ChallengeStoreCall) × Except ChallengeStoreError c.2.Answer) :=
  Lib.answers fun c => exec c.1 c.2

end RedisStore

/-- Calls over a clock that does not go back, with times in the future. -/
structure Timely (P : StoredResult → Prop) (now : ℤ) (calls : List (ℤ × ChallengeStoreCall)) :
    Prop where
  clock : (now :: calls.map Prod.fst).IsChain (· ≤ ·)
  future : ∀ c ∈ calls, c.2.inFuture c.1 = true
  known : ∀ c ∈ calls, ∀ r ∈ c.2.result?, P r

theorem Coupled.answers_eq {P : StoredResult → Prop}
    (hP : ∀ r r', P r → P r' → r.proofDigest = r'.proofDigest → r = r') {now : ℤ}
    {m : MemoryStore} {redis : Redis} (h : Coupled P now m redis)
    {calls : List (ℤ × ChallengeStoreCall)} (hcalls : Timely P now calls) :
    m.answers calls = RedisStore.answers redis calls := by
  refine Lib.answers_eq (R := fun m redis calls =>
    ∃ now, Coupled P now m redis ∧ Timely P now calls) ?_ ⟨now, h, hcalls⟩
  rintro m redis ⟨time, call⟩ rest ⟨now, h, hclock, hfuture, hknown⟩
  rw [List.map_cons, List.isChain_cons_cons] at hclock
  rw [List.forall_mem_cons] at hfuture hknown
  obtain ⟨answer, m', redis', hm, hredis, hnext⟩ :=
    (h.mono hclock.1).exec hP hfuture.1 hknown.1
  exact ⟨answer, m', redis', hm, hredis, time, hnext, hclock.2, hfuture.2, hknown.2⟩

/-- Over a clock that does not go back, with times in the future and proof digests that determine
the results, the store in memory answers as Redis does. -/
theorem memoryStore_simulates_redisStore {calls : List (ℤ × ChallengeStoreCall)}
    (hclock : (calls.map Prod.fst).IsChain (· ≤ ·)) (hfuture : ∀ c ∈ calls, c.2.inFuture c.1 = true)
    (hdigest : ∀ c ∈ calls, ∀ c' ∈ calls, ∀ r ∈ c.2.result?, ∀ r' ∈ c'.2.result?,
      r.proofDigest = r'.proofDigest → r = r') :
    MemoryStore.empty.answers calls = RedisStore.answers (fun _ => none) calls := by
  cases calls with
  | nil => rfl
  | cons first rest =>
    have hstart : Coupled (fun r => ∃ c ∈ first :: rest, r ∈ c.2.result?) first.1 .empty
        (fun _ => none) :=
      ⟨⟨rfl, rfl, rfl⟩, ⟨nofun, nofun⟩, nofun⟩
    refine hstart.answers_eq ?_
      ⟨List.isChain_cons_cons.2 ⟨le_rfl, hclock⟩, hfuture, fun c hc r hr => ⟨c, hc, hr⟩⟩
    rintro r r' ⟨c, hc, hr⟩ ⟨c', hc', hr'⟩
    exact hdigest c hc c' hc' r hr r' hr'

end Stores

namespace HostedSample

/-- The times of the samples: 02:00, 02:02, 02:04 and 02:05. -/
def times : List (ℤ × String) := [
  (1786068000000, "2026-08-07T02:00:00.000Z"), (1786068120000, "2026-08-07T02:02:00.000Z"),
  (1786068240000, "2026-08-07T02:04:00.000Z"), (1786068300000, "2026-08-07T02:05:00.000Z")]

theorem find_times : ∀ t ∈ times, times.find? (fun u => u.2 = t.2) = some t ∧
    times.find? (fun u => u.1 = t.1) = some t := by
  decide +kernel

/-- The host functions on the sample times. -/
scoped instance host : ServiceHost where
  nfc s := s
  numberToString _ := "0"
  jsonParse _ := none
  readNumber _ := none
  dateParse text := (times.find? fun t => t.2 = text).map Prod.fst
  toISOString ms := (times.find? fun t => t.1 = ms).map Prod.snd

theorem dateParse_times {t : ℤ × String} (h : t ∈ times) : dateParse t.2 = some t.1 :=
  congrArg (Option.map Prod.fst) (find_times t h).1

theorem toISOString_times {t : ℤ × String} (h : t ∈ times) : toISOString t.1 = some t.2 :=
  congrArg (Option.map Prod.snd) (find_times t h).2

/-- A challenge of five minutes. -/
def challenge : StoredChallenge :=
  { challengeID := "iJhCezBExJHvtyH3fGhNnt2NhU4Ztkf2yq"
    state := "state_binding_value_that_is_at_least_32_chars_123"
    audience := "cbc-participant-app"
    purpose := "link_verusid"
    issuedAt := "2026-08-07T02:00:00.000Z"
    expiresAt := "2026-08-07T02:05:00.000Z"
    signingIdentity := "iBN1aqx6nYhm71h9UkGsW9mhU6trADx4WP"
    callbackUrl := "https://auth.checksandbalances.services/verusidlogin"
    network := "VRSCTEST"
    requestDigest := "request"
    requestObjectDigest := "object" }

/-- A result of two minutes. -/
def result : StoredResult :=
  { token := "token"
    identityAddress := "iC7jT1JAJJZHrS4JnHRbgLn9qUQokMsedM"
    displayName := some "synthetic.VRSCTEST@"
    proofDigest := "digest"
    expiresAt := "2026-08-07T02:02:00.000Z" }

/-- A result that another one conflicts with, that is acknowledged, and that cannot be stored
again. -/
def calls : List (ℤ × ChallengeStoreCall) := [
  (1786068000000, .createChallenge challenge),
  (1786068000000, .putResult challenge.challengeID result),
  (1786068060000, .putResult challenge.challengeID { result with proofDigest := "other" }),
  (1786068060000, .getResult challenge.challengeID),
  (1786068090000, .acknowledge challenge.challengeID "digest" 1786068690000),
  (1786068090000, .getChallenge challenge.challengeID),
  (1786068090000, .putResult challenge.challengeID result)]

theorem memoryStore_simulates_redisStore_calls :
    MemoryStore.empty.answers calls = RedisStore.answers (fun _ => none) calls :=
  memoryStore_simulates_redisStore (by decide) (by decide +kernel) (by decide +kernel)

end HostedSample

end ChecksAndBalances
