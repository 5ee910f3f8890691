import ChecksAndBalances.Hosted.Effects

/-!
# One identity per challenge

The service answers a second wallet with a conflict while the result of the first is in Redis.  The
result lives for two minutes and its challenge for five, so a wallet may still overtake the first one
in between.  In runs where none does, the results of a challenge name one identity; in every run a
result stays until it is acknowledged or expires, and nothing is returned after an acknowledgement.
-/

namespace ChecksAndBalances

open Lib Lib.Tx Threads

variable {W : Type}

/-! ## What is returned -/

/-- What the result route has found for a challenge. -/
def fetched (e : HostedEntry W) : Option (String × Option StoredResult) :=
  match e.request with
  | .result _ => HostedItem.found e.item
  | _ => none

/-- The result route has answered. -/
def HostedSystem.Answered (s : HostedSystem W) (w : W) (challengeID : String)
    (response : ResultResponse) : Prop :=
  ∃ past, s.threads w =
    some { request := .result challengeID, past, process := some (.done (.ok response)) }

theorem found_of_fetched {e : HostedEntry W} {id : String} {o : Option StoredResult}
    (h : fetched e = some (id, o)) :
    HostedItem.found e.item = some (id, o) := by
  unfold fetched at h
  split at h
  · exact h
  · cases h

section Claim

variable [ServiceHost]

/-- The lifetime of the result has not passed. -/
def StoredResult.liveAt (result : StoredResult) (now : ℤ) : Prop :=
  ∃ t, dateParse result.expiresAt = some t ∧ now < t

/-- How the result route returns results. -/
structure Delivers (s : HostedSystem W) : Prop where
  /-- What the route answers is what it has fetched. -/
  responses : ∀ w challengeID response, s.Answered w challengeID response →
    ∃ e ∈ s.log, e.thread = w ∧ ∃ found, fetched e = some (challengeID, found) ∧
      response = found.elim .pending StoredResult.response
  /-- A result is returned again until it is acknowledged or expires. -/
  retained : ∀ later e' between e earlier challengeID result found,
    s.log = later ++ e' :: (between ++ e :: earlier) →
      fetched e = some (challengeID, some result) → fetched e' = some (challengeID, found) →
      (∀ a ∈ between, HostedItem.acknowledged a.item ≠ some challengeID) →
      result.liveAt e'.before.clock → found = some result
  /-- Nothing is returned after an acknowledgement. -/
  consumed : ∀ later e between a earlier challengeID found,
    s.log = later ++ e :: (between ++ a :: earlier) →
      HostedItem.acknowledged a.item = some challengeID → fetched e = some (challengeID, found) →
      found = none

/-- All results that the route returns for a challenge name one identity. -/
structure OneIdentity (s : HostedSystem W) : Prop extends Delivers s where
  identity : ∀ e ∈ s.log, ∀ e' ∈ s.log, ∀ challengeID result result',
    fetched e = some (challengeID, some result) → fetched e' = some (challengeID, some result') →
      result.identityAddress = result'.identityAddress

/-- The entry is to store a result while its challenge lives, after one that names another identity
is no longer there. -/
def Overtakes (earlier : List (HostedEntry W)) (e : HostedEntry W) : Prop :=
  ∃ challengeID result first, e.call = .store (.putResult challengeID result) ∧
    (∃ e₀ ∈ earlier, HostedItem.stored e₀.item = some (challengeID, first)) ∧
    first.identityAddress ≠ result.identityAddress ∧
    RedisStore.Vacant e.before.clock e.before.redis challengeID

/-! ## What Redis holds -/

/-- Redis holds results that have been stored. -/
def HoldsStored (log : List (HostedEntry W)) (s : HostedStore) : Prop :=
  ∀ id, s.redis (RedisStore.key "result" id) = none ∨ ∃ r t,
    (∃ e ∈ log, HostedItem.stored e.item = some (id, r)) ∧ dateParse r.expiresAt = some t ∧
    s.redis (RedisStore.key "result" id) = some (r.text, t)

/-- A fetch returns what was stored, until it expires. -/
theorem shown_result {now t : ℤ} {redis : Redis} {id : String} {r : StoredResult}
    (h : redis (RedisStore.key "result" id) = some (r.text, t)) :
    ((redis.get now (RedisStore.key "result" id)).bind fun text =>
      (Json.parse readNumber text).bind StoredResult.ofJson) = if now < t then some r else none := by
  rw [Expiring.get, Expiring.At, h]
  split_ifs with hlive
  · simp [Option.filter_some, hlive, r.parse_text]
  · simp [Option.filter_some, hlive]

variable [DecidableEq W] {K : Contract HostedRequest.Result HostedCall.Answer}
  {earlier : List (HostedEntry W)} {e : HostedEntry W}

theorem HoldsStored.step (h : HoldsStored earlier e.before)
    (hvalid : e.Valid HostedCall.exec K earlier) : HoldsStored (e :: earlier) e.after := by
  intro id
  rcases (hostedWrite_of_valid hvalid).result id with ⟨-, r, t, hstored, hstores⟩ |
    ⟨-, hnone, -⟩ | ⟨-, hsame⟩
  · right
    refine ⟨r, t, ⟨e, List.mem_cons_self, hstored⟩, hstores.expiry, ?_⟩
    rw [hstores.after, Function.update_self]
  · exact Or.inl hnone
  · rw [hsame]
    rcases h id with hnone | ⟨r, t, ⟨e₀, he₀, hstored⟩, ht, hredis⟩
    · exact Or.inl hnone
    · exact Or.inr ⟨r, t, ⟨e₀, List.mem_cons_of_mem _ he₀, hstored⟩, ht, hredis⟩

/-- A result that is found has been stored, and is live. -/
theorem HoldsStored.found (h : HoldsStored earlier e.before)
    (hvalid : e.Valid HostedCall.exec K earlier) {id : String} {r : StoredResult}
    (hfound : HostedItem.found e.item = some (id, some r)) :
    ∃ t, (∃ e₀ ∈ earlier, HostedItem.stored e₀.item = some (id, r)) ∧
      dateParse r.expiresAt = some t ∧
      e.before.redis (RedisStore.key "result" id) = some (r.text, t) := by
  have hshown := (found_of_valid hvalid hfound).2
  rcases h id with hnone | ⟨r', t, hstored, ht, hredis⟩
  · rw [Expiring.get, Expiring.At, hnone] at hshown
    cases hshown
  · rw [shown_result hredis] at hshown
    split_ifs at hshown
    obtain rfl := Option.some.inj hshown
    exact ⟨t, hstored, ht, hredis⟩

/-! ## The claim -/

section Runs

variable {log : List (HostedEntry W)} {start s : HostedStore}

/-- Results that are stored without overtaking name one identity. -/
theorem stored_identity (h : Chronicle HostedCall.exec K id start log s)
    (hlog : Along (fun earlier e => ¬ Overtakes earlier e) log) :
    ∀ e ∈ log, ∀ e' ∈ log, ∀ challengeID result result',
      HostedItem.stored e.item = some (challengeID, result) →
        HostedItem.stored e'.item = some (challengeID, result') →
          result.identityAddress = result'.identityAddress := by
  induction log generalizing s with
  | nil => simp
  | cons e earlier ih =>
    obtain ⟨-, hvalid, hchronicle⟩ := h
    -- A result that is stored now names the identity of every earlier one.
    have hlatest : ∀ e' ∈ earlier, ∀ challengeID result result',
        HostedItem.stored e.item = some (challengeID, result) →
          HostedItem.stored e'.item = some (challengeID, result') →
            result'.identityAddress = result.identityAddress := by
      intro e' he' challengeID result first hstored hfirst
      by_contra hne
      obtain ⟨hcall, t, hstores⟩ := stores_of_valid hvalid hstored
      exact hlog.1 ⟨challengeID, result, first, hcall, ⟨e', he', hfirst⟩, hne, hstores.vacant⟩
    rintro e₁ (_ | ⟨_, he₁⟩) e₂ (_ | ⟨_, he₂⟩) challengeID result result' h₁ h₂
    · rw [h₁] at h₂
      rw [(Prod.mk.inj (Option.some.inj h₂)).2]
    · exact (hlatest e₂ he₂ challengeID result result' h₁ h₂).symm
    · exact hlatest e₁ he₁ challengeID result' result h₂ h₁
    · exact ih hchronicle hlog.2 e₁ he₁ e₂ he₂ challengeID result result' h₁ h₂

theorem holdsStored (h : Chronicle HostedCall.exec K id start log s)
    (hstart : ∀ id, start.redis (RedisStore.key "result" id) = none) : HoldsStored log s := by
  refine h.invariant ?_ (fun id => Or.inl (hstart id)) fun _ _ hvalid _ hI => hI.step hvalid
  intro log s s' hsame hI
  rwa [show s' = s from hsame]

/-- What has been found once is found again until it is acknowledged or expires. -/
theorem found_again {between : List (HostedEntry W)} {e' : HostedEntry W}
    (h : Chronicle HostedCall.exec K id start (between ++ e :: earlier) e'.before)
    (hstart : ∀ id, start.redis (RedisStore.key "result" id) = none)
    (hvalid' : e'.Valid HostedCall.exec K (between ++ e :: earlier)) {challengeID : String}
    {r : StoredResult} {o : Option StoredResult}
    (hfound : HostedItem.found e.item = some (challengeID, some r))
    (hfound' : HostedItem.found e'.item = some (challengeID, o))
    (hack : ∀ a ∈ between, HostedItem.acknowledged a.item ≠ some challengeID)
    (hlive : r.liveAt e'.before.clock) : o = some r := by
  obtain ⟨hvalid, hbefore⟩ := h.at
  obtain ⟨t, -, ht, hredis⟩ := (holdsStored hbefore hstart).found hvalid hfound
  obtain ⟨t', ht', hlive⟩ := hlive
  obtain rfl := Option.some.inj (ht.symm.trans ht')
  have hkept : (∃ a ∈ between, HostedItem.acknowledged a.item = some challengeID) ∨
      t ≤ e'.before.clock ∨
      e'.before.redis (RedisStore.key "result" challengeID) = some (r.text, t) := by
    refine h.invariant_after (I := fun later s =>
      (∃ a ∈ later, HostedItem.acknowledged a.item = some challengeID) ∨ t ≤ s.clock ∨
        s.redis (RedisStore.key "result" challengeID) = some (r.text, t)) ?_ ?_ ?_
    · intro later s s' hsame hI
      rwa [show s' = s from hsame]
    · right
      right
      rw [(found_of_valid hvalid hfound).1, hredis]
    · rintro later a hvalid_a - (⟨a', ha', hack'⟩ | hexpired | hheld)
      · exact Or.inl ⟨a', List.mem_cons_of_mem _ ha', hack'⟩
      · exact Or.inr (Or.inl (hexpired.trans (clock_le_of_valid hvalid_a)))
      · rcases (hostedWrite_of_valid hvalid_a).result challengeID with
          ⟨-, r', t', -, hstores⟩ | ⟨hacked, -, -⟩ | ⟨-, hsame⟩
        · right
          left
          refine le_trans ?_ (clock_le_of_valid hvalid_a)
          have hfree := hstores.vacant.free
          rw [Expiring.get, Expiring.At, hheld, Option.map_eq_none_iff, Option.filter_eq_none_iff]
            at hfree
          simpa using hfree
        · exact Or.inl ⟨a, List.mem_cons_self, hacked⟩
        · exact Or.inr (Or.inr (hsame.trans hheld))
  rcases hkept with ⟨a, ha, hacked⟩ | hexpired | hheld
  · exact absurd hacked (hack a ha)
  · exact absurd hlive hexpired.not_gt
  · rw [(found_of_valid hvalid' hfound').2, shown_result hheld, if_pos hlive]

/-- After an acknowledgement there is nothing to find, unless the challenge is created again. -/
theorem found_nothing [TokenSigner] {config : HostedConfig} {between : List (HostedEntry W)}
    {e' : HostedEntry W}
    (h : Chronicle HostedCall.exec (hostedContract config) id start (between ++ e :: earlier)
      e'.before)
    (hvalid' : e'.Valid HostedCall.exec (hostedContract config) (between ++ e :: earlier))
    {challengeID : String} {o : Option StoredResult}
    (hack : HostedItem.acknowledged e.item = some challengeID)
    (hfound' : HostedItem.found e'.item = some (challengeID, o))
    (hrequest : ∀ a ∈ between, ∀ body, a.request ≠ .challenge body) : o = none := by
  obtain ⟨hvalid, -⟩ := h.at
  have hgone : (∃ a ∈ between, ∃ body, a.request = .challenge body) ∨
      (e'.before.redis (RedisStore.key "result" challengeID) = none ∧
        e'.before.redis (RedisStore.key "challenge" challengeID) = none) := by
    refine h.invariant_after (I := fun later s =>
      (∃ a ∈ later, ∃ body, a.request = .challenge body) ∨
        (s.redis (RedisStore.key "result" challengeID) = none ∧
          s.redis (RedisStore.key "challenge" challengeID) = none)) ?_ ?_ ?_
    · intro later s s' hsame hI
      rwa [show s' = s from hsame]
    · right
      rcases (hostedWrite_of_valid hvalid).result challengeID with ⟨hne, -⟩ | ⟨-, hnone⟩ | ⟨hne, -⟩
      · exact absurd hack hne
      · exact hnone
      · exact absurd hack hne
    · rintro later a hvalid_a - (⟨a', ha', hcreated⟩ | ⟨hresult, hchallenge⟩)
      · exact Or.inl ⟨a', List.mem_cons_of_mem _ ha', hcreated⟩
      · have hwrite := hostedWrite_of_valid hvalid_a
        rcases hwrite.result challengeID with ⟨-, r, t, -, hstores⟩ | ⟨-, hnone⟩ | ⟨-, hsame⟩
        · -- Nothing is stored for a challenge that is gone.
          have hlive := hstores.vacant.challenge
          rw [Expiring.get, Expiring.At, hchallenge] at hlive
          cases hlive
        · exact Or.inr hnone
        · rcases hwrite.challenge challengeID with ⟨c, t, hcall, -⟩ | hnone | hsame'
          · have hallowed := hvalid_a.allowed
            rw [hcall] at hallowed
            obtain ⟨body, hbody, -⟩ := hallowed
            exact Or.inl ⟨a, List.mem_cons_self, body, hbody⟩
          · exact Or.inr ⟨hsame.trans hresult, hnone⟩
          · exact Or.inr ⟨hsame.trans hresult, hsame'.trans hchallenge⟩
  rcases hgone with ⟨a, ha, body, hcreated⟩ | ⟨hresult, -⟩
  · exact absurd hcreated (hrequest a ha body)
  · rw [(found_of_valid hvalid' hfound').2, Expiring.get, Expiring.At, hresult]
    rfl

end Runs

variable [TokenSigner] {config : HostedConfig} {s₀ s : HostedSystem W}

/-- In every run the results are returned until they are acknowledged or expire. -/
theorem delivers_of_reach (hs₀ : Threads.State.Initial s₀)
    (hresults : ∀ id, s₀.store.redis (RedisStore.key "result" id) = none)
    (hrun : Reach (HostedSystem.step config) (fun _ act => HostedAct.Answers act) s₀ s) :
    Delivers s := by
  have htraced := hostedTraced_of_reach hs₀ hrun
  have hrequested := hostedRequested_of_reach (fun _ _ h => h) hs₀ hrun
  constructor
  · rintro w challengeID response ⟨past, hthread⟩
    have htracked := htraced.threads w _ hthread
    obtain ⟨found, rfl, hresponse⟩ := htracked.follows _ rfl
    obtain ⟨later, e, earlier, hlog, hw, hitem⟩ :=
      exists_entry_of_mem_items (htracked.mem_items List.mem_cons_self rfl)
    have he : e ∈ s.log := by simp [hlog]
    have hrequest : e.request = .result challengeID := htracked.request e he hw
    refine ⟨e, he, hw, found, ?_, hresponse⟩
    rw [fetched, hrequest, hitem]
    rfl
  · intro later e' between e earlier challengeID result found hlog hfetched hfetched' hack hlive
    have hchronicle := htraced.chronicle
    rw [hlog] at hchronicle
    obtain ⟨hvalid', hbefore⟩ := hchronicle.at
    exact found_again hbefore hresults hvalid' (found_of_fetched hfetched)
      (found_of_fetched hfetched') hack hlive
  · intro later e' between e earlier challengeID found hlog hack hfetched
    have hchronicle := htraced.chronicle
    rw [hlog] at hchronicle
    obtain ⟨hvalid', hbefore⟩ := hchronicle.at
    refine found_nothing hbefore hvalid' hack (found_of_fetched hfetched) fun a ha => ?_
    exact hrequested.log a (by simp [hlog, ha])

/-- In runs in which no wallet overtakes another, all results that are returned for a challenge name
one identity. -/
theorem one_identity_of_reach (hs₀ : Threads.State.Initial s₀)
    (hresults : ∀ id, s₀.store.redis (RedisStore.key "result" id) = none)
    (hrun : Reach (HostedSystem.step config) (fun _ act => HostedAct.Answers act) s₀ s)
    (hlog : Along (fun earlier e => ¬ Overtakes earlier e) s.log) : OneIdentity s where
  toDelivers := delivers_of_reach hs₀ hresults hrun
  identity := by
    have hchronicle := (hostedTraced_of_reach hs₀ hrun).chronicle
    have hstored : ∀ e ∈ s.log, ∀ challengeID result, fetched e = some (challengeID, some result) →
        ∃ e₀ ∈ s.log, HostedItem.stored e₀.item = some (challengeID, result) := by
      intro e he challengeID result hfetched
      obtain ⟨later, earlier, hsplit⟩ := List.append_of_mem he
      rw [hsplit] at hchronicle
      obtain ⟨hvalid, hbefore⟩ := hchronicle.at
      obtain ⟨-, ⟨e₀, he₀, hstored⟩, -⟩ :=
        (holdsStored hbefore hresults).found hvalid (found_of_fetched hfetched)
      exact ⟨e₀, by simp [hsplit, he₀], hstored⟩
    intro e he e' he' challengeID result result' hfetched hfetched'
    obtain ⟨e₀, he₀, hresult⟩ := hstored e he challengeID result hfetched
    obtain ⟨e₁, he₁, hresult'⟩ := hstored e' he' challengeID result' hfetched'
    exact stored_identity hchronicle hlog e₀ he₀ e₁ he₁ challengeID result result' hresult hresult'

/-- The call is to store a result. -/
def isPut (item : HostedItem) : Bool :=
  match item.1 with
  | .store (.putResult _ _) => true
  | _ => false

omit [ServiceHost] [DecidableEq W] [TokenSigner] in
/-- A wallet that is alone overtakes none. -/
theorem not_overtakes_of_countP {log : List (HostedEntry W)}
    (h : (log.map Entry.item).countP isPut ≤ 1) :
    Along (fun earlier e => ¬ Overtakes earlier e) log := by
  refine along_of_suffix fun earlier e hsuffix => ?_
  rintro ⟨challengeID, result, first, hcall, ⟨e₀, he₀, hstored⟩, -⟩
  have hput : isPut e.item = true := by
    have hfirst : e.item.1 = .store (.putResult challengeID result) := hcall
    rw [isPut, hfirst]
  have hput₀ : isPut e₀.item = true := by
    unfold HostedItem.stored at hstored
    split at hstored
    · next hitem => rw [hitem]; rfl
    · cases hstored
  have hearlier : 0 < (earlier.map Entry.item).countP isPut :=
    List.countP_pos_iff.2 ⟨e₀.item, List.mem_map_of_mem he₀, hput₀⟩
  have hle := (hsuffix.sublist.map Entry.item).countP_le (p := isPut)
  rw [List.map_cons, List.countP_cons_of_pos hput] at hle
  omega

end Claim

/-! ## A second wallet -/

namespace HostedSample

/-- Tokens that are the texts of their claims. -/
scoped instance signer : TokenSigner where
  sign payload _ _ _ := (Json.obj payload).stringify

def config : HostedConfig := { jwtSecret := "independent-jwt-secret-that-is-at-least-32" }

/-- An identity that is active on the chain. -/
def chainIdentity (address : String) : Json :=
  .obj [
    ("identity", .obj [("identityaddress", .str address), ("systemid", .str config.chainId),
      ("flags", .num ⟨0⟩)]),
    ("status", .str "active"), ("fullyqualifiedname", .str "synthetic.VRSCTEST@")]

/-- A wallet answers the challenge. -/
def verified (address : String) : VerifiedCallback :=
  { challengeID := some challenge.challengeID
    decisionID := some challenge.challengeID
    identityAddress := some address
    responseSystemID := some config.chainId
    requestSystemID := some config.chainId
    requestSigningIdentity := some config.signingIdentity
    requestObjectDigest := challenge.requestObjectDigest
    decisionTime := some 1786068000000
    identity := some (chainIdentity address) }

/-- The identity that is checked. -/
def active (address : String) : ActiveIdentity :=
  { identityAddress := address, displayName := some "synthetic.VRSCTEST@" }

/-- The answers of the host to a callback. -/
def wallet (address : String) : (call : HostedCall) → call.Answer
  | .verifyCallback _ => some (verified address)
  | .randomUUID => "3f0f6ad2-6f0e-4d55-9d3a-0c5f4e7b1a11"
  | .now => 0
  | .store (.createChallenge _) => false
  | .store (.getChallenge _) => none
  | .store (.putResult _ _) => .consumed
  | .store (.getResult _) => none
  | .store (.acknowledge _ _ _) => false
  | .advance _ => ()
  | .createChallenge _ => none
  | .getIdentityFromChain _ => none

theorem challengeID_pattern : iaddressPattern challenge.challengeID = true := by decide +kernel

theorem dateParse_issuedAt : dateParse challenge.issuedAt = some 1786068000000 :=
  dateParse_times (t := (1786068000000, challenge.issuedAt)) (.head _)

theorem dateParse_expiresAt : dateParse challenge.expiresAt = some 1786068300000 :=
  dateParse_times (t := (1786068300000, challenge.expiresAt)) (by simp [times, challenge])

theorem verified_answers {address : String} (h : iaddressPattern address = true) :
    (verified address).answers config challenge = true := by
  simp [VerifiedCallback.answers, verified, h, dateParse_issuedAt, dateParse_expiresAt,
    isSafeInteger]

theorem validateIdentityActive_chainIdentity (address : String) :
    validateIdentityActive (some (chainIdentity address)) address config.chainId =
      some (active address) := by
  have hflags : notRevoked (some (.num ⟨0#64⟩)) = true := by decide
  simp [validateIdentityActive, chainIdentity, Json.member?, Json.text?, JsonObject.get?,
    List.lookup_cons, hflags, active]

/-- The result that a callback stores. -/
def issued (address : String) (now : ℤ) (expiresAt : String) : StoredResult :=
  tokenResult (TokenSigner.sign (tokenPayload challenge (active address)) config.jwtSecret
    (tokenOptions config challenge (min 120 (1786068300 - now / 1000))
      "3f0f6ad2-6f0e-4d55-9d3a-0c5f4e7b1a11") now) (active address) expiresAt

/-- The calls of a callback that stores its result. -/
def callbackTrace (address : String) (now : ℤ) (expiresAt : String) : List HostedItem := [
  ⟨.verifyCallback (.obj []), some (verified address)⟩,
  ⟨.store (.getChallenge challenge.challengeID), some challenge⟩, ⟨.now, now⟩,
  ⟨.store (.getResult challenge.challengeID), none⟩, ⟨.now, now⟩,
  ⟨.randomUUID, "3f0f6ad2-6f0e-4d55-9d3a-0c5f4e7b1a11"⟩,
  ⟨.store (.putResult challenge.challengeID (issued address now expiresAt)), .stored⟩]

/-- The key of the result. -/
def resultKey : String := RedisStore.key "result" challenge.challengeID

/-- The store with a result of the challenge. -/
def withResult (store : HostedStore) (result : StoredResult) (t : ℤ) : HostedStore :=
  { store with redis := Function.update store.redis resultKey (some (result.text, t)) }

/-- The challenge is in Redis, and no acknowledgement is. -/
structure Open (redis : Redis) : Prop where
  held : redis (RedisStore.key "challenge" challenge.challengeID) =
    some (challenge.text, 1786068300000)
  unconsumed : redis (RedisStore.key "consumed" challenge.challengeID) = none

theorem Open.update {redis : Redis} (h : Open redis) (v : Option (String × ℤ)) :
    Open (Function.update redis resultKey v) where
  held := by
    rw [resultKey, Function.update_of_ne (RedisStore.challenge_ne_result _ _), h.held]
  unconsumed := by
    rw [resultKey, Function.update_of_ne (RedisStore.result_ne_consumed _ _).symm, h.unconsumed]

variable {s : HostedSystem ℕ} {w : ℕ}

/-- A wallet answers while the challenge lives and there is no result: its result is stored. -/
theorem exists_stored (hw : s.threads w = none) {address : String}
    (haddress : iaddressPattern address = true) (hopen : Open s.store.redis) {now t : ℤ}
    (hnow : s.store.clock = now) (hfree : s.store.redis.get now resultKey = none)
    (hchallenge : now < 1786068300000) (hlive : 1 ≤ min 120 (1786068300 - now / 1000))
    {expiresAt : String} (hexpiresAt : toISOString
      ((now / 1000 + min 120 (1786068300 - now / 1000)) * 1000) = some expiresAt)
    (ht : dateParse expiresAt = some t) (hlater : now < t) :
    ∃ s', Reach (HostedSystem.step config) (fun _ act => HostedAct.Answers act) s s' ∧
      s'.store = withResult s.store (issued address now expiresAt) t ∧
      (∃ thread, s'.threads = Function.update s.threads w (some thread)) ∧
      s'.log.map Entry.item =
        (stored HostedCall.exec (callbackTrace address now expiresAt)).reverse ++
          s.log.map Entry.item := by
  have hruns : (ChecksAndBalances.callback config (.obj [])).run.Runs
      (callbackTrace address now expiresAt) (.ok ()) :=
    HostedProgram.callback_runs rfl challengeID_pattern rfl
      (by simp [MemoryStore.expired, dateParse_expiresAt, hchallenge]) (verified_answers haddress)
      rfl rfl (validateIdentityActive_chainIdentity address) dateParse_expiresAt rfl hlive
      hexpiresAt _
  have hshown : s.store.redis.get now (RedisStore.key "challenge" challenge.challengeID) =
      some challenge.text := by
    simp [Expiring.get, Expiring.At, hopen.held, Option.filter_some, hchallenge]
  have hvacant : RedisStore.Vacant now s.store.redis challenge.challengeID := by
    refine ⟨by rw [hshown]; rfl, ?_, hfree⟩
    simp [Expiring.get, Expiring.At, hopen.unconsumed]
  subst hnow
  have hnow : Commits (do return (← get).clock : Tx HostedStore ChallengeStoreError ℤ) s.store
      s.store.clock s.store := rfl
  have hput : Commits (HostedStore.onRedis fun now => RedisStore.exec now
      (.putResult challenge.challengeID (issued address s.store.clock expiresAt))) s.store .stored
      (withResult s.store (issued address s.store.clock expiresAt) t) :=
    HostedStore.commits_onRedis.2 ⟨RedisStore.putResult_commits hvacant ht hlater, rfl⟩
  have hanswered : Answered HostedCall.exec (wallet address)
      (callbackTrace address s.store.clock expiresAt) s.store
      (withResult s.store (issued address s.store.clock expiresAt) t) := by
    refine .cons_host rfl rfl (.cons_store rfl (HostedStore.commits_onRedis.2
      ⟨RedisStore.getChallenge_commits hshown, rfl⟩) (.cons_store rfl hnow
      (.cons_store rfl (HostedStore.commits_onRedis.2 ⟨RedisStore.getResult_commits hfree, rfl⟩)
      (.cons_store rfl hnow (.cons_host rfl rfl (.cons_store rfl hput (.nil _)))))))
  have hrequest : ∀ body, HostedRequest.callback (.obj []) ≠ .challenge body := by rintro _ ⟨⟩
  obtain ⟨s', hreach, hs', hthreads, hlog⟩ := exists_reach_request hrequest hruns hw hanswered
  exact ⟨s', hreach, hs', ⟨_, hthreads⟩, hlog⟩

/-- The end of a fetch. -/
def fetchThread (o : Option StoredResult) (past : List HostedItem) :
    Thread HostedRequest.Result HostedCall.Answer where
  request := .result challenge.challengeID
  past := past
  process := some (.done (.ok (o.elim .pending StoredResult.response)))

/-- A fetch answers what Redis shows. -/
theorem exists_fetched (hw : s.threads w = none) {o : Option StoredResult}
    (hshown : s.store.redis.get s.store.clock resultKey = o.map StoredResult.text) :
    ∃ s', Reach (HostedSystem.step config) (fun _ act => HostedAct.Answers act) s s' ∧
      s'.store = s.store ∧
      (∃ past, s'.threads = Function.update s.threads w (some (fetchThread o past))) ∧
      s'.log.map Entry.item =
        ⟨.store (.getResult challenge.challengeID), o⟩ :: s.log.map Entry.item := by
  have hrequest : ∀ body, HostedRequest.result challenge.challengeID ≠ .challenge body := by
    rintro _ ⟨⟩
  have hanswered : Answered HostedCall.exec (wallet "")
      [⟨.store (.getResult challenge.challengeID), o⟩] s.store s.store :=
    .cons_store rfl (HostedStore.commits_onRedis.2 ⟨RedisStore.getResult_commits hshown, rfl⟩)
      (.nil _)
  obtain ⟨s', hreach, hs', hthreads, hlog⟩ := exists_reach_request hrequest
    (HostedProgram.resultRoute_runs challengeID_pattern o) hw hanswered
  exact ⟨s', hreach, hs', ⟨_, hthreads⟩, hlog⟩

/-- The clock advances. -/
theorem exists_advanced (hw : s.threads w = none) (ms : ℕ) :
    ∃ s', Reach (HostedSystem.step config) (fun _ act => HostedAct.Answers act) s s' ∧
      s'.store = { s.store with clock := s.store.clock + ms } ∧
      ∃ thread, s'.threads = Function.update s.threads w (some thread) := by
  have hrequest : ∀ body, HostedRequest.advance ms ≠ .challenge body := by rintro _ ⟨⟩
  have hruns : ((HostedRequest.advance ms).program config).Runs [⟨.advance ms, ()⟩] (.ok ()) :=
    ⟨(), [], rfl, rfl, rfl⟩
  have hanswered : Answered HostedCall.exec (wallet "") [⟨.advance ms, ()⟩] s.store
      { s.store with clock := s.store.clock + ms } :=
    .cons_store rfl (commits_modify.2 rfl) (.nil _)
  obtain ⟨s', hreach, hs', hthreads, -⟩ := exists_reach_request hrequest hruns hw hanswered
  exact ⟨s', hreach, hs', _, hthreads⟩

/-- The challenge is in Redis at 02:00. -/
def start : HostedSystem ℕ where
  store :=
    { redis := Function.update (fun _ => none)
        (RedisStore.key "challenge" challenge.challengeID) (some (challenge.text, 1786068300000))
      clock := 1786068000000 }
  threads _ := none
  log := []

theorem open_start : Open start.store.redis where
  held := by simp [start]
  unconsumed := by simp [start, (RedisStore.challenge_ne_consumed _ _).symm]

theorem result_start (id : String) : start.store.redis (RedisStore.key "result" id) = none := by
  simp [start, (RedisStore.challenge_ne_result _ _).symm]

/-- Two wallets. -/
def addresses : String × String :=
  ("iC7jT1JAJJZHrS4JnHRbgLn9qUQokMsedM", "iBN1aqx6nYhm71h9UkGsW9mhU6trADx4WP")

theorem addresses_pattern : iaddressPattern addresses.1 = true ∧
    iaddressPattern addresses.2 = true ∧ addresses.1 ≠ addresses.2 := by
  decide +kernel

/-- The result of the first wallet, stored at 02:00. -/
def first : StoredResult := issued addresses.1 1786068000000 "2026-08-07T02:02:00.000Z"

/-- The result of the second wallet, stored at 02:02. -/
def second : StoredResult := issued addresses.2 1786068120000 "2026-08-07T02:04:00.000Z"

/-- The first wallet answers at 02:00 and its result is fetched. -/
theorem exists_first : ∃ s, Reach (HostedSystem.step config) (fun _ act => HostedAct.Answers act)
      start s ∧
    s.store = withResult start.store first 1786068120000 ∧
    (∃ past, s.threads 1 = some (fetchThread (some first) past)) ∧
    (∀ w, 2 ≤ w → s.threads w = none) ∧
    s.log.map Entry.item = ⟨.store (.getResult challenge.challengeID), some first⟩ ::
      (stored HostedCall.exec
        (callbackTrace addresses.1 1786068000000 "2026-08-07T02:02:00.000Z")).reverse := by
  have hfree : start.store.redis.get 1786068000000 resultKey = none := by
    rw [Expiring.get, Expiring.At, resultKey, result_start]
    rfl
  have htime : (1786068120000, "2026-08-07T02:02:00.000Z") ∈ times := by simp [times]
  obtain ⟨s₁, hreach₁, hs₁, ⟨thread₁, hthreads₁⟩, hlog₁⟩ := exists_stored (s := start) (w := 0)
    rfl addresses_pattern.1 open_start rfl hfree (by decide) (by decide) (toISOString_times htime)
    (dateParse_times htime) (by decide)
  obtain ⟨s₂, hreach₂, hs₂, ⟨past, hthreads₂⟩, hlog₂⟩ := exists_fetched (s := s₁) (w := 1)
    (o := some first) (by rw [hthreads₁]; rfl) (by
      rw [hs₁]
      simp [withResult, Expiring.get, Expiring.At, start, first, Option.filter_some])
  refine ⟨s₂, hreach₁.trans hreach₂, hs₂.trans hs₁, ⟨past, ?_⟩, fun w hw => ?_, ?_⟩
  · rw [hthreads₂, Function.update_self]
  · rw [hthreads₂, hthreads₁, Function.update_of_ne (by omega), Function.update_of_ne (by omega)]
    rfl
  · rw [hlog₂, hlog₁]
    exact congrArg _ (List.append_nil _)

theorem eq_some_of_response {r : StoredResult} {found : Option StoredResult}
    (h : r.response = found.elim .pending StoredResult.response) :
    ∃ r', found = some r' ∧ r'.identityAddress = r.identityAddress := by
  cases found with
  | none => cases h
  | some r' => exact ⟨r', rfl, (ResultResponse.verified.inj h).2.1.symm⟩

/-- Another wallet answers at 02:02, and its result is fetched too. -/
theorem two_identities_returned : ∃ s, Reach (HostedSystem.step config)
    (fun _ act => HostedAct.Answers act) start s ∧ ¬ OneIdentity s := by
  obtain ⟨s₁, hreach₁, hs₁, ⟨past₁, hthread₁⟩, hnone, -⟩ := exists_first
  obtain ⟨s₂, hreach₂, hs₂, ⟨thread₂, hthreads₂⟩⟩ := exists_advanced (hnone 2 le_rfl) 120000
  have hclock : s₂.store.clock = 1786068120000 := by rw [hs₂, hs₁]; rfl
  have hredis : s₂.store.redis = (withResult start.store first 1786068120000).redis := by
    rw [hs₂, hs₁]
  have hfree : s₂.store.redis.get 1786068120000 resultKey = none := by
    rw [hredis]
    simp [withResult, Expiring.get, Expiring.At, Option.filter_some]
  have htime : (1786068240000, "2026-08-07T02:04:00.000Z") ∈ times := by simp [times]
  obtain ⟨s₃, hreach₃, hs₃, ⟨thread₃, hthreads₃⟩, -⟩ := exists_stored (s := s₂) (w := 3)
    (by rw [hthreads₂]; exact hnone 3 (by decide)) addresses_pattern.2.1
    (hredis ▸ open_start.update _) hclock hfree (by decide) (by decide) (toISOString_times htime)
    (dateParse_times htime) (by decide)
  obtain ⟨s₄, hreach₄, -, ⟨past₄, hthreads₄⟩, -⟩ := exists_fetched (s := s₃) (w := 4)
    (o := some second) (by rw [hthreads₃, hthreads₂]; exact hnone 4 (by decide)) (by
      rw [hs₃]
      simp [withResult, Expiring.get, Expiring.At, hclock, second, Option.filter_some])
  refine ⟨s₄, ((hreach₁.trans hreach₂).trans hreach₃).trans hreach₄, fun hone => ?_⟩
  have hanswered₁ : s₄.Answered 1 challenge.challengeID first.response := by
    refine ⟨past₁, ?_⟩
    rw [hthreads₄, hthreads₃, hthreads₂]
    exact hthread₁
  have hanswered₄ : s₄.Answered 4 challenge.challengeID second.response := by
    refine ⟨past₄, ?_⟩
    rw [hthreads₄]
    rfl
  obtain ⟨e, he, -, found, hfetched, hresponse⟩ := hone.responses 1 _ _ hanswered₁
  obtain ⟨e', he', -, found', hfetched', hresponse'⟩ := hone.responses 4 _ _ hanswered₄
  obtain ⟨r, rfl, haddress⟩ := eq_some_of_response hresponse
  obtain ⟨r', rfl, haddress'⟩ := eq_some_of_response hresponse'
  have hsame := hone.identity e he e' he' _ r r' hfetched hfetched'
  rw [haddress, haddress'] at hsame
  exact absurd hsame addresses_pattern.2.2

/-- The result of the first wallet alone. -/
theorem one_identity_first : ∃ s, Reach (HostedSystem.step config)
    (fun _ act => HostedAct.Answers act) start s ∧
    (∃ past, s.threads 1 = some (fetchThread (some first) past)) ∧ OneIdentity s := by
  obtain ⟨s, hreach, -, hthread, -, hlog⟩ := exists_first
  refine ⟨s, hreach, hthread, one_identity_of_reach ⟨fun _ => rfl, rfl⟩ result_start hreach ?_⟩
  refine not_overtakes_of_countP ?_
  rw [hlog]
  decide

end HostedSample

end ChecksAndBalances
