import ChecksAndBalances.Linking.Provenance

/-!
# A token links once

A token names the challenge that it was signed for, and a challenge is consumed once.  Two completions
with one proof digest therefore show two tokens with one SHA-256 digest.
-/

namespace ChecksAndBalances

open Lib Lib.Tx Threads VerusLinkRepository

/-! ## Tokens -/

/-- A token that verifies names the challenge that is expected. -/
theorem claims_of_verifyJwt [ServiceHost] {token secret : String} {expected : ExpectedJwt}
    {times : ℤ × ℤ} (h : verifyJwt token secret expected = .ok times) :
    ∃ header claims signature members, token.toList.splitOn '.' = [header, claims, signature] ∧
      parseBase64UrlJson claims = .ok members ∧
      (Json.obj members).text? "challengeID" = some expected.challengeId := by
  unfold verifyJwt at h
  split at h
  · next header claims signature hsplit =>
    obtain ⟨_, -, h⟩ := bind_eq_ok h
    obtain ⟨members, hmembers, h⟩ := bind_eq_ok h
    split_ifs at h
    obtain ⟨_, -, h⟩ := bind_eq_ok h
    dsimp only at h
    split_ifs at h
    obtain ⟨iat, -, h⟩ := bind_eq_ok h
    obtain ⟨exp, -, h⟩ := bind_eq_ok h
    split_ifs at h with haccepts
    rw [Bool.not_eq_false, ExpectedJwt.accepts] at haccepts
    simp only [Bool.and_eq_true, decide_eq_true_eq] at haccepts
    obtain ⟨⟨⟨⟨⟨⟨⟨⟨⟨⟨-, hid⟩, -⟩, -⟩, -⟩, -⟩, -⟩, -⟩, -⟩, -⟩, -⟩ := haccepts
    exact ⟨header, claims, signature, members, hsplit, hmembers, hid⟩
  · cases h

/-- A token verifies for one challenge only. -/
theorem challengeId_of_verifyJwt [ServiceHost] {token secret : String}
    {expected expected' : ExpectedJwt} {times times' : ℤ × ℤ}
    (h : verifyJwt token secret expected = .ok times)
    (h' : verifyJwt token secret expected' = .ok times') :
    expected.challengeId = expected'.challengeId := by
  obtain ⟨header, claims, signature, members, hsplit, hmembers, hid⟩ := claims_of_verifyJwt h
  obtain ⟨header', claims', signature', members', hsplit', hmembers', hid'⟩ := claims_of_verifyJwt h'
  rw [hsplit] at hsplit'
  obtain ⟨-, hsplit'⟩ := List.cons.inj hsplit'
  obtain ⟨rfl, -⟩ := List.cons.inj hsplit'
  obtain rfl := Except.ok.inj (hmembers.symm.trans hmembers')
  exact Option.some.inj (hid.symm.trans hid')

/-! ## Completions -/

/-- The call completed a challenge for the first time. -/
def LinkingItem.completes : LinkingItem → Option CompleteWalletLinkChallengeInput
  | ⟨.link (.completeChallenge input _), .completed link⟩ => if link.replayed then none else some input
  | _ => none

variable {db db' : Db}

/-- The challenge of the request has left `presented`. -/
def Db.Spent (db : Db) (requestId : String) : Prop :=
  ∃ c ∈ db.walletChallenges, c.requestId = some requestId ∧ c.state ≠ .presented

theorem spent_congr {requestId : String} (htables : db'.linkTables = db.linkTables) :
    db'.Spent requestId ↔ db.Spent requestId := by
  rw [Db.Spent, Db.Spent, (Prod.mk.inj htables).1]

/-- A challenge that has left `presented` does not come back. -/
theorem Db.Spent.effect {requestId : String} (h : db.Spent requestId) (hkeys : KeyedLinks db)
    {call : LinkingCall} {answer : call.Answer} (heffect : LinkingEffect db call answer db') :
    db'.Spent requestId := by
  cases heffect with
  | kept hcall hrows => exact (spent_congr (linkingRows_congr hrows).2.1).2 h
  | counted hcount hrows => exact (spent_congr (Prod.mk.inj (Prod.mk.inj hrows).2).1).2 h
  | opened hidentities htables hbuckets => exact (spent_congr htables).2 h
  | linked heffect hidentities hbuckets =>
    obtain ⟨c, hc, hrequest, hstate⟩ := h
    obtain ⟨c', hc', hid, hsettles⟩ := settles_of_effect hkeys heffect c hc
    rcases hsettles with rfl | ⟨hpresented, -⟩
    · exact ⟨c', hc', hrequest, hstate⟩
    · exact absurd hpresented hstate

/-- A first completion finds its challenge presented and leaves it spent. -/
theorem spent_of_completes (hkeys : KeyedLinks db) {call : LinkingCall} {answer : call.Answer}
    (heffect : LinkingEffect db call answer db') {input : CompleteWalletLinkChallengeInput}
    (hcompletes : LinkingItem.completes ⟨call, answer⟩ = some input) :
    ¬ db.Spent input.requestId ∧ db'.Spent input.requestId := by
  unfold LinkingItem.completes at hcompletes
  split at hcompletes
  · next input' context link hitem =>
    split_ifs at hcompletes with hfirst
    obtain rfl := Option.some.inj hcompletes
    obtain ⟨rfl, hanswer⟩ := Sigma.mk.inj hitem
    obtain rfl := eq_of_heq hanswer
    cases heffect with
    | kept hcall hrows =>
      obtain ⟨_, hcall⟩ := hcall
      cases hcall
    | linked heffect hidentities hbuckets =>
      cases heffect with
      | kept hcommand hquiet hmoved htables => exact absurd rfl (hcommand _ _)
      | closed challenge state reason hclosed hquiet => cases hquiet
      | replayed challenge accountId row hreplayed => exact absurd hreplayed hfirst
      | completed challenge accountId hfirst hchallenge hpresented hrequest howner hopen hchallenges
          hlinks =>
        constructor
        · rintro ⟨c, hc, hid, hstate⟩
          obtain rfl := Table.unique_of_nodup hkeys.requests c hc challenge hchallenge
            (hid.trans hrequest.symm)
          exact hstate hpresented
        · refine ⟨_, hchallenges ▸ Table.mem_set_of_mem hchallenge, ?_⟩
          rw [if_pos (decide_eq_true rfl)]
          exact ⟨hrequest, by simp [consumedRow]⟩
  · cases hcompletes

/-! ## Runs -/

section Runs

variable [LinkingHost] {W : Type} [DecidableEq W] {config : LinkingConfig} {start : Db}

/-- The entry completed a challenge for the first time, with the token. -/
structure CompletesWith (config : LinkingConfig) (e : LinkingEntry W)
    (input : CompleteWalletLinkChallengeInput) (token : String) : Prop where
  completes : LinkingItem.completes e.item = some input
  presents : ∃ polled proof, e.request = .poll polled ∧
    LoginProof.Holds proof config polled e.past input ∧ proof.Presents config polled input token

theorem completesWith_of_valid {earlier : List (LinkingEntry W)} {e : LinkingEntry W}
    (hvalid : LinkingValid config earlier e) {input : CompleteWalletLinkChallengeInput}
    (hcompletes : LinkingItem.completes e.item = some input) :
    ∃ token, CompletesWith config e input token := by
  obtain ⟨context, hcall⟩ : ∃ context, e.call = .link (.completeChallenge input context) := by
    have h := hcompletes
    unfold LinkingItem.completes at h
    split at h
    · next input' context link hitem =>
      split_ifs at h
      obtain rfl := Option.some.inj h
      exact ⟨context, congrArg Sigma.fst hitem⟩
    · cases h
  have hallowed : LinkingAllows config e.request e.past e.call := hvalid.allowed
  rw [hcall] at hallowed
  obtain ⟨polled, proof, hpolled, hproof⟩ := hallowed
  obtain ⟨token, hpresents⟩ := hproof.presents
  exact ⟨token, hcompletes, polled, proof, hpolled, hproof, hpresents⟩

/-- The challenge of a first completion stays spent. -/
theorem spent_of_chronicle (hstart : KeyedLinks start) {later earlier : List (LinkingEntry W)}
    {e : LinkingEntry W} {db : Db} (h : LinkingChronicle config start (later ++ e :: earlier) db)
    {input : CompleteWalletLinkChallengeInput}
    (hcompletes : LinkingItem.completes e.item = some input) : db.Spent input.requestId := by
  have hkeys := keyedLinks_of_chronicle hstart h.at.2
  have heffect := linkingEffect_of_valid h.at.1 hkeys.ids
  refine (h.invariant_after (I := fun _ db => KeyedLinks db ∧ db.Spent input.requestId) ?_ ?_ ?_).2
  · intro _ db db' hview hspent
    have htables := (linkingRows_congr hview).2.1
    exact ⟨hspent.1.congr htables, (spent_congr htables).2 hspent.2⟩
  · exact ⟨hkeys.linking heffect, (spent_of_completes hkeys heffect hcompletes).2⟩
  · intro _ e' hvalid _ hspent
    have heffect' := linkingEffect_of_valid hvalid hspent.1.ids
    exact ⟨hspent.1.linking heffect', hspent.2.effect hspent.1 heffect'⟩

/-- **A token links once**: in every run, of two first completions with one proof digest the later
one presents another token than the earlier one, with the same SHA-256 digest. -/
theorem token_links_once {s₀ s : LinkingSystem W} (hs₀ : Threads.State.Initial s₀)
    (hkeys : KeyedLinks s₀.store) (hrun : Reach (LinkingSystem.step config) (fun _ _ => True) s₀ s) :
    s.log.Pairwise fun e e' => ∀ input input', LinkingItem.completes e.item = some input →
      LinkingItem.completes e'.item = some input' → input.proofDigest = input'.proofDigest →
        ∃ token token', CompletesWith config e input token ∧ CompletesWith config e' input' token' ∧
          token ≠ token' ∧ sha256 token = sha256 token' := by
  refine (linkingChronicle_of_reach hs₀ hrun).pairwise ?_
  intro earlier e hvalid hearlier e' he' input input' hcompletes hcompletes' hdigest
  obtain ⟨mid, earliest, rfl⟩ := List.append_of_mem he'
  obtain ⟨token, htoken⟩ := completesWith_of_valid hvalid hcompletes
  obtain ⟨token', htoken'⟩ := completesWith_of_valid hearlier.at.1 hcompletes'
  obtain ⟨polled, proof, -, -, hpresents⟩ := htoken.presents
  obtain ⟨polled', proof', -, -, hpresents'⟩ := htoken'.presents
  refine ⟨token, token', htoken, htoken', ?_, ?_⟩
  · -- One token names one challenge, which the earlier completion has spent.
    rintro rfl
    obtain ⟨times, hverified⟩ := hpresents.verified
    obtain ⟨times', hverified'⟩ := hpresents'.verified
    have hsame : input.requestId = input'.requestId := challengeId_of_verifyJwt hverified hverified'
    have hkeysBefore := keyedLinks_of_chronicle hkeys hearlier
    have hfresh := spent_of_completes hkeysBefore
      (linkingEffect_of_valid hvalid hkeysBefore.ids) hcompletes
    rw [hsame] at hfresh
    exact hfresh.1 (spent_of_chronicle hkeys hearlier hcompletes')
  · rw [← hpresents.digest, ← hpresents'.digest, hdigest]

end Runs

namespace LinkingSample

theorem token_links_once_linked : ∃ s : LinkingSystem ℕ, s.store.identityLinks = [link] ∧
    s.log.Pairwise fun e e' => ∀ input input', LinkingItem.completes e.item = some input →
      LinkingItem.completes e'.item = some input' → input.proofDigest = input'.proofDigest →
        ∃ token token', CompletesWith config e input token ∧ CompletesWith config e' input' token' ∧
          token ≠ token' ∧ sha256 token = sha256 token' := by
  obtain ⟨s, hreach, hlinks, -⟩ := exists_linked
  exact ⟨s, hlinks, token_links_once start_initial start_keyed hreach⟩

end LinkingSample

end ChecksAndBalances
