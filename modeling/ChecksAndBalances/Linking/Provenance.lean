import ChecksAndBalances.Linking.Login

/-!
# Where a link comes from

An active link was written by a poll of its account that presented a live session, the token of a
login that the hosted service signed for the challenge of that account, and the identity as the node
shows it.  A token completes one challenge.
-/

namespace ChecksAndBalances

open Lib Lib.Tx Threads VerusLinkRepository

variable {db db' : Db}

/-! ## One call -/

/-- The account is known under the reference. -/
def Db.OwnedBy (db : Db) (reference : String) (accountId : Uuid) : Prop :=
  ∃ trustDomain, (accountId, reference, trustDomain) ∈ db.identities

theorem ownedBy_of_mem {reference : String} {account : AuthAccount} (haccount : account ∈ db.authAccounts)
    (hreference : account.externalReference = reference) : db.OwnedBy reference account.id := by
  rw [← hreference]
  exact ⟨account.trustDomain, List.mem_map_of_mem haccount⟩

/-- A poll is shown a challenge of its account. -/
theorem commits_challengeForPoll {reference digest : String} {record : WalletLinkChallengeRecord}
    (h : Commits (VerusLinkRepository.challengeForPoll reference digest) db record db') :
    db' = db ∧ ∃ row ∈ db.walletChallenges, ∃ owner ∈ db.authAccounts,
      row.authAccountId = some owner.id ∧ owner.externalReference = reference ∧
        row.pollingTokenDigest = some digest ∧ record = mapChallenge db row owner := by
  unfold VerusLinkRepository.challengeForPoll requireOpaqueReference requireDigest at h
  simp only [commits_require_bind] at h
  obtain ⟨-, -, h⟩ := h
  obtain ⟨⟨row, owner⟩, _, hselect, hmap⟩ := commits_bind.1 h
  obtain ⟨rfl, hrow, howner, haccount, htest⟩ := commits_challengeSelect hselect
  rw [commits_get_bind, commits_pure] at hmap
  obtain ⟨rfl, rfl⟩ := hmap
  simp only [Bool.and_eq_true, decide_eq_true_eq] at htest
  exact ⟨rfl, row, hrow, owner, howner, haccount, htest.1, htest.2, rfl⟩

/-- A first completion writes the link of its account and identity, as it was proven; no other link
changes. -/
theorem commits_activateLink_proven {accountId : Uuid} {input : CompleteWalletLinkChallengeInput}
    {challenge : WalletChallenge} {result : String × Option IdentityLinkState}
    (hkeys : KeyedLinks db) (h : Commits (activateLink accountId input challenge) db result db') :
    ∀ l ∈ db'.identityLinks, l ∈ db.identityLinks ∨
      (isLinkOf accountId input.identityAddress l = true ∧ proven input challenge l = l) := by
  unfold activateLink at h
  rw [commits_get_bind] at h
  split at h
  · next link hlink =>
    obtain ⟨hmem, howner⟩ := Table.mem_of_find? hlink
    obtain ⟨_, db₁, hupdate, h⟩ := commits_bind.1 h
    obtain ⟨rfl, rfl⟩ := commits_pure.1 h
    rw [commits_updateLink hupdate]
    intro l hl
    rcases Table.mem_set.1 hl with ⟨l₀, hl₀, hid, rfl⟩ | ⟨hl, -⟩
    · obtain rfl := Table.unique_of_nodup hkeys.ids l₀ hl₀ link hmem (of_decide_eq_true hid)
      exact Or.inr ⟨howner, rfl⟩
    · exact Or.inl hl
  · obtain ⟨linkId, db₁, hid, h⟩ := commits_bind.1 h
    obtain ⟨suffix, db₂, hsuffix, h⟩ := commits_bind.1 h
    obtain ⟨_, db₃, hinsert, h⟩ := commits_bind.1 h
    obtain ⟨rfl, rfl⟩ := commits_pure.1 h
    obtain ⟨rfl, rfl⟩ := commits_newId.1 hid
    obtain ⟨rfl, rfl⟩ := commits_newId.1 hsuffix
    unfold insertLink at hinsert
    obtain ⟨participant, db₄, hparticipant, hinsert⟩ := commits_bind.1 hinsert
    have hsame : db₄.identityLinks = db.identityLinks :=
      (keeps_linkParticipant (f := fun db : Db => db.identityLinks) _ _ _ _ hparticipant).trans rfl
    unfold requireUnique at hinsert
    simp only [commits_lift_bind, commits_get_bind, commits_require_bind, commits_modify] at hinsert
    obtain ⟨_, -, -, -, -, rfl⟩ := hinsert
    intro l hl
    rcases List.mem_append.1 hl with hl | hl
    · exact Or.inl (hsame ▸ hl)
    · rw [List.mem_singleton.1 hl]
      refine Or.inr ⟨?_, rfl⟩
      simp [isLinkOf]

/-- The link is the one that the completion proved for the account of the challenge. -/
structure ProvenBy (input : CompleteWalletLinkChallengeInput) (challenge : WalletChallenge)
    (link : VerusIdentityLink) : Prop where
  request : challenge.requestId = some input.requestId
  account : challenge.authAccountId = some link.authAccountId
  identity : link.identityAddress = input.identityAddress
  columns : proven input challenge link = link

theorem commits_completeChallenge_proven {input : CompleteWalletLinkChallengeInput}
    {context : CommandContext} {result : WalletLinkCompletion} (hkeys : KeyedLinks db)
    (h : Commits (VerusLinkRepository.completeChallenge input context) db result db') :
    ∀ l ∈ db'.identityLinks, l ∈ db.identityLinks ∨
      ∃ challenge ∈ db.walletChallenges, ProvenBy input challenge l := by
  have hkept : db'.linkTables = db.linkTables → ∀ l ∈ db'.identityLinks,
      l ∈ db.identityLinks ∨ ∃ challenge ∈ db.walletChallenges, ProvenBy input challenge l := by
    intro hsame l hl
    exact Or.inl ((Prod.mk.inj hsame).2 ▸ hl)
  unfold VerusLinkRepository.completeChallenge requireDigest at h
  simp only [commits_require_bind] at h
  obtain ⟨-, -, -, h⟩ := h
  obtain ⟨⟨challenge, owner⟩, db₁, hselect, hrest⟩ := commits_bind.1 h
  obtain ⟨rfl, hmem, -, howner, hrequest⟩ := commits_challengeSelect hselect
  simp only [decide_eq_true_eq] at hrequest
  dsimp only at hrest
  split at hrest
  · rw [commits_require_bind] at hrest
    exact hkept ((keeps_linkForAccountAndIdentity (f := Db.linkTables) _ _).bind
      (fun _ => keeps_pure) _ _ _ hrest.2)
  · rw [commits_require_bind] at hrest
    obtain ⟨-, hrest⟩ := hrest
    split at hrest
    · obtain ⟨_, db₂, hexpire, hpure⟩ := commits_bind.1 hrest
      obtain ⟨-, rfl⟩ := commits_pure.1 hpure
      intro l hl
      have hlinks := (Prod.mk.inj (commits_expireChallenge hexpire)).2
      exact Or.inl (hlinks ▸ hl)
    · unfold VerusLinkRepository.consumeChallenge at hrest
      obtain ⟨⟨reference, prior⟩, db₂, hactivate, hrest⟩ := commits_bind.1 hrest
      obtain ⟨_, db₃, hupdate, hrest⟩ := commits_bind.1 hrest
      obtain ⟨_, db₄, haudit, hrest⟩ := commits_bind.1 hrest
      obtain ⟨_, db₅, haudit', hrest⟩ := commits_bind.1 hrest
      obtain ⟨-, rfl⟩ := commits_pure.1 hrest
      have htables := (linkTables_appendAudit haudit').trans (linkTables_appendAudit haudit)
      rw [commits_updateChallenge hupdate] at htables
      intro l hl
      rw [(Prod.mk.inj htables).2] at hl
      rcases commits_activateLink_proven hkeys hactivate l hl with hl | ⟨hlink, hproven⟩
      · exact Or.inl hl
      · simp only [isLinkOf, Bool.and_eq_true, decide_eq_true_eq] at hlink
        refine Or.inr ⟨challenge, hmem, hrequest, ?_, hlink.2, hproven⟩
        rw [howner, hlink.1]

/-- A call that completes no challenge leaves no link active that was not. -/
theorem LinkingEffect.active_of_mem {call : LinkingCall} {answer : call.Answer}
    (heffect : LinkingEffect db call answer db')
    (hcall : ∀ input context, call ≠ .link (.completeChallenge input context)) :
    ∀ l ∈ db'.identityLinks, l.state = .active → l ∈ db.identityLinks := by
  have stay {links : List WalletChallenge} (h : db'.linkTables = (links, db.identityLinks)) :
      ∀ l ∈ db'.identityLinks, l.state = .active → l ∈ db.identityLinks := by
    intro l hl _
    exact (Prod.mk.inj h).2 ▸ hl
  cases heffect with
  | kept hcall hrows => exact stay (linkingRows_congr hrows).2.1
  | counted hcount hrows => exact stay (Prod.mk.inj (Prod.mk.inj hrows).2).1
  | opened hidentities htables hbuckets => exact stay htables
  | linked heffect hidentities hbuckets =>
    cases heffect with
    | kept hcommand hquiet hmoved htables => exact stay htables
    | created challenge account haccount hreference howner hpresented hissued hfresh htables =>
      exact stay htables
    | closed challenge state reason hclosed hquiet hmoved hchallenge hpresented hstate htables =>
      exact stay htables
    | completed | replayed => exact absurd rfl (hcall _ _)
    | unlinked link hlink hreference htables =>
      intro l hl hactive
      rw [(Prod.mk.inj htables).2] at hl
      rcases Table.mem_set.1 hl with ⟨l₀, -, -, rfl⟩ | ⟨hl, -⟩
      · cases hactive
      · exact hl
    | suspended htables =>
      intro l hl hactive
      rw [(Prod.mk.inj htables).2] at hl
      rcases Table.mem_set.1 hl with ⟨l₀, -, -, rfl⟩ | ⟨hl, -⟩
      · cases hactive
      · exact hl

/-! ## The login -/

namespace LoginProof

variable [LinkingHost] {proof : LoginProof} {config : LinkingConfig} {polled : PollRequest}
  {past : List LinkingItem} {input : CompleteWalletLinkChallengeInput}

/-- The token verifies for the challenge, the account's state and the identity of the completion, and
has its proof digest. -/
structure Presents (proof : LoginProof) (config : LinkingConfig) (polled : PollRequest)
    (input : CompleteWalletLinkChallengeInput) (token : String) : Prop where
  verified : ∃ times, verifyJwt token config.hostedAuth.jwtSecret
    { issuer := config.hostedAuth.issuer
      audience := proof.challenge.audience
      challengeId := input.requestId
      state := proof.state
      identityAddress := input.identityAddress
      issuedAt := proof.issuedAt
      expiresAt := proof.challenge.expiresAt
      now := polled.now } = .ok times
  digest : input.proofDigest = sha256 token

/-- The challenge of a login has an identifier, since `null` is none. -/
theorem Holds.requestId (h : proof.Holds config polled past input) :
    proof.challenge.requestId = some input.requestId := by
  rw [h.completion]
  have hpattern := (getResult_eq_verified h.verified).1
  cases hid : proof.challenge.requestId with
  | none =>
    rw [WalletLinkService.resultInput, hid, Option.getD_none] at hpattern
    have hnull : iaddressPattern "null" = false := by decide
    exact absurd (hnull.symm.trans hpattern) Bool.false_ne_true
  | some id => simp [WalletLinkService.completion, hid]

theorem Holds.presents (h : proof.Holds config polled past input) :
    ∃ token, proof.Presents config polled input token := by
  obtain ⟨-, token, times, hverified, hdigest⟩ := getResult_eq_verified h.verified
  refine ⟨token, ⟨times, ?_⟩, hdigest⟩
  rw [← hverified]
  simp [WalletLinkService.resultInput, h.requestId]

end LoginProof

section Runs

variable [LinkingHost] {W : Type} [DecidableEq W] {config : LinkingConfig} {start : Db}

/-- The entry is the completion of a poll that proved the link: its past holds the session and the
login, and the challenge is one that this session's account was shown. -/
structure WritesLink (config : LinkingConfig) (e : LinkingEntry W) (polled : PollRequest)
    (input : CompleteWalletLinkChallengeInput) (proof : LoginProof) (link : VerusIdentityLink) :
    Prop where
  request : e.request = .poll polled
  call : ∃ context, e.call = .link (.completeChallenge input context)
  login : proof.Holds config polled e.past input
  proven : ∃ challenge ∈ e.before.walletChallenges, ProvenBy input challenge link
  owner : e.before.OwnedBy proof.session.accountReference link.authAccountId
  token : ∃ token, proof.Presents config polled input token

/-- The challenge that a poll is shown belongs to the account of its session. -/
theorem owner_of_shown (hstart : KeyedLinks start) {earlier : List (LinkingEntry W)} {db : Db}
    (h : LinkingChronicle config start earlier db) {w : W} {reference digest requestId : String}
    {record : WalletLinkChallengeRecord}
    (hshown : ⟨.link (.challengeForPoll reference digest), record⟩ ∈ items w earlier)
    (hrequest : record.requestId = some requestId) {challenge : WalletChallenge}
    (hchallenge : challenge ∈ db.walletChallenges)
    (hid : challenge.requestId = some requestId) :
    ∃ accountId, challenge.authAccountId = some accountId ∧ db.OwnedBy reference accountId := by
  obtain ⟨later, shown, before, rfl, -, hitem⟩ := exists_entry_of_mem_items hshown
  have hkeys := keyedLinks_of_chronicle hstart h
  have hpersists := persists_of_chronicle hstart h
  obtain ⟨transaction, hexec, hcommits⟩ := h.at.1.commits
  obtain ⟨thread, request, past, call, answer, store, store'⟩ := shown
  obtain ⟨rfl, hanswer⟩ := Sigma.mk.inj hitem
  obtain rfl := eq_of_heq hanswer
  obtain rfl := Option.some.inj hexec
  obtain ⟨hsame, row, hrow, owner, howner, haccount, hreference, -, hrecord⟩ :=
    commits_challengeForPoll hcommits
  have hshownId : row.requestId = some requestId := by
    rw [← hrequest, hrecord]
    rfl
  dsimp only at hpersists hsame
  rw [hsame] at hpersists
  -- The row is still the challenge of its identifier.
  obtain ⟨row', hrow', -, hrequest', howner'⟩ := hpersists.challenges row hrow
  obtain rfl := Table.unique_of_nodup hkeys.requests row' hrow' challenge hchallenge
    ((hrequest'.trans hshownId).trans hid.symm)
  obtain ⟨trustDomain, hidentity⟩ := ownedBy_of_mem howner hreference
  exact ⟨owner.id, howner'.trans haccount, trustDomain, hpersists.identities hidentity⟩

/-- A completion writes active links of its own poll only. -/
theorem writesLink_of_valid (hstart : KeyedLinks start) {earlier : List (LinkingEntry W)}
    {e : LinkingEntry W} (hvalid : LinkingValid config earlier e)
    (hearlier : LinkingChronicle config start earlier e.before) {link : VerusIdentityLink}
    (hlink : link ∈ e.after.identityLinks) (hactive : link.state = .active) :
    link ∈ e.before.identityLinks ∨
      ∃ polled input proof, WritesLink config e polled input proof link := by
  have hkeys := keyedLinks_of_chronicle hstart hearlier
  by_cases hcall : ∃ input context, e.call = .link (.completeChallenge input context)
  · obtain ⟨input, context, hcall⟩ := hcall
    have hallowed : LinkingAllows config e.request e.past e.call := hvalid.allowed
    rw [hcall] at hallowed
    obtain ⟨polled, proof, hpolled, hproof⟩ := hallowed
    have hcommits : ∃ result, Commits (VerusLinkRepository.completeChallenge input context) e.before
        result e.after := by
      obtain ⟨thread, request, past, call, answer, before, after⟩ := e
      obtain ⟨transaction, hexec, hcommits⟩ := hvalid.commits
      dsimp only at hcall
      subst hcall
      obtain rfl := Option.some.inj hexec
      exact ⟨answer, hcommits⟩
    obtain ⟨result, hcommits⟩ := hcommits
    refine (commits_completeChallenge_proven hkeys hcommits link hlink).imp_right ?_
    rintro ⟨challenge, hchallenge, hproven⟩
    have hshown := hvalid.mem_items hproof.read rfl
    obtain ⟨accountId, haccount, howned⟩ :=
      owner_of_shown hstart hearlier hshown hproof.requestId hchallenge hproven.request
    obtain rfl := Option.some.inj (haccount.symm.trans hproven.account)
    exact ⟨polled, input, proof, hpolled, ⟨context, hcall⟩, hproof, ⟨challenge, hchallenge, hproven⟩,
      howned, hproof.presents⟩
  · refine Or.inl ((linkingEffect_of_valid hvalid hkeys.ids).active_of_mem ?_ link hlink hactive)
    intro input context heq
    exact hcall ⟨input, context, heq⟩

/-- **Provenance**: in every run, an active link was written by a poll that carried the live session of
its account, for a challenge of that account, with a token that the hosted service signed for this
challenge and this identity, while the node showed the identity active. -/
theorem active_link_proven {s₀ s : LinkingSystem W} (hs₀ : Threads.State.Initial s₀)
    (hkeys : KeyedLinks s₀.store) (hlinks : ∀ l ∈ s₀.store.identityLinks, l.state ≠ .active)
    (hrun : Reach (LinkingSystem.step config) (fun _ _ => True) s₀ s) :
    ∀ link ∈ s.store.identityLinks, link.state = .active →
      ∃ e ∈ s.log, ∃ polled input proof, WritesLink config e polled input proof link := by
  have hchronicle := linkingChronicle_of_reach hs₀ hrun
  refine hchronicle.invariant
    (I := fun log db => ∀ link ∈ db.identityLinks, link.state = .active →
      ∃ e ∈ log, ∃ polled input proof, WritesLink config e polled input proof link) ?_ ?_ ?_
  · intro log db db' hview hwritten link hlink
    rw [(Prod.mk.inj (linkingRows_congr hview).2.1).2] at hlink
    exact hwritten link hlink
  · intro link hlink hactive
    exact absurd hactive (hlinks link hlink)
  · intro earlier e hvalid hearlier hwritten link hlink hactive
    rcases writesLink_of_valid hkeys hvalid hearlier hlink hactive with hbefore | hwrites
    · obtain ⟨e', he', hwrites⟩ := hwritten link hbefore hactive
      exact ⟨e', List.mem_cons_of_mem _ he', hwrites⟩
    · exact ⟨e, List.mem_cons_self, hwrites⟩

end Runs

namespace LinkingSample

theorem active_link_proven_linked : ∃ s : LinkingSystem ℕ, link ∈ s.store.identityLinks ∧
    ∃ e ∈ s.log, ∃ polled input proof, WritesLink config e polled input proof link := by
  obtain ⟨s, hreach, hlinks, -⟩ := exists_linked
  have hlink : link ∈ s.store.identityLinks := hlinks ▸ List.mem_singleton_self link
  exact ⟨s, hlink, active_link_proven start_initial start_keyed (List.forall_mem_nil _) hreach link
    hlink rfl⟩

end LinkingSample

end ChecksAndBalances
