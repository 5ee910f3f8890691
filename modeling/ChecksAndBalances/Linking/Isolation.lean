import ChecksAndBalances.Linking.Provenance

/-!
# Requests stay within their account

A request of the facade writes challenges and links of the account of its session and of no other,
whatever else runs.
-/

namespace ChecksAndBalances

open Lib Lib.Tx Threads VerusLinkRepository

variable {db db' : Db} {reference : String}

/-! ## Ownership -/

/-- Challenges and links that come, go or change are those of the account. -/
structure ChangesOnly (reference : String) (db db' : Db) : Prop where
  challenges : ∀ c, (c ∈ db.walletChallenges ↔ c ∈ db'.walletChallenges) ∨
    ∃ accountId, c.authAccountId = some accountId ∧ db.OwnedBy reference accountId
  links : ∀ l, (l ∈ db.identityLinks ↔ l ∈ db'.identityLinks) ∨
    db.OwnedBy reference l.authAccountId

theorem ChangesOnly.of_tables (h : db'.linkTables = db.linkTables) :
    ChangesOnly reference db db' := by
  obtain ⟨hchallenges, hlinks⟩ := Prod.mk.inj h
  exact ⟨fun _ => Or.inl (by rw [hchallenges]), fun _ => Or.inl (by rw [hlinks])⟩

/-- An update of the row under a key changes rows of the owner of that row. -/
theorem mem_set_iff_or {ρ κ ω : Type} [DecidableEq κ] {key : ρ → κ} {o : ρ → ω} {f : ρ → ρ}
    {rows : List ρ} {row : ρ} (hkeys : (rows.map key).Nodup) (hrow : row ∈ rows)
    (howner : ∀ r, o (f r) = o r) (r : ρ) :
    (r ∈ rows ↔ r ∈ Table.set (fun r => key r = key row) f rows) ∨ o r = o row := by
  by_cases hkey : key r = key row ∧ r ∈ rows
  · exact Or.inr (congrArg o (Table.unique_of_nodup hkeys r hkey.2 row hrow hkey.1))
  · by_cases hset : ∃ r₀ ∈ rows, decide (key r₀ = key row) = true ∧ r = f r₀
    · obtain ⟨r₀, hr₀, hsame, rfl⟩ := hset
      obtain rfl := Table.unique_of_nodup hkeys r₀ hr₀ row hrow (of_decide_eq_true hsame)
      exact Or.inr (howner r₀)
    · refine Or.inl ⟨fun hr => Table.mem_set.2 (Or.inr ⟨hr, ?_⟩), fun hr => ?_⟩
      · exact decide_eq_false fun hsame => hkey ⟨hsame, hr⟩
      · exact ((Table.mem_set.1 hr).resolve_left hset).1

/-- A challenge of the account is updated. -/
theorem ChangesOnly.of_challenge (hkeys : KeyedLinks db) {challenge : WalletChallenge}
    {accountId : Uuid} {f : WalletChallenge → WalletChallenge} {links : List VerusIdentityLink}
    (hchallenge : challenge ∈ db.walletChallenges) (haccount : challenge.authAccountId = some accountId)
    (howned : db.OwnedBy reference accountId)
    (htables : db'.linkTables =
      (Table.set (fun w => w.id = challenge.id) f db.walletChallenges, links))
    (hf : ∀ c, (f c).authAccountId = c.authAccountId)
    (hlinks : ∀ l, (l ∈ db.identityLinks ↔ l ∈ links) ∨ db.OwnedBy reference l.authAccountId) :
    ChangesOnly reference db db' := by
  obtain ⟨hchallenges, rfl⟩ := Prod.mk.inj htables
  refine ⟨fun c => ?_, hlinks⟩
  rw [hchallenges]
  refine (mem_set_iff_or hkeys.challenges hchallenge hf c).imp_right fun howner => ?_
  exact ⟨accountId, howner.trans haccount, howned⟩

/-! ## Operations -/

theorem changesOnly_createChallenge {input : CreateWalletLinkChallengeInput}
    {context : CommandContext} {record : WalletLinkChallengeRecord}
    (h : Commits (VerusLinkRepository.createChallenge input context) db record db') :
    ChangesOnly input.accountReference db db' := by
  unfold VerusLinkRepository.createChallenge VerusLinkRepository.account at h
  unfold requireOpaqueReference requireDigest requireUnique at h
  simp only [commits_require_bind] at h
  obtain ⟨-, -, -, -, -, -, -, h⟩ := h
  obtain ⟨account, _, haccount, hinsert⟩ := commits_bind.1 h
  simp only [commits_get_bind, commits_found_bind, commits_require_bind, commits_pure] at haccount
  obtain ⟨_, hfound, -, rfl, rfl⟩ := haccount
  obtain ⟨id, _, hdrawn, hinsert⟩ := commits_bind.1 hinsert
  obtain ⟨rfl, rfl⟩ := commits_newId.1 hdrawn
  simp only [commits_lift_bind, commits_get_bind, commits_require_bind,
    commits_modify_bind] at hinsert
  obtain ⟨_, -, -, -, -, -, -, hinsert⟩ := hinsert
  obtain ⟨_, _, haudit, hinsert⟩ := commits_bind.1 hinsert
  obtain ⟨_, _, hselect, hrecord⟩ := commits_bind.1 hinsert
  obtain ⟨rfl, -⟩ := commits_challengeSelect hselect
  simp only [commits_get_bind, commits_pure] at hrecord
  obtain ⟨-, rfl⟩ := hrecord
  obtain ⟨hmem, htest⟩ := Table.mem_of_find? hfound
  simp only [Bool.and_eq_true, decide_eq_true_eq] at htest
  obtain ⟨hchallenges, hlinks⟩ := Prod.mk.inj (linkTables_appendAudit haudit)
  refine ⟨fun c => ?_, fun l => Or.inl (by rw [hlinks])⟩
  rw [hchallenges, List.mem_append, List.mem_singleton]
  by_cases howner : c.authAccountId = some account.id
  · exact Or.inr ⟨account.id, howner, ownedBy_of_mem hmem htest.1.1⟩
  · refine Or.inl ⟨Or.inl, fun hc => hc.resolve_right fun hnew => howner ?_⟩
    rw [hnew]
    rfl

theorem changesOnly_pollChallenge (hkeys : KeyedLinks db) {digest : String} {now : ℤ}
    {context : CommandContext} {result : WalletLinkPollResult}
    (h : Commits (VerusLinkRepository.pollChallenge reference digest now context) db result db') :
    ChangesOnly reference db db' := by
  unfold VerusLinkRepository.pollChallenge requireOpaqueReference requireDigest at h
  simp only [commits_require_bind] at h
  obtain ⟨-, -, h⟩ := h
  obtain ⟨⟨challenge, owner⟩, _, hselect, hrest⟩ := commits_bind.1 h
  obtain ⟨rfl, hmem, howner, haccount, htest⟩ := commits_challengeSelect hselect
  simp only [Bool.and_eq_true, decide_eq_true_eq] at htest
  dsimp only at hrest
  split at hrest
  · obtain ⟨_, _, hexpire, hpure⟩ := commits_bind.1 hrest
    obtain ⟨-, rfl⟩ := commits_pure.1 hpure
    exact .of_challenge hkeys hmem haccount (ownedBy_of_mem howner htest.1)
      (commits_expireChallenge hexpire) (fun _ => rfl) fun _ => Or.inl Iff.rfl
  · refine .of_tables ?_
    split at hrest
    · exact (keeps_linkForAccountAndIdentity (f := Db.linkTables) _ _).bind
        (fun _ => keeps_pure) _ _ _ hrest
    · rw [(commits_pure.1 hrest).2]

theorem changesOnly_cancelChallenge (hkeys : KeyedLinks db) {challengeReference : String}
    {cancelledAt : ℤ} {context : CommandContext} {u : Unit}
    (h : Commits (VerusLinkRepository.cancelChallenge reference challengeReference cancelledAt
      context) db u db') : ChangesOnly reference db db' := by
  unfold VerusLinkRepository.cancelChallenge requireOpaqueReference at h
  simp only [commits_require_bind] at h
  obtain ⟨-, -, h⟩ := h
  obtain ⟨⟨challenge, owner⟩, _, hselect, hrest⟩ := commits_bind.1 h
  obtain ⟨rfl, hmem, howner, haccount, htest⟩ := commits_challengeSelect hselect
  simp only [Bool.and_eq_true, decide_eq_true_eq] at htest
  have howned := ownedBy_of_mem howner htest.1
  dsimp only at hrest
  split at hrest
  · exact .of_tables (by rw [(commits_pure.1 hrest).2])
  · rw [commits_require_bind] at hrest
    obtain ⟨-, hrest⟩ := hrest
    split at hrest
    · exact .of_challenge hkeys hmem haccount howned (commits_expireChallenge hrest) (fun _ => rfl)
        fun _ => Or.inl Iff.rfl
    · obtain ⟨_, _, hupdate, hrest⟩ := commits_bind.1 hrest
      obtain ⟨_, _, haudit, hpure⟩ := commits_bind.1 hrest
      obtain ⟨-, rfl⟩ := commits_pure.1 hpure
      have htables := linkTables_appendAudit haudit
      rw [commits_updateChallenge hupdate] at htables
      exact .of_challenge hkeys hmem haccount howned htables (fun _ => rfl) fun _ => Or.inl Iff.rfl

theorem changesOnly_unlink (hkeys : KeyedLinks db) {linkReference : String} {unlinkedAt : ℤ}
    {context : CommandContext} {u : Unit}
    (h : Commits (VerusLinkRepository.unlink reference linkReference unlinkedAt context) db u db') :
    ChangesOnly reference db db' := by
  unfold VerusLinkRepository.unlink requireOpaqueReference at h
  simp only [commits_require_bind, commits_get_bind, commits_found_bind] at h
  obtain ⟨-, -, link, hfound, -, h⟩ := h
  obtain ⟨_, _, hupdate, hrest⟩ := commits_bind.1 h
  obtain ⟨_, _, haudit, hpure⟩ := commits_bind.1 hrest
  obtain ⟨-, rfl⟩ := commits_pure.1 hpure
  obtain ⟨hmem, htest⟩ := Table.mem_of_find? hfound
  simp only [Bool.and_eq_true, decide_eq_true_eq, List.any_eq_true] at htest
  obtain ⟨-, owner, howner, hid, hreference⟩ := htest
  have htables := linkTables_appendAudit haudit
  rw [commits_updateLink hupdate] at htables
  obtain ⟨hchallenges, hlinks⟩ := Prod.mk.inj htables
  refine ⟨fun c => Or.inl (by rw [hchallenges]), fun l => ?_⟩
  rw [hlinks]
  refine (mem_set_iff_or (o := VerusIdentityLink.authAccountId) (f := unlinkedRow unlinkedAt)
    hkeys.ids hmem (fun _ => rfl) l).imp_right fun hsame => ?_
  rw [hsame, ← hid]
  exact ownedBy_of_mem howner hreference

/-- A completion writes the link of the account that its challenge belongs to. -/
theorem changesOnly_completeChallenge (hkeys : KeyedLinks db)
    {input : CompleteWalletLinkChallengeInput} {context : CommandContext}
    {result : WalletLinkCompletion}
    (howned : ∀ challenge ∈ db.walletChallenges, challenge.requestId = some input.requestId →
      ∃ accountId, challenge.authAccountId = some accountId ∧ db.OwnedBy reference accountId)
    (h : Commits (VerusLinkRepository.completeChallenge input context) db result db') :
    ChangesOnly reference db db' := by
  cases effect_completeChallenge h with
  | kept hcommand hquiet hmoved htables => exact .of_tables htables
  | closed challenge state reason hclosed hquiet hmoved hchallenge hpresented hstate htables =>
    obtain ⟨accountId, haccount, howned⟩ :=
      howned challenge hchallenge (hclosed input context rfl).1
    exact .of_challenge hkeys hchallenge haccount howned htables (fun _ => rfl)
      fun _ => Or.inl Iff.rfl
  | completed challenge accountId hfirst hchallenge hpresented hrequest howner hopen hchallenges
      hlinks =>
    obtain ⟨accountId', haccount, howned⟩ := howned challenge hchallenge hrequest
    obtain rfl := Option.some.inj (haccount.symm.trans howner)
    have htables := congrArg (fun challenges => (challenges, db'.identityLinks)) hchallenges
    refine .of_challenge hkeys hchallenge haccount howned htables (fun _ => rfl) fun l => ?_
    -- The link is one of the account, and so is every row that it replaces.
    have hof {link : VerusIdentityLink}
        (hlink : isLinkOf accountId' input.identityAddress link = true) :
        db.OwnedBy reference link.authAccountId := by
      simp only [isLinkOf, Bool.and_eq_true, decide_eq_true_eq] at hlink
      rw [hlink.1]
      exact howned
    generalize db'.identityLinks = links at hlinks ⊢
    cases hlinks with
    | inserted link hnew =>
      by_cases hl : l = link
      · subst hl
        exact Or.inr (hof hnew.owner)
      · simp [hl]
    | renewed link challenge' hlink hisLink hreference =>
      refine (mem_set_iff_or (o := VerusIdentityLink.authAccountId) (f := revalidated input challenge')
        hkeys.ids hlink (fun _ => rfl) l).imp_right fun hsame => ?_
      rw [hsame]
      exact hof hisLink
  | replayed challenge accountId row hreplayed hstate hchallenge hconsumed hrequest howner hrow
      hlink hreference htables => exact .of_tables htables

/-! ## Runs -/

section Runs

variable [LinkingHost] {W : Type} [DecidableEq W] {config : LinkingConfig} {start : Db}
  {authentication : RequestAuthentication} {now : ℤ}

/-- What a call of a request of the facade changes. -/
theorem changesOnly_of_valid (hstart : KeyedLinks start) {earlier : List (LinkingEntry W)}
    {e : LinkingEntry W} (hvalid : LinkingValid config earlier e)
    (hearlier : LinkingChronicle config start earlier e.before)
    (hrequest : e.request.authentication = some (authentication, now)) :
    e.after.linkTables = e.before.linkTables ∨ ∃ session,
      Authenticated config authentication now e.past session ∧
        ChangesOnly session.accountReference e.before e.after := by
  have hkeys := keyedLinks_of_chronicle hstart hearlier
  have heffect := linkingEffect_of_valid hvalid hkeys.ids
  have hown : ∀ reference, AuthenticatedFor config e.request e.past reference →
      ChangesOnly reference e.before e.after → ∃ session,
        Authenticated config authentication now e.past session ∧
          ChangesOnly session.accountReference e.before e.after := by
    rintro _ ⟨authentication', now', session, hrequest', hsession, rfl⟩ hchanges
    obtain ⟨rfl, rfl⟩ := Prod.mk.inj (Option.some.inj (hrequest.symm.trans hrequest'))
    exact ⟨session, hsession, hchanges⟩
  have hallowed := hvalid.allowed
  obtain ⟨transaction, hexec, hcommits⟩ := hvalid.commits
  have hread {item : LinkingItem} (hitem : item ∈ e.past)
      (hstored : (item.1.exec config.auth).isSome = true) : item ∈ items e.thread earlier :=
    hvalid.mem_items hitem hstored
  obtain ⟨thread, request, past, call, answer, before, after⟩ := e
  dsimp only at *
  cases call with
  | link command =>
    obtain rfl := Option.some.inj hexec
    cases command with
    | createChallenge input context =>
      obtain ⟨begun, session, count, rfl, -, hsession, haccount, -⟩ := hallowed
      obtain ⟨rfl, rfl⟩ := Prod.mk.inj (Option.some.inj hrequest)
      exact Or.inr ⟨session, hsession, haccount ▸ changesOnly_createChallenge hcommits⟩
    | challengeForPoll reference digest =>
      exact Or.inl (congrArg Db.linkTables (commits_challengeForPoll hcommits).1)
    | completeChallenge input context =>
      obtain ⟨polled, proof, rfl, hproof⟩ := hallowed
      obtain ⟨rfl, rfl⟩ := Prod.mk.inj (Option.some.inj hrequest)
      refine Or.inr ⟨proof.session, hproof.authenticated, ?_⟩
      refine changesOnly_completeChallenge hkeys (fun challenge hchallenge hid => ?_) hcommits
      exact owner_of_shown hstart hearlier (hread hproof.read rfl) hproof.requestId hchallenge hid
    | pollChallenge reference digest polledAt context =>
      exact Or.inr (hown _ hallowed (changesOnly_pollChallenge hkeys hcommits))
    | cancelChallenge reference challengeReference cancelledAt context =>
      exact Or.inr (hown _ hallowed (changesOnly_cancelChallenge hkeys hcommits))
    | unlink reference linkReference unlinkedAt context =>
      exact Or.inr (hown _ hallowed (changesOnly_unlink hkeys hcommits))
    | requireRevalidation identityAddress reason observedAt context =>
      obtain rfl : request = _ := hallowed
      cases hrequest
  | auth call =>
    refine Or.inl ?_
    cases heffect with
    | kept hcall hrows => exact (linkingRows_congr hrows).2.1
    | counted hcount hrows => exact (Prod.mk.inj (Prod.mk.inj hrows).2).1
    | opened hidentities htables hbuckets => exact htables
  | _ => cases hexec

/-- **Isolation**: whatever else runs, a request of the facade adds, changes and removes challenges and
links of the account whose live session it carries, and of no other account. -/
theorem facade_changes_own {s₀ s : LinkingSystem W} (hs₀ : Threads.State.Initial s₀)
    (hkeys : KeyedLinks s₀.store) (hrun : Reach (LinkingSystem.step config) (fun _ _ => True) s₀ s)
    {e : LinkingEntry W} (he : e ∈ s.log)
    (hrequest : e.request.authentication = some (authentication, now)) :
    e.after.linkTables = e.before.linkTables ∨ ∃ session,
      Authenticated config authentication now e.past session ∧
        ChangesOnly session.accountReference e.before e.after := by
  obtain ⟨later, earlier, hlog⟩ := List.append_of_mem he
  have hchronicle := linkingChronicle_of_reach hs₀ hrun
  rw [hlog] at hchronicle
  exact changesOnly_of_valid hkeys hchronicle.at.1 hchronicle.at.2 hrequest

end Runs

namespace LinkingSample

theorem facade_changes_own_linked : ∃ s : LinkingSystem ℕ, s.store.identityLinks = [link] ∧
    ∃ e ∈ s.log, e.after.linkTables = e.before.linkTables ∨ ∃ session,
      Authenticated config request.authentication request.now e.past session ∧
        ChangesOnly session.accountReference e.before e.after := by
  obtain ⟨s, hreach, hlinks, hlength, hrequests⟩ := exists_linked
  obtain ⟨e, he⟩ := List.length_pos_iff_exists_mem.1 (by omega : 0 < s.log.length)
  have hrequest : e.request.authentication = some (request.authentication, request.now) := by
    rw [hrequests e he]
    rfl
  exact ⟨s, hlinks, e, he, facade_changes_own start_initial start_keyed hreach he hrequest⟩

end LinkingSample

end ChecksAndBalances
