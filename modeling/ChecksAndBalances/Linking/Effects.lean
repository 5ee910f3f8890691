import ChecksAndBalances.Linking.System

/-!
# What the link operations write

The challenges and links that a committed operation leaves.  `LinkCommand.effect` says once what an
operation can do; every invariant of a run is derived from it.
-/

namespace ChecksAndBalances

open Lib Lib.Tx VerusLinkRepository

variable {db db' : Db}

/-! ## Statements -/

theorem linkTables_appendAudit {context : CommandContext} {committeeId : Option Uuid}
    {command : String} {target : AuditTarget} {result : AuditResult} {hash : String}
    (h : Commits (appendAudit context committeeId command target result) db hash db') :
    db'.linkTables = db.linkTables :=
  keeps_appendAudit (fun _ _ _ _ => rfl) _ _ _ _ _ _ _ _ h

theorem commits_requireDigest {value field : String} {u : Unit} :
    Commits (requireDigest value field) db u db' ↔ isHex64 value = true ∧ db' = db :=
  commits_require

/-- The selected challenge is stored, and its account owns it. -/
theorem commits_challengeSelect {predicate : WalletChallenge → AuthAccount → Bool}
    {row : WalletChallenge × AuthAccount}
    (h : Commits (challengeSelect predicate) db row db') :
    db' = db ∧ row.1 ∈ db.walletChallenges ∧ row.2 ∈ db.authAccounts ∧
      row.1.authAccountId = some row.2.id ∧ predicate row.1 row.2 = true := by
  unfold challengeSelect at h
  simp only [commits_get_bind, commits_found] at h
  obtain ⟨hrow, rfl⟩ := h
  obtain ⟨wc, hwc, hmem⟩ := List.mem_flatMap.1 (List.mem_of_mem_head? (Option.mem_def.2 hrow))
  obtain ⟨aa, haa, rfl⟩ := List.mem_map.1 hmem
  obtain ⟨haa, htest⟩ := List.mem_filter.1 haa
  simp only [Bool.and_eq_true, decide_eq_true_eq] at htest
  exact ⟨rfl, hwc, haa, htest.1, htest.2⟩

theorem commits_updateChallenge {id : Uuid} {f : WalletChallenge → WalletChallenge} {u : Unit}
    (h : Commits (updateChallenge id f) db u db') :
    db' = { db with
      walletChallenges := Table.set (fun w => w.id = id) f db.walletChallenges } := by
  unfold updateChallenge at h
  simp only [commits_get_bind, commits_lift_bind, commits_modify] at h
  obtain ⟨rows, hrows, rfl⟩ := h
  rw [(Table.update_eq_ok_iff.1 hrows).2]

theorem commits_updateLink {id : Uuid} {f : VerusIdentityLink → VerusIdentityLink} {u : Unit}
    (h : Commits (updateLink id f) db u db') :
    db' = { db with identityLinks := Table.set (fun l => l.id = id) f db.identityLinks } := by
  unfold updateLink at h
  simp only [commits_get_bind, commits_lift_bind, commits_modify] at h
  obtain ⟨rows, hrows, rfl⟩ := h
  rw [(Table.update_eq_ok_iff.1 hrows).2]

theorem commits_expireChallenge {challenge : WalletChallenge} {context : CommandContext} {u : Unit}
    (h : Commits (expireChallenge challenge context) db u db') :
    db'.linkTables =
      (Table.set (fun w => w.id = challenge.id) (closedRow .expired none) db.walletChallenges,
        db.identityLinks) := by
  unfold expireChallenge at h
  obtain ⟨_, db₁, hupdate, h⟩ := commits_bind.1 h
  obtain ⟨_, db₂, haudit, h⟩ := commits_bind.1 h
  obtain ⟨-, rfl⟩ := commits_pure.1 h
  rw [linkTables_appendAudit haudit, commits_updateChallenge hupdate]
  rfl

theorem keeps_linkForAccountAndIdentity {τ : Type} {f : Db → τ} (accountId : Uuid)
    (identityAddress : String) : Keeps f (linkForAccountAndIdentity accountId identityAddress) :=
  keeps_get.bind fun _ => keeps_found.bind fun _ => keeps_pure

theorem keeps_linkParticipant {τ : Type} {f : Db → τ} (challenge : WalletChallenge) :
    Keeps f (linkParticipant challenge) := by
  refine keeps_get.bind fun db => ?_
  dsimp only
  split_ifs
  · exact (keeps_get.bind fun _ => keeps_found.bind fun _ => keeps_pure).bind fun _ => keeps_pure
  · exact keeps_pure

/-- A new link: active, of its account and identity, under an unused identifier and reference. -/
structure NewLink (links : List VerusIdentityLink) (accountId : Uuid)
    (input : CompleteWalletLinkChallengeInput) (linkReference : String)
    (link : VerusIdentityLink) : Prop where
  reference : link.externalReference = linkReference
  owner : isLinkOf accountId input.identityAddress link = true
  state : link.state = .active
  id : ∀ l ∈ links, l.id ≠ link.id
  unused : ∀ l ∈ links, l.externalReference ≠ linkReference
  unlinked : ∀ l ∈ links, isLinkOf accountId input.identityAddress l = false

theorem commits_insertLink {id accountId : Uuid} {linkReference : String}
    {input : CompleteWalletLinkChallengeInput} {challenge : WalletChallenge} {u : Unit}
    (h : Commits (insertLink id accountId linkReference input challenge) db u db') :
    ∃ link, NewLink db.identityLinks accountId input linkReference link ∧
      db'.linkTables = (db.walletChallenges, db.identityLinks ++ [link]) := by
  unfold insertLink at h
  obtain ⟨participant, db₁, hparticipant, hinsert⟩ := commits_bind.1 h
  obtain rfl : db₁ = db := keeps_linkParticipant (f := fun db => db) _ _ _ _ hparticipant
  unfold requireUnique at hinsert
  simp only [commits_lift_bind, commits_get_bind, commits_require_bind, commits_modify] at hinsert
  obtain ⟨_, -, hid, hreference, hlink, rfl⟩ := hinsert
  refine ⟨_, ⟨rfl, ?_, rfl, ?_, ?_, ?_⟩, rfl⟩
  · simp [isLinkOf]
  · simpa using hid
  · simpa using hreference
  · simpa using hlink

/-- The links that a first completion leaves: one link of the account and the identity is active, and
its row is new or stood there before. -/
inductive Activated (links : List VerusIdentityLink) (accountId : Uuid)
    (input : CompleteWalletLinkChallengeInput) (linkReference : String) :
    List VerusIdentityLink → Prop where
  | inserted (link : VerusIdentityLink) (h : NewLink links accountId input linkReference link) :
    Activated links accountId input linkReference (links ++ [link])
  | renewed (link : VerusIdentityLink) (challenge : WalletChallenge) (hlink : link ∈ links)
      (howner : isLinkOf accountId input.identityAddress link = true)
      (hreference : link.externalReference = linkReference) :
    Activated links accountId input linkReference
      (Table.set (fun l => l.id = link.id) (revalidated input challenge) links)

theorem commits_activateLink {accountId : Uuid} {input : CompleteWalletLinkChallengeInput}
    {challenge : WalletChallenge} {result : String × Option IdentityLinkState}
    (h : Commits (activateLink accountId input challenge) db result db') :
    db'.walletChallenges = db.walletChallenges ∧
      Activated db.identityLinks accountId input result.1 db'.identityLinks := by
  unfold activateLink at h
  rw [commits_get_bind] at h
  split at h
  · next link hlink =>
    obtain ⟨hmem, howner⟩ := Table.mem_of_find? hlink
    obtain ⟨_, db₁, hupdate, h⟩ := commits_bind.1 h
    obtain ⟨rfl, rfl⟩ := commits_pure.1 h
    rw [commits_updateLink hupdate]
    exact ⟨rfl, .renewed link challenge hmem howner rfl⟩
  · obtain ⟨linkId, db₁, hid, h⟩ := commits_bind.1 h
    obtain ⟨suffix, db₂, hsuffix, h⟩ := commits_bind.1 h
    obtain ⟨_, db₃, hinsert, h⟩ := commits_bind.1 h
    obtain ⟨rfl, rfl⟩ := commits_pure.1 h
    obtain ⟨rfl, rfl⟩ := commits_newId.1 hid
    obtain ⟨rfl, rfl⟩ := commits_newId.1 hsuffix
    obtain ⟨link, hnew, htables⟩ := commits_insertLink hinsert
    simp only [Db.linkTables, Prod.mk.injEq] at htables
    refine ⟨htables.1, ?_⟩
    rw [htables.2]
    exact .inserted link hnew

/-! ## Revalidation -/

theorem commits_suspendLink {reason : RevalidationReason} {observedAt : ℤ}
    {context : CommandContext} {link : VerusIdentityLink} {u : Unit}
    (h : Commits (suspendLink reason observedAt context link) db u db') :
    db'.linkTables = (db.walletChallenges,
      Table.set (fun l => l.id = link.id) (suspendedRow reason observedAt) db.identityLinks) := by
  unfold suspendLink at h
  obtain ⟨_, db₁, hupdate, h⟩ := commits_bind.1 h
  obtain ⟨_, db₂, haudit, h⟩ := commits_bind.1 h
  obtain ⟨-, rfl⟩ := commits_pure.1 h
  rw [linkTables_appendAudit haudit, commits_updateLink hupdate]
  rfl

/-- The loop over links with different identifiers suspends each of them. -/
theorem commits_suspendLinks {reason : RevalidationReason} {observedAt : ℤ}
    {context : CommandContext} {links : List VerusIdentityLink} {u : Unit}
    (hids : (links.map VerusIdentityLink.id).Nodup)
    (h : Commits (links.forM (suspendLink reason observedAt context)) db u db') :
    db'.linkTables = (db.walletChallenges,
      Table.set (fun l => l.id ∈ links.map VerusIdentityLink.id) (suspendedRow reason observedAt)
        db.identityLinks) := by
  induction links generalizing db with
  | nil =>
    obtain ⟨-, rfl⟩ := commits_pure.1 h
    simp [Db.linkTables, Table.set]
  | cons link rest ih =>
    obtain ⟨_, db₁, hlink, hrest⟩ := commits_bind.1
      (show Commits (suspendLink reason observedAt context link >>= fun _ =>
        rest.forM (suspendLink reason observedAt context)) db u db' from h)
    rw [List.map_cons, List.nodup_cons] at hids
    have hfirst := commits_suspendLink hlink
    simp only [Db.linkTables, Prod.mk.injEq] at hfirst
    rw [ih hids.2 hrest, hfirst.1, hfirst.2]
    simp only [Prod.mk.injEq, true_and, Table.set, List.map_map, List.map_cons]
    refine List.map_congr_left fun l _ => ?_
    by_cases hid : l.id = link.id
    · have hnot : link.id ∉ rest.map VerusIdentityLink.id := hids.1
      simp [hid, suspendedRow, List.mem_map] at hnot ⊢
      simpa using hnot
    · simp [hid]

/-! ## Operations -/

/-- What a committed operation leaves of the challenges and the links. -/
inductive LinkEffect (db : Db) : (command : LinkCommand) → command.Result → Db → Prop where
  /-- Nothing changes, and no link is reported. -/
  | kept {command : LinkCommand} {result : command.Result} {db' : Db}
      (hcommand : ∀ input context, command ≠ .completeChallenge input context)
      (hquiet : command.reported result = none)
      (hmoved : ∀ reference, command.movedAt db reference = none)
      (htables : db'.linkTables = db.linkTables) : LinkEffect db command result db'
  /-- A challenge of an account is presented. -/
  | created {input : CreateWalletLinkChallengeInput} {context : CommandContext}
      {record : WalletLinkChallengeRecord} {db' : Db} (challenge : WalletChallenge)
      (account : AuthAccount) (haccount : account ∈ db.authAccounts)
      (hreference : account.externalReference = input.accountReference)
      (howner : challenge.authAccountId = some account.id)
      (hpresented : challenge.state = .presented)
      (hissued : challenge.issuedAt = some input.issuedAt)
      (hfresh : ∀ w ∈ db.walletChallenges,
        w.id ≠ challenge.id ∧ w.requestId ≠ challenge.requestId)
      (htables : db'.linkTables = (db.walletChallenges ++ [challenge], db.identityLinks)) :
      LinkEffect db (.createChallenge input context) record db'
  /-- A presented challenge ends without a link. -/
  | closed {command : LinkCommand} {result : command.Result} {db' : Db}
      (challenge : WalletChallenge) (state : WalletChallengeState) (reason : Option String)
      (hrequest : ∀ input context, command = .completeChallenge input context →
        challenge.requestId = some input.requestId ∧ challenge.expiresAt ≤ input.completedAt)
      (hquiet : command.reported result = none)
      (hmoved : ∀ reference, command.movedAt db reference = none)
      (hchallenge : challenge ∈ db.walletChallenges) (hpresented : challenge.state = .presented)
      (hstate : state = .expired ∨ state = .cancelled)
      (htables : db'.linkTables =
        (Table.set (fun w => w.id = challenge.id) (closedRow state reason) db.walletChallenges,
          db.identityLinks)) : LinkEffect db command result db'
  /-- A presented challenge is consumed before its expiry, and its account gets the link. -/
  | completed {input : CompleteWalletLinkChallengeInput} {context : CommandContext}
      {link : CompletedWalletLink} {db' : Db} (challenge : WalletChallenge) (accountId : Uuid)
      (hfirst : link.replayed = false) (hchallenge : challenge ∈ db.walletChallenges)
      (hpresented : challenge.state = .presented)
      (hrequest : challenge.requestId = some input.requestId)
      (howner : challenge.authAccountId = some accountId)
      (hopen : input.completedAt < challenge.expiresAt)
      (hchallenges : db'.walletChallenges =
        Table.set (fun w => w.id = challenge.id) (consumedRow input) db.walletChallenges)
      (hlinks : Activated db.identityLinks accountId input link.linkReference db'.identityLinks) :
      LinkEffect db (.completeChallenge input context) (WalletLinkCompletion.completed link) db'
  /-- The completion of a consumed challenge is replayed, and a stored link is reported. -/
  | replayed {input : CompleteWalletLinkChallengeInput} {context : CommandContext}
      {link : CompletedWalletLink} {db' : Db} (challenge : WalletChallenge) (accountId : Uuid)
      (row : VerusIdentityLink) (hreplayed : link.replayed = true) (hstate : link.state = .active)
      (hchallenge : challenge ∈ db.walletChallenges) (hconsumed : challenge.state = .consumed)
      (hrequest : challenge.requestId = some input.requestId)
      (howner : challenge.authAccountId = some accountId) (hrow : row ∈ db.identityLinks)
      (hlink : isLinkOf accountId input.identityAddress row = true)
      (hreference : row.externalReference = link.linkReference)
      (htables : db'.linkTables = db.linkTables) :
      LinkEffect db (.completeChallenge input context) (WalletLinkCompletion.completed link) db'
  /-- A link is unlinked. -/
  | unlinked {accountReference linkReference : String} {unlinkedAt : ℤ} {context : CommandContext}
      {u : Unit} {db' : Db} (link : VerusIdentityLink) (hlink : link ∈ db.identityLinks)
      (hreference : link.externalReference = linkReference)
      (htables : db'.linkTables = (db.walletChallenges,
        Table.set (fun l => l.id = link.id) (unlinkedRow unlinkedAt) db.identityLinks)) :
      LinkEffect db (.unlink accountReference linkReference unlinkedAt context) u db'
  /-- The active links of an identity require revalidation. -/
  | suspended {identityAddress : String} {reason : RevalidationReason} {observedAt : ℤ}
      {context : CommandContext} {count : ℕ} {db' : Db}
      (htables : db'.linkTables = (db.walletChallenges,
        Table.set (fun l => l.identityAddress = identityAddress && l.state = .active)
          (suspendedRow reason observedAt) db.identityLinks)) :
      LinkEffect db (.requireRevalidation identityAddress reason observedAt context) count db'

theorem effect_createChallenge {input : CreateWalletLinkChallengeInput} {context : CommandContext}
    {record : WalletLinkChallengeRecord}
    (h : Commits (VerusLinkRepository.createChallenge input context) db record db') :
    LinkEffect db (.createChallenge input context) record db' := by
  unfold VerusLinkRepository.createChallenge VerusLinkRepository.account at h
  unfold requireOpaqueReference requireDigest at h
  simp only [commits_require_bind] at h
  obtain ⟨-, -, -, -, -, -, -, h⟩ := h
  obtain ⟨account, db₀, haccount, hinsert⟩ := commits_bind.1 h
  simp only [commits_get_bind, commits_found_bind, commits_require_bind, commits_pure] at haccount
  obtain ⟨_, hfound, -, rfl, rfl⟩ := haccount
  obtain ⟨id, db₁, hdrawn, hinsert⟩ := commits_bind.1 hinsert
  obtain ⟨rfl, rfl⟩ := commits_newId.1 hdrawn
  unfold requireUnique at hinsert
  simp only [commits_lift_bind, commits_get_bind, commits_require_bind,
    commits_modify_bind] at hinsert
  obtain ⟨_, -, hid, -, -, hrequest, -, hinsert⟩ := hinsert
  obtain ⟨_, db₂, haudit, hinsert⟩ := commits_bind.1 hinsert
  obtain ⟨row, db₃, hselect, hrecord⟩ := commits_bind.1 hinsert
  obtain ⟨rfl, -⟩ := commits_challengeSelect hselect
  simp only [commits_get_bind, commits_pure] at hrecord
  obtain ⟨-, rfl⟩ := hrecord
  obtain ⟨haccount, htest⟩ := Table.mem_of_find? hfound
  simp only [Bool.and_eq_true, decide_eq_true_eq] at htest
  refine .created (presentedChallenge db₀.nextId account input) account haccount htest.1.1 rfl rfl
    rfl ?_ ?_
  · simp only [List.all_eq_true, Bool.not_eq_true', decide_eq_false_iff_not] at hid hrequest
    exact fun w hw => ⟨hid w hw, hrequest w hw⟩
  · rw [linkTables_appendAudit haudit]
    rfl

theorem effect_challengeForPoll {accountReference pollingTokenDigest : String}
    {record : WalletLinkChallengeRecord}
    (h : Commits (VerusLinkRepository.challengeForPoll accountReference pollingTokenDigest) db record
      db') :
    LinkEffect db (.challengeForPoll accountReference pollingTokenDigest) record db' := by
  unfold VerusLinkRepository.challengeForPoll requireOpaqueReference requireDigest at h
  simp only [commits_require_bind] at h
  obtain ⟨-, -, h⟩ := h
  obtain ⟨row, db₁, hselect, hrest⟩ := commits_bind.1 h
  simp only [commits_get_bind, commits_pure] at hrest
  refine .kept (by rintro _ _ ⟨⟩) rfl (fun _ => rfl) ?_
  rw [hrest.2, (commits_challengeSelect hselect).1]

theorem effect_completeChallenge {input : CompleteWalletLinkChallengeInput}
    {context : CommandContext} {result : WalletLinkCompletion}
    (h : Commits (VerusLinkRepository.completeChallenge input context) db result db') :
    LinkEffect db (.completeChallenge input context) result db' := by
  unfold VerusLinkRepository.completeChallenge requireDigest at h
  simp only [commits_require_bind] at h
  obtain ⟨-, -, -, h⟩ := h
  obtain ⟨⟨challenge, owner⟩, db₁, hselect, hrest⟩ := commits_bind.1 h
  obtain ⟨rfl, hmem, -, howner, hrequest⟩ := commits_challengeSelect hselect
  simp only [decide_eq_true_eq] at hrequest
  dsimp only at hrest
  split at hrest
  · next hconsumed =>
    rw [commits_require_bind] at hrest
    obtain ⟨-, hreplay⟩ := hrest
    obtain ⟨reference, db₂, hlink, hpure⟩ := commits_bind.1 hreplay
    obtain ⟨rfl, rfl⟩ := commits_pure.1 hpure
    unfold linkForAccountAndIdentity at hlink
    simp only [commits_get_bind, commits_found_bind, commits_pure] at hlink
    obtain ⟨row, hrow, rfl, rfl⟩ := hlink
    obtain ⟨hmem_row, hlink⟩ := Table.mem_of_find? hrow
    exact .replayed challenge owner.id row rfl rfl hmem hconsumed hrequest howner hmem_row hlink
      rfl rfl
  · rw [commits_require_bind] at hrest
    obtain ⟨hpresented, hrest⟩ := hrest
    split at hrest
    · next hexpired =>
      obtain ⟨_, db₂, hexpire, hpure⟩ := commits_bind.1 hrest
      obtain ⟨rfl, rfl⟩ := commits_pure.1 hpure
      refine .closed challenge .expired none ?_ rfl (fun _ => rfl) hmem hpresented (Or.inl rfl)
        (commits_expireChallenge hexpire)
      rintro _ _ ⟨⟩
      exact ⟨hrequest, hexpired⟩
    · next hopen =>
      unfold VerusLinkRepository.consumeChallenge at hrest
      obtain ⟨⟨reference, prior⟩, db₂, hactivate, hrest⟩ := commits_bind.1 hrest
      obtain ⟨_, db₃, hupdate, hrest⟩ := commits_bind.1 hrest
      obtain ⟨_, db₄, haudit, hrest⟩ := commits_bind.1 hrest
      obtain ⟨_, db₅, haudit', hrest⟩ := commits_bind.1 hrest
      obtain ⟨rfl, rfl⟩ := commits_pure.1 hrest
      obtain ⟨hchallenges, hlinks⟩ := commits_activateLink hactivate
      have htables : db'.linkTables =
          (Table.set (fun w => w.id = challenge.id) (consumedRow input) db₁.walletChallenges,
            db₂.identityLinks) := by
        rw [linkTables_appendAudit haudit', linkTables_appendAudit haudit,
          commits_updateChallenge hupdate, ← hchallenges]
        rfl
      simp only [Db.linkTables, Prod.mk.injEq] at htables
      refine .completed challenge owner.id rfl hmem hpresented hrequest howner
        (not_le.1 hopen) htables.1 ?_
      rw [htables.2]
      exact hlinks

theorem effect_pollChallenge {accountReference pollingTokenDigest : String} {now : ℤ}
    {context : CommandContext} {result : WalletLinkPollResult}
    (h : Commits (VerusLinkRepository.pollChallenge accountReference pollingTokenDigest now context)
      db result db') :
    LinkEffect db (.pollChallenge accountReference pollingTokenDigest now context) result db' := by
  unfold VerusLinkRepository.pollChallenge requireOpaqueReference requireDigest at h
  simp only [commits_require_bind] at h
  obtain ⟨-, -, h⟩ := h
  obtain ⟨⟨challenge, owner⟩, db₁, hselect, hrest⟩ := commits_bind.1 h
  obtain ⟨rfl, hmem, -⟩ := commits_challengeSelect hselect
  dsimp only at hrest
  split at hrest
  · next hexpired =>
    obtain ⟨_, db₂, hexpire, hpure⟩ := commits_bind.1 hrest
    obtain ⟨rfl, rfl⟩ := commits_pure.1 hpure
    exact .closed challenge .expired none (by rintro _ _ ⟨⟩) rfl (fun _ => rfl) hmem hexpired.1
      (Or.inl rfl) (commits_expireChallenge hexpire)
  · have hkept : db' = db₁ := by
      split at hrest
      · exact (keeps_linkForAccountAndIdentity (f := fun db => db) _ _).bind
          (fun _ => keeps_pure) _ _ _ hrest
      · exact (commits_pure.1 hrest).2
    exact .kept (by rintro _ _ ⟨⟩) rfl (fun _ => rfl) (by rw [hkept])

theorem effect_cancelChallenge {accountReference challengeReference : String} {cancelledAt : ℤ}
    {context : CommandContext} {u : Unit}
    (h : Commits (VerusLinkRepository.cancelChallenge accountReference challengeReference
      cancelledAt context) db u db') :
    LinkEffect db (.cancelChallenge accountReference challengeReference cancelledAt context) u
      db' := by
  unfold VerusLinkRepository.cancelChallenge requireOpaqueReference at h
  simp only [commits_require_bind] at h
  obtain ⟨-, -, h⟩ := h
  obtain ⟨⟨challenge, owner⟩, db₁, hselect, hrest⟩ := commits_bind.1 h
  obtain ⟨rfl, hmem, -⟩ := commits_challengeSelect hselect
  dsimp only at hrest
  split at hrest
  · obtain ⟨-, rfl⟩ := commits_pure.1 hrest
    exact .kept (by rintro _ _ ⟨⟩) rfl (fun _ => rfl) rfl
  · rw [commits_require_bind] at hrest
    obtain ⟨hpresented, hrest⟩ := hrest
    split at hrest
    · exact .closed challenge .expired none (by rintro _ _ ⟨⟩) rfl (fun _ => rfl) hmem hpresented
        (Or.inl rfl) (commits_expireChallenge hrest)
    · obtain ⟨_, db₂, hupdate, hrest⟩ := commits_bind.1 hrest
      obtain ⟨_, db₃, haudit, hpure⟩ := commits_bind.1 hrest
      obtain ⟨-, rfl⟩ := commits_pure.1 hpure
      refine .closed challenge .cancelled (some "user_cancelled") (by rintro _ _ ⟨⟩) rfl
        (fun _ => rfl) hmem hpresented (Or.inr rfl) ?_
      rw [linkTables_appendAudit haudit, commits_updateChallenge hupdate]
      rfl

theorem effect_unlink {accountReference linkReference : String} {unlinkedAt : ℤ}
    {context : CommandContext} {u : Unit}
    (h : Commits (VerusLinkRepository.unlink accountReference linkReference unlinkedAt context)
      db u db') :
    LinkEffect db (.unlink accountReference linkReference unlinkedAt context) u db' := by
  unfold VerusLinkRepository.unlink requireOpaqueReference at h
  simp only [commits_require_bind, commits_get_bind, commits_found_bind] at h
  obtain ⟨-, -, link, hfound, -, h⟩ := h
  obtain ⟨_, db₁, hupdate, hrest⟩ := commits_bind.1 h
  obtain ⟨_, db₂, haudit, hpure⟩ := commits_bind.1 hrest
  obtain ⟨-, rfl⟩ := commits_pure.1 hpure
  obtain ⟨hmem, htest⟩ := Table.mem_of_find? hfound
  simp only [Bool.and_eq_true, decide_eq_true_eq] at htest
  refine .unlinked link hmem htest.1 ?_
  rw [linkTables_appendAudit haudit, commits_updateLink hupdate]
  rfl

theorem effect_requireRevalidation {identityAddress : String} {reason : RevalidationReason}
    {observedAt : ℤ} {context : CommandContext} {count : ℕ}
    (hids : (db.identityLinks.map VerusIdentityLink.id).Nodup)
    (h : Commits (VerusLinkRepository.requireRevalidation identityAddress reason observedAt context)
      db count db') :
    LinkEffect db (.requireRevalidation identityAddress reason observedAt context) count db' := by
  unfold VerusLinkRepository.requireRevalidation at h
  rw [commits_get_bind] at h
  obtain ⟨_, db₁, hloop, hpure⟩ := commits_bind.1 h
  obtain ⟨-, rfl⟩ := commits_pure.1 hpure
  have hsub := (List.filter_sublist (p := fun l : VerusIdentityLink =>
    l.identityAddress = identityAddress && l.state = .active) (l := db.identityLinks)).map
      VerusIdentityLink.id
  refine .suspended ?_
  rw [commits_suspendLinks (hids.sublist hsub) hloop]
  congr 1
  refine Table.set_congr fun l hl => ?_
  rw [Bool.eq_iff_iff, decide_eq_true_eq]
  exact (Table.unique_of_nodup hids).mem_map_filter_iff hl

/-- What a committed operation leaves. -/
theorem LinkCommand.effect {command : LinkCommand} {result : command.Result}
    (hids : (db.identityLinks.map VerusIdentityLink.id).Nodup)
    (h : Commits command.exec db result db') : LinkEffect db command result db' := by
  cases command with
  | createChallenge input context => exact effect_createChallenge h
  | challengeForPoll accountReference pollingTokenDigest => exact effect_challengeForPoll h
  | completeChallenge input context => exact effect_completeChallenge h
  | pollChallenge accountReference pollingTokenDigest now context => exact effect_pollChallenge h
  | cancelChallenge accountReference challengeReference cancelledAt context =>
    exact effect_cancelChallenge h
  | unlink accountReference linkReference unlinkedAt context => exact effect_unlink h
  | requireRevalidation identityAddress reason observedAt context =>
    exact effect_requireRevalidation hids h

end ChecksAndBalances
