import ChecksAndBalances.Auth.Challenges
import ChecksAndBalances.Linking.Challenges
import ChecksAndBalances.Linking.Contract

/-!
# The system of the linking service

Requests of the facade run over one database with everything else that writes links, counts attempts
or opens accounts; whatever else happens leaves these alone.  `LinkingEffect` says once what a
committed call leaves of them.
-/

namespace ChecksAndBalances

open Lib Lib.Tx Threads VerusLinkRepository

/-! ## The system -/

/-- What linking depends on in the database: the accounts, the challenges and links, the attempts. -/
def Db.linkingRows (db : Db) :
    List (Uuid × String × TrustDomain) × (List WalletChallenge × List VerusIdentityLink) ×
      List AuthRateLimitBucket :=
  (db.identities, db.linkTables, db.authRateLimitBuckets)

/-- A committed store call. -/
abbrev LinkingEntry (W : Type) := Threads.Entry Db W LinkingRequest LinkingCall.Answer

/-- The database, the running requests and the committed store calls. -/
abbrev LinkingSystem (W : Type) := Threads.State Db W LinkingRequest.Result LinkingCall.Answer

/-- What can happen next. -/
abbrev LinkingAct (W : Type) := Threads.Act Db W LinkingRequest LinkingCall.Answer

/-- One step of the system. -/
def LinkingSystem.step [LinkingHost] {W : Type} [DecidableEq W] (config : LinkingConfig)
    (s : LinkingSystem W) : LinkingAct W → Option (LinkingSystem W) :=
  Threads.State.step (LinkingRequest.program config) (LinkingCall.exec config.auth) Db.linkingRows s

/-! ## What a call leaves -/

variable {db db' : Db}

/-- What a committed call leaves of the accounts, the challenges and links, and the attempts. -/
inductive LinkingEffect (db : Db) : (call : LinkingCall) → call.Answer → Db → Prop where
  | kept {call : LinkingCall} {answer : call.Answer} {db' : Db} (hcall : call.OfSession)
      (hrows : db'.linkingRows = db.linkingRows) : LinkingEffect db call answer db'
  | counted {input : IncrementInput} {count : ℕ} {db' : Db}
      (hcount : count = attempts input.keyDigest db.authRateLimitBuckets + 1)
      (hrows : db'.linkingRows =
        (db.identities, db.linkTables, counted input db.authRateLimitBuckets)) :
      LinkingEffect db (.auth (.email (.store (.increment input)))) count db'
  | opened {input : CreateAuthAccountInput} {u : Unit} {db' : Db}
      (hidentities : db.identities ⊆ db'.identities) (htables : db'.linkTables = db.linkTables)
      (hbuckets : db'.authRateLimitBuckets = db.authRateLimitBuckets) :
      LinkingEffect db (.auth (.account (.createAccount input))) u db'
  | linked {command : LinkCommand} {result : command.Result} {db' : Db}
      (heffect : LinkEffect db command result db') (hidentities : db'.identities = db.identities)
      (hbuckets : db'.authRateLimitBuckets = db.authRateLimitBuckets) :
      LinkingEffect db (.link command) result db'

/-! ### The operations on links -/

/-- What linking depends on besides challenges and links. -/
def Db.besideLinks (db : Db) : List (Uuid × String × TrustDomain) × List AuthRateLimitBucket :=
  (db.identities, db.authRateLimitBuckets)

theorem besideLinks_audit (context : CommandContext) (committeeId : Option Uuid) (command : String)
    (target : AuditTarget) (result : AuditResult) :
    Keeps Db.besideLinks (appendAudit context committeeId command target result) :=
  keeps_appendAudit (fun _ _ _ _ => rfl) _ _ _ _ _

theorem besideLinks_updateChallenge (id : Uuid) (f : WalletChallenge → WalletChallenge) :
    Keeps Db.besideLinks (updateChallenge id f) :=
  keeps_get.bind fun _ => keeps_lift.bind fun _ => keeps_modify fun _ => rfl

theorem besideLinks_updateLink (id : Uuid) (f : VerusIdentityLink → VerusIdentityLink) :
    Keeps Db.besideLinks (updateLink id f) :=
  keeps_get.bind fun _ => keeps_lift.bind fun _ => keeps_modify fun _ => rfl

theorem besideLinks_expireChallenge (challenge : WalletChallenge) (context : CommandContext) :
    Keeps Db.besideLinks (expireChallenge challenge context) :=
  (besideLinks_updateChallenge _ _).bind fun _ => (besideLinks_audit _ _ _ _ _).bind fun _ =>
    keeps_pure

theorem besideLinks_activateLink (accountId : Uuid) (input : CompleteWalletLinkChallengeInput)
    (challenge : WalletChallenge) : Keeps Db.besideLinks (activateLink accountId input challenge) := by
  refine keeps_get.bind fun db => ?_
  split
  · exact (besideLinks_updateLink _ _).bind fun _ => keeps_pure
  · refine (keeps_newId fun _ _ => rfl).bind fun _ => (keeps_newId fun _ _ => rfl).bind fun _ => ?_
    refine Keeps.bind (Keeps.bind (keeps_linkParticipant _) fun _ => ?_) fun _ => keeps_pure
    refine keeps_lift.bind fun _ => keeps_get.bind fun _ => keeps_require.bind fun _ => ?_
    exact keeps_require.bind fun _ => keeps_require.bind fun _ => keeps_modify fun _ => rfl

theorem keeps_challengeSelect {τ : Type} {f : Db → τ}
    (predicate : WalletChallenge → AuthAccount → Bool) : Keeps f (challengeSelect predicate) :=
  keeps_get.bind fun _ => keeps_found

theorem besideLinks_exec (command : LinkCommand) : Keeps Db.besideLinks command.exec := by
  cases command with
  | createChallenge input context =>
    refine keeps_require.bind fun _ => keeps_require.bind fun _ => keeps_require.bind fun _ => ?_
    refine keeps_require.bind fun _ => keeps_require.bind fun _ => keeps_require.bind fun _ => ?_
    refine keeps_require.bind fun _ => Keeps.bind ?_ fun account => ?_
    · exact keeps_get.bind fun _ => keeps_found.bind fun _ => keeps_require.bind fun _ => keeps_pure
    · refine (keeps_newId fun _ _ => rfl).bind fun _ => keeps_lift.bind fun _ => ?_
      refine keeps_get.bind fun _ => keeps_require.bind fun _ => keeps_require.bind fun _ => ?_
      refine keeps_require.bind fun _ => keeps_require.bind fun _ => keeps_require.bind fun _ => ?_
      refine Keeps.bind ?_ fun _ => (besideLinks_audit _ _ _ _ _).bind fun _ => ?_
      · exact keeps_modify fun _ => rfl
      · exact (keeps_challengeSelect _).bind fun _ => keeps_get.bind fun _ => keeps_pure
  | challengeForPoll accountReference pollingTokenDigest =>
    refine keeps_require.bind fun _ => keeps_require.bind fun _ => ?_
    exact (keeps_challengeSelect _).bind fun _ => keeps_get.bind fun _ => keeps_pure
  | completeChallenge input context =>
    refine keeps_require.bind fun _ => keeps_require.bind fun _ => keeps_require.bind fun _ => ?_
    refine (keeps_challengeSelect _).bind fun row => ?_
    dsimp only
    split
    · exact keeps_require.bind fun _ => (keeps_linkForAccountAndIdentity _ _).bind fun _ => keeps_pure
    · refine keeps_require.bind fun _ => ?_
      split
      · exact (besideLinks_expireChallenge _ _).bind fun _ => keeps_pure
      · refine (besideLinks_activateLink _ _ _).bind fun _ => ?_
        refine (besideLinks_updateChallenge _ _).bind fun _ => ?_
        refine (besideLinks_audit _ _ _ _ _).bind fun _ => ?_
        exact (besideLinks_audit _ _ _ _ _).bind fun _ => keeps_pure
  | pollChallenge accountReference pollingTokenDigest now context =>
    refine keeps_require.bind fun _ => keeps_require.bind fun _ => ?_
    refine (keeps_challengeSelect _).bind fun row => ?_
    dsimp only
    split
    · exact (besideLinks_expireChallenge _ _).bind fun _ => keeps_pure
    · split
      · exact (keeps_linkForAccountAndIdentity _ _).bind fun _ => keeps_pure
      · exact keeps_pure
  | cancelChallenge accountReference challengeReference cancelledAt context =>
    refine keeps_require.bind fun _ => keeps_require.bind fun _ => ?_
    refine (keeps_challengeSelect _).bind fun row => ?_
    dsimp only
    split
    · exact keeps_pure
    · refine keeps_require.bind fun _ => ?_
      split
      · exact besideLinks_expireChallenge _ _
      · refine (besideLinks_updateChallenge _ _).bind fun _ => ?_
        exact (besideLinks_audit _ _ _ _ _).bind fun _ => keeps_pure
  | unlink accountReference linkReference unlinkedAt context =>
    refine keeps_require.bind fun _ => keeps_require.bind fun _ => keeps_get.bind fun _ => ?_
    refine keeps_found.bind fun _ => keeps_require.bind fun _ => ?_
    refine (besideLinks_updateLink _ _).bind fun _ => ?_
    exact (besideLinks_audit _ _ _ _ _).bind fun _ => keeps_pure
  | requireRevalidation identityAddress reason observedAt context =>
    refine keeps_get.bind fun _ => Keeps.bind ?_ fun _ => keeps_pure
    generalize List.filter _ _ = links
    induction links with
    | nil => exact keeps_pure
    | cons link rest ih =>
      refine Keeps.bind ?_ fun _ => ih
      refine (besideLinks_updateLink _ _).bind fun _ => ?_
      exact (besideLinks_audit _ _ _ _ _).bind fun _ => keeps_pure

/-! ### Sessions, attempts and accounts -/

theorem linkingRows_updateSessions (selected : AuthSession → Bool) (f : AuthSession → AuthSession) :
    Keeps Db.linkingRows (AuthRepository.updateSessions selected f) :=
  keeps_get.bind fun _ => keeps_lift.bind fun _ => keeps_modify fun _ => rfl

theorem linkingRows_session (sessionKeyVersions : TrustDomain → String) (call : SessionStoreCall) :
    Keeps Db.linkingRows (call.exec sessionKeyVersions) := by
  cases call with
  | create record =>
    refine Keeps.bind (keeps_get.bind fun _ => keeps_found) fun _ => keeps_require.bind fun _ => ?_
    refine keeps_get.bind fun _ => keeps_lift.bind fun _ => keeps_require.bind fun _ => ?_
    exact keeps_require.bind fun _ => keeps_modify fun _ => rfl
  | findByTokenDigest trustDomain tokenDigest => exact keeps_get.bind fun _ => keeps_pure
  | revoke sessionId reasonCategory atTime => exact linkingRows_updateSessions _ _
  | revokeAll accountReference trustDomain reasonCategory atTime =>
    exact keeps_get.bind fun _ => (linkingRows_updateSessions _ _).bind fun _ => keeps_pure
  | touch sessionId idleExpiresAt atTime => exact linkingRows_updateSessions _ _

theorem linkingEffect_increment {input : IncrementInput} {count : ℕ}
    (h : Commits (AuthRepository.increment input) db count db') :
    LinkingEffect db (.auth (.email (.store (.increment input)))) count db' := by
  unfold AuthRepository.increment at h
  rw [commits_get_bind] at h
  split at h
  · next bucket hfind =>
    rw [commits_modify_bind, commits_pure] at h
    obtain ⟨rfl, rfl⟩ := h
    refine .counted ?_ ?_
    · rw [attempts, hfind]
    · rw [counted, hfind]
      rfl
  · next hfind =>
    rw [commits_require_bind, commits_modify_bind, commits_pure] at h
    obtain ⟨-, rfl, rfl⟩ := h
    refine .counted ?_ ?_
    · rw [attempts, hfind]
    · rw [counted, hfind]
      rfl

theorem linkingEffect_createAccount {input : CreateAuthAccountInput} {u : Unit}
    (h : Commits (AuthRepository.createAccount input) db u db') :
    LinkingEffect db (.auth (.account (.createAccount input))) u db' := by
  have hkeeps : Keeps (fun db : Db => (db.linkTables, db.authRateLimitBuckets))
      (AuthRepository.createAccount input) := by
    refine keeps_require.bind fun _ => Keeps.bind ?_ fun participantId => ?_
    · unfold AuthRepository.participantId
      split
      · exact keeps_get.bind fun _ => keeps_found.bind fun _ => keeps_pure
      · exact keeps_pure
    · refine (keeps_newId fun _ _ => rfl).bind fun _ => keeps_require.bind fun _ => ?_
      refine keeps_require.bind fun _ => keeps_get.bind fun _ => keeps_require.bind fun _ => ?_
      exact keeps_require.bind fun _ => keeps_require.bind fun _ => keeps_modify fun _ => rfl
  obtain ⟨htables, hbuckets⟩ := Prod.mk.inj (hkeeps _ _ _ h)
  exact .opened (identities_effect (effect_createAccount h)) htables hbuckets

/-! ### What every call keeps -/

theorem linkingRows_congr (h : db'.linkingRows = db.linkingRows) :
    db'.identities = db.identities ∧ db'.linkTables = db.linkTables ∧
      db'.authRateLimitBuckets = db.authRateLimitBuckets := by
  obtain ⟨hidentities, hrest⟩ := Prod.mk.inj h
  exact ⟨hidentities, Prod.mk.inj hrest⟩

theorem KeyedLinks.linking (h : KeyedLinks db) {call : LinkingCall} {answer : call.Answer}
    (heffect : LinkingEffect db call answer db') : KeyedLinks db' := by
  cases heffect with
  | kept hcall hrows => exact h.congr (linkingRows_congr hrows).2.1
  | counted hcount hrows => exact h.congr (Prod.mk.inj (Prod.mk.inj hrows).2).1
  | opened hidentities htables hbuckets => exact h.congr htables
  | linked heffect hidentities hbuckets => exact h.effect heffect

/-- No account is lost, and every challenge stays with its keys and its account. -/
structure Db.Persists (db db' : Db) : Prop where
  identities : db.identities ⊆ db'.identities
  challenges : ∀ c ∈ db.walletChallenges, ∃ c' ∈ db'.walletChallenges,
    c'.id = c.id ∧ c'.requestId = c.requestId ∧ c'.authAccountId = c.authAccountId

theorem Db.Persists.of_tables (hidentities : db.identities ⊆ db'.identities)
    (htables : db'.linkTables = db.linkTables) : db.Persists db' := by
  refine ⟨hidentities, fun c hc => ⟨c, ?_, rfl, rfl, rfl⟩⟩
  rw [(Prod.mk.inj htables).1]
  exact hc

theorem Db.Persists.of_rows (h : db'.linkingRows = db.linkingRows) : db.Persists db' :=
  .of_tables ((linkingRows_congr h).1 ▸ List.Subset.refl _) (linkingRows_congr h).2.1

theorem Db.Persists.trans {db₁ db₂ db₃ : Db} (h : db₁.Persists db₂) (h' : db₂.Persists db₃) :
    db₁.Persists db₃ := by
  refine ⟨List.Subset.trans h.identities h'.identities, fun c hc => ?_⟩
  obtain ⟨c₂, hc₂, hid, hrequest, howner⟩ := h.challenges c hc
  obtain ⟨c₃, hc₃, hid', hrequest', howner'⟩ := h'.challenges c₂ hc₂
  exact ⟨c₃, hc₃, hid'.trans hid, hrequest'.trans hrequest, howner'.trans howner⟩

/-- An update of challenges that keeps their keys and accounts. -/
theorem persists_set {selected : WalletChallenge → Bool} {f : WalletChallenge → WalletChallenge}
    (hchallenges : db'.walletChallenges = Table.set selected f db.walletChallenges)
    (hf : ∀ c, (f c).id = c.id ∧ (f c).requestId = c.requestId ∧
      (f c).authAccountId = c.authAccountId) :
    ∀ c ∈ db.walletChallenges, ∃ c' ∈ db'.walletChallenges,
      c'.id = c.id ∧ c'.requestId = c.requestId ∧ c'.authAccountId = c.authAccountId := by
  intro c hc
  refine ⟨_, hchallenges ▸ Table.mem_set_of_mem hc, ?_⟩
  split_ifs
  · exact hf c
  · exact ⟨rfl, rfl, rfl⟩

theorem persists_linkEffect {command : LinkCommand} {result : command.Result}
    (heffect : LinkEffect db command result db') :
    ∀ c ∈ db.walletChallenges, ∃ c' ∈ db'.walletChallenges,
      c'.id = c.id ∧ c'.requestId = c.requestId ∧ c'.authAccountId = c.authAccountId := by
  have stay : db'.walletChallenges = db.walletChallenges → ∀ c ∈ db.walletChallenges,
      ∃ c' ∈ db'.walletChallenges,
        c'.id = c.id ∧ c'.requestId = c.requestId ∧ c'.authAccountId = c.authAccountId := by
    intro hsame c hc
    exact ⟨c, hsame ▸ hc, rfl, rfl, rfl⟩
  cases heffect with
  | kept hcommand hquiet hmoved htables => exact stay (Prod.mk.inj htables).1
  | created challenge account haccount hreference howner hpresented hissued hfresh htables =>
    intro c hc
    refine ⟨c, ?_, rfl, rfl, rfl⟩
    rw [(Prod.mk.inj htables).1]
    exact List.mem_append_left _ hc
  | closed challenge state reason hclosed hquiet hmoved hchallenge hpresented hstate htables =>
    exact persists_set (Prod.mk.inj htables).1 fun _ => ⟨rfl, rfl, rfl⟩
  | completed challenge accountId hfirst hchallenge hpresented hrequest howner hopen hchallenges
      hlinks =>
    exact persists_set hchallenges fun _ => ⟨rfl, rfl, rfl⟩
  | replayed challenge accountId row hreplayed hstate hchallenge hconsumed hrequest howner hrow
      hlink hreference htables => exact stay (Prod.mk.inj htables).1
  | unlinked link hlink hreference htables => exact stay (Prod.mk.inj htables).1
  | suspended htables => exact stay (Prod.mk.inj htables).1

theorem LinkingEffect.persists {call : LinkingCall} {answer : call.Answer}
    (heffect : LinkingEffect db call answer db') : db.Persists db' := by
  cases heffect with
  | kept hcall hrows => exact .of_rows hrows
  | counted hcount hrows =>
    obtain ⟨hidentities, hrest⟩ := Prod.mk.inj hrows
    exact .of_tables (hidentities ▸ List.Subset.refl _) (Prod.mk.inj hrest).1
  | opened hidentities htables hbuckets => exact .of_tables hidentities htables
  | linked heffect hidentities hbuckets =>
    exact ⟨hidentities ▸ List.Subset.refl _, persists_linkEffect heffect⟩

/-! ### Runs -/

section Runs

variable [LinkingHost] {W : Type} [DecidableEq W] {config : LinkingConfig} {start : Db}

/-- The log leads from one database to the other. -/
abbrev LinkingChronicle (config : LinkingConfig) (start : Db) (log : List (LinkingEntry W))
    (db : Db) : Prop :=
  Chronicle (LinkingCall.exec config.auth) (linkingContract config) Db.linkingRows start log db

/-- The call of the entry is allowed after the past of its thread. -/
abbrev LinkingValid (config : LinkingConfig) (earlier : List (LinkingEntry W))
    (e : LinkingEntry W) : Prop :=
  e.Valid (LinkingCall.exec config.auth) (linkingContract config) earlier

/-- What an allowed call leaves. -/
theorem linkingEffect_of_valid {earlier : List (LinkingEntry W)} {e : LinkingEntry W}
    (h : LinkingValid config earlier e)
    (hids : (e.before.identityLinks.map VerusIdentityLink.id).Nodup) :
    LinkingEffect e.before e.call e.answer e.after := by
  obtain ⟨thread, request, past, call, answer, before, after⟩ := e
  obtain ⟨transaction, hexec, hcommits⟩ := h.commits
  have hallowed := h.allowed
  dsimp only at hexec hcommits hallowed hids ⊢
  cases call with
  | link command =>
    obtain rfl := Option.some.inj hexec
    have hbeside := besideLinks_exec command _ _ _ hcommits
    exact .linked (LinkCommand.effect hids hcommits) (Prod.mk.inj hbeside).1 (Prod.mk.inj hbeside).2
  | auth call =>
    cases call with
    | session call =>
      obtain rfl := Option.some.inj hexec
      exact .kept ⟨call, rfl⟩ (linkingRows_session _ call _ _ _ hcommits)
    | account call =>
      cases call with
      | createAccount input =>
        obtain rfl := Option.some.inj hexec
        exact linkingEffect_createAccount hcommits
      | _ => cases hallowed
    | email call =>
      cases call with
      | store call =>
        cases call with
        | increment input =>
          obtain rfl := Option.some.inj hexec
          exact linkingEffect_increment hcommits
        | _ => cases hallowed
      | host call => cases hexec
    | _ => cases hallowed
  | _ => cases hexec

/-- The keys hold along a run. -/
theorem keyedLinks_of_chronicle (hstart : KeyedLinks start) {log : List (LinkingEntry W)}
    (h : LinkingChronicle config start log db) : KeyedLinks db :=
  h.invariant (I := fun _ db => KeyedLinks db)
    (fun _ _ _ hview hkeys => hkeys.congr (linkingRows_congr hview).2.1) hstart
    fun _ _ hvalid _ hkeys => hkeys.linking (linkingEffect_of_valid hvalid hkeys.ids)

/-- The effect of an entry of a log. -/
theorem linkingEffect_of_chronicle (hstart : KeyedLinks start)
    {later earlier : List (LinkingEntry W)} {e : LinkingEntry W}
    (h : LinkingChronicle config start (later ++ e :: earlier) db) :
    LinkingEffect e.before e.call e.answer e.after :=
  linkingEffect_of_valid h.at.1 (keyedLinks_of_chronicle hstart h.at.2).ids

/-- Accounts and challenges stay from an entry of a log on. -/
theorem persists_of_chronicle (hstart : KeyedLinks start) {later earlier : List (LinkingEntry W)}
    {e : LinkingEntry W} (h : LinkingChronicle config start (later ++ e :: earlier) db) :
    e.after.Persists db := by
  have hkeys := keyedLinks_of_chronicle hstart h.at.2
  have hafter := hkeys.linking (linkingEffect_of_valid h.at.1 hkeys.ids)
  refine (h.invariant_after (I := fun _ db => KeyedLinks db ∧ e.after.Persists db) ?_ ?_ ?_).2
  · intro _ s s' hview hs
    exact ⟨hs.1.congr (linkingRows_congr hview).2.1, hs.2.trans (.of_rows hview)⟩
  · exact ⟨hafter, .of_rows rfl⟩
  · intro _ e' hvalid _ hs
    have heffect := linkingEffect_of_valid hvalid hs.1.ids
    exact ⟨hs.1.linking heffect, hs.2.trans heffect.persists⟩

/-- The log of a run leads to its database. -/
theorem linkingChronicle_of_reach {s₀ s : LinkingSystem W} (hs₀ : Threads.State.Initial s₀)
    (hrun : Reach (LinkingSystem.step config) (fun _ _ => True) s₀ s) :
    LinkingChronicle config s₀.store s.log s.store := by
  have htraced := traced_of_reach (K := linkingContract config)
    (C := fun _ act => act.Answers (linkingContract config)) LinkingProgram.honours
    (fun _ _ _ _ _ _ _ => trivial) (fun _ _ h => h) hs₀ (hrun.mono fun _ act _ => ?_)
  · exact htraced.chronicle
  · cases act with
    | host => exact fun _ => trivial
    | start | store | elsewhere => trivial

end Runs

end ChecksAndBalances
