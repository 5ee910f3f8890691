import ChecksAndBalances.Auth.LastPasskey

/-!
# Sessions over a run

A session is created by `issue`, moved on by the authentications that use it, and revoked for good.  So
an authentication that succeeds presents the token of a session that was issued in its domain, that is
inside its idle and absolute limits, and that nothing has revoked.  A recovery, a lock or a change of
the verified address ends the sessions of its account, whatever happens to the account later.
-/

namespace ChecksAndBalances

open Lib Lib.Tx Threads AuthRepository

variable {db db' : Db}

/-! ## One call -/

/-- What no statement changes of a session. -/
structure SessionTerms where
  id : Uuid
  accountId : Uuid
  trustDomain : TrustDomain
  audience : String
  tokenDigest : String
  csrfDigest : String
  authenticationStrength : AuthenticationStrength
  authenticatedAt : ℤ
  absoluteExpiresAt : ℤ

/-- What no statement changes of the session. -/
def AuthSession.terms (s : AuthSession) : SessionTerms :=
  { id := s.id
    accountId := s.accountId
    trustDomain := s.trustDomain
    audience := s.audience
    tokenDigest := s.tokenDigest
    csrfDigest := s.csrfDigest
    authenticationStrength := s.authenticationStrength
    authenticatedAt := s.authenticatedAt
    absoluteExpiresAt := s.absoluteExpiresAt }

/-- The session of the terms is stored, and it has ended if `ended` says so. -/
def Db.HasSession (db : Db) (terms : SessionTerms) (ended : Prop) : Prop :=
  ∃ s ∈ db.authSessions, s.terms = terms ∧ (ended → s.state ≠ .active)

/-- The rows that an update leaves of a session: it keeps the terms and revives nothing. -/
theorem hasSession_set {selected : AuthSession → Bool} {f : AuthSession → AuthSession}
    {terms : SessionTerms} {ended : Prop} (h : db.HasSession terms ended)
    (hsessions : db'.authSessions = Table.set selected f db.authSessions)
    (hterms : ∀ s, (f s).terms = s.terms)
    (hended : ∀ s, selected s = true → s.state ≠ .active → (f s).state ≠ .active) :
    db'.HasSession terms ended := by
  obtain ⟨s, hs, rfl, hs_ended⟩ := h
  refine ⟨_, hsessions ▸ Table.mem_set_of_mem hs, ?_, fun h => ?_⟩
  · split_ifs
    · exact hterms s
    · rfl
  · split_ifs with hselected
    · exact hended s hselected (hs_ended h)
    · exact hs_ended h

/-- No session is lost, and none that has ended comes back. -/
theorem hasSession_effect {call : ServiceCall} {answer : call.Answer}
    (heffect : AuthEffect db call answer db') {terms : SessionTerms} {ended : Prop}
    (h : db.HasSession terms ended) : db'.HasSession terms ended := by
  have hkept : db'.authSessions = db.authSessions → db'.HasSession terms ended := by
    intro hsessions
    obtain ⟨s, hs, hrest⟩ := h
    exact ⟨s, hsessions ▸ hs, hrest⟩
  cases heffect with
  | sessionCreated session hnew hfacts =>
    obtain ⟨s, hs, hrest⟩ := h
    have hsessions : db'.authSessions = db.authSessions ++ [session] :=
      congrArg AuthFacts.sessions hfacts
    exact ⟨s, hsessions ▸ List.mem_append_left _ hs, hrest⟩
  | sessionsRevoked hcall selected reason atTime hfacts =>
    exact hasSession_set h (congrArg AuthFacts.sessions hfacts) (fun _ => rfl) fun _ _ _ hactive => by cases hactive
  | touched hfacts =>
    exact hasSession_set h (congrArg AuthFacts.sessions hfacts) (fun _ => rfl) fun _ _ hs => hs
  | _ =>
    rename_i hfacts
    exact hkept (congrArg AuthFacts.sessions hfacts)

/-- A found session is stored under the digest, in the domain, and its account is active. -/
theorem commits_findByTokenDigest {trustDomain : TrustDomain} {tokenDigest : String}
    {record : SessionRecord}
    (h : Commits (findByTokenDigest trustDomain tokenDigest) db (some record) db') :
    ∃ s ∈ db.authSessions, ∃ a ∈ db.authAccounts, a.id = s.accountId ∧ a.state = .active ∧
      s.trustDomain = trustDomain ∧ s.tokenDigest = tokenDigest ∧ record = mapSession s a := by
  unfold findByTokenDigest at h
  rw [commits_get_bind, commits_pure] at h
  have hmem := List.mem_of_mem_head? (Option.mem_def.2 h.1.symm)
  obtain ⟨s, hs, hrecord⟩ := List.mem_flatMap.1 hmem
  obtain ⟨a, ha, rfl⟩ := List.mem_map.1 hrecord
  obtain ⟨ha, htest⟩ := List.mem_filter.1 ha
  simp only [Bool.and_eq_true, decide_eq_true_eq] at htest
  obtain ⟨⟨⟨hid, hdomain⟩, hdigest⟩, hactive⟩ := htest
  exact ⟨s, hs, a, ha, hid, hactive, hdomain, hdigest, rfl⟩

/-! ## The sessions of a log -/

/-- The account whose sessions the call revokes. -/
def ServiceCall.cutsOff : ServiceCall → Option (String × TrustDomain)
  | email (.store (.recoverAndRevokeSessions input)) =>
    some (input.accountReference, input.trustDomain)
  | email (.store (.lockAndRevokeSessions input)) => some (input.accountReference, input.trustDomain)
  | email (.store (.changeVerifiedEmail input)) => some (input.accountReference, input.trustDomain)
  | session (.revokeAll accountReference trustDomain _ _) => some (accountReference, trustDomain)
  | _ => none

section Runs

variable {W : Type} {config : AuthConfig} {admits : (call : ServiceCall) → call.Answer → Prop}
  {start : Db}

/-- The time at which the call uses the session. -/
def ServiceCall.usedAt (sessionId : Uuid) : ServiceCall → Option ℤ
  | session (.touch id _ atTime) => if id = sessionId then some atTime else none
  | _ => none

/-- The time of the last use of a session that was issued right before the log. -/
def lastUse (sessionId : Uuid) (issuedAt : ℤ) : List (AuthEntry W) → ℤ
  | [] => issuedAt
  | e :: earlier => (e.call.usedAt sessionId).getD (lastUse sessionId issuedAt earlier)

/-- The entry is the `issue` that created the session. -/
structure IssuedBy (config : AuthConfig) (e : AuthEntry W) (input : SessionService.IssueInput)
    (s : AuthSession) : Prop where
  request : e.request = .issue input
  created : ∃ id token csrfToken keyVersion,
    e.call = .session (.create (SessionService.newRecord config input id token csrfToken)) ∧
    s.terms = (sessionRow keyVersion s.accountId
      (SessionService.newRecord config input id token csrfToken)).terms
  account : (s.accountId, input.accountReference, input.trustDomain) ∈ e.before.identities
  stored : e.after.HasSession s.terms False

theorem IssuedBy.cutsOff {e : AuthEntry W} {input : SessionService.IssueInput} {s : AuthSession}
    (h : IssuedBy config e input s) : e.call.cutsOff = none := by
  obtain ⟨id, token, csrfToken, keyVersion, hcall, -⟩ := h.created
  rw [hcall]
  rfl

/-- What the log says of a stored session: who issued it, and when it was last used. -/
structure SessionTold (config : AuthConfig) (log : List (AuthEntry W)) (s : AuthSession) : Prop where
  issued : ∃ later e earlier input, log = later ++ e :: earlier ∧ IssuedBy config e input s ∧
    (s.state = .active → s.lastSeenAt = lastUse s.id input.now later)
  idle : s.state = .active →
    s.idleExpiresAt ≤ s.lastSeenAt + (config.sessions s.trustDomain).idleTimeoutMs
  revocation : s.state = .active ↔ s.revokedAt = none

theorem usedAt_of_not_writes {call : ServiceCall} (h : call.writes = false) (id : Uuid) :
    call.usedAt id = none := by
  cases call with
  | session call => cases call <;> first | rfl | cases h
  | _ => rfl

theorem usedAt_of_revokesSessions {call : ServiceCall} (h : call.revokesSessions = true) (id : Uuid) :
    call.usedAt id = none := by
  cases call with
  | session call => cases call <;> first | rfl | cases h
  | _ => rfl

/-- The same row after a call that did not use it. -/
theorem SessionTold.cons {log : List (AuthEntry W)} {s : AuthSession}
    (h : SessionTold config log s) {e : AuthEntry W} (hcall : e.call.usedAt s.id = none) :
    SessionTold config (e :: log) s := by
  obtain ⟨later, e', earlier, input, rfl, hissued, huse⟩ := h.issued
  refine ⟨⟨e :: later, e', earlier, input, rfl, hissued, fun hactive => ?_⟩, h.idle, h.revocation⟩
  rw [lastUse, hcall]
  exact huse hactive

/-- A row with the same terms that has ended. -/
theorem SessionTold.closed {log : List (AuthEntry W)} {s s' : AuthSession}
    (h : SessionTold config log s) (hterms : s'.terms = s.terms) (hstate : s'.state ≠ .active)
    (hrevoked : s'.revokedAt ≠ none) (e : AuthEntry W) : SessionTold config (e :: log) s' := by
  obtain ⟨later, e', earlier, input, rfl, hissued, -⟩ := h.issued
  have haccount : s'.accountId = s.accountId := congrArg SessionTerms.accountId hterms
  refine ⟨⟨e :: later, e', earlier, input, rfl, ⟨hissued.request, ?_, ?_, ?_⟩,
    fun hactive => absurd hactive hstate⟩, fun hactive => absurd hactive hstate, ?_⟩
  · rw [hterms, haccount]
    exact hissued.created
  · rw [haccount]
    exact hissued.account
  · rw [hterms]
    exact hissued.stored
  · exact ⟨fun hactive => absurd hactive hstate, fun hnone => absurd hnone hrevoked⟩

variable [DecidableEq W]

/-- From any earlier time on. -/
theorem hasSession_after {later earlier : List (AuthEntry W)} {e : AuthEntry W}
    (h : AuthChronicle config admits start (later ++ e :: earlier) db) {terms : SessionTerms}
    {ended : Prop} (hafter : e.after.HasSession terms ended) : db.HasSession terms ended := by
  refine h.invariant_after (I := fun _ db => db.HasSession terms ended) ?_ hafter ?_
  · intro _ s s' hview hs
    unfold Db.HasSession at hs ⊢
    rw [show s'.authSessions = s.authSessions from
      congrArg AuthFacts.sessions (authFacts_of_rows hview)]
    exact hs
  · exact fun _ e' hvalid _ => hasSession_effect (authEffect_of_valid hvalid)

/-- What an authentication found was stored at its first call. -/
theorem exists_read {log : List (AuthEntry W)} (h : AuthChronicle config admits start log db) {w : W}
    {input : SessionService.AuthenticateInput} {record : SessionRecord}
    (hitem : ServiceRequest.foundItem config input record ∈ items w log) :
    ∃ later read earlier, log = later ++ read :: earlier ∧ read.thread = w ∧
      read.call.cutsOff = none ∧ ∃ s ∈ read.before.authSessions, ∃ a ∈ read.before.authAccounts, a.id = s.accountId ∧
        a.state = .active ∧ s.trustDomain = input.trustDomain ∧
        s.tokenDigest = keyedDigest (config.sessions input.trustDomain).sessionSecret
          (input.token.getD "") ∧ record = mapSession s a := by
  obtain ⟨later, read, earlier, rfl, hthread, hread⟩ := exists_entry_of_mem_items hitem
  obtain ⟨transaction, hexec, hcommits⟩ := h.at.1.commits
  refine ⟨later, read, earlier, rfl, hthread, ?_⟩
  obtain ⟨thread, request, past, call, answer, before, after⟩ := read
  cases hread
  obtain rfl := Option.some.inj hexec
  exact ⟨rfl, commits_findByTokenDigest hcommits⟩

/-- A use stays inside the idle limit of the domain of its session. -/
theorem idle_of_touch {earlier : List (AuthEntry W)} {e : AuthEntry W}
    (hvalid : AuthValid config admits earlier e)
    (hearlier : AuthChronicle config admits start earlier e.before)
    (hkeys : AuthKeys e.before.authFacts) {sessionId : Uuid} {idleExpiresAt atTime : ℤ}
    (hcall : e.call = .session (.touch sessionId idleExpiresAt atTime)) {s : AuthSession}
    (hs : s ∈ e.before.authSessions) (hid : s.id = sessionId) :
    idleExpiresAt ≤ atTime + (config.sessions s.trustDomain).idleTimeoutMs := by
  have hallowed := hvalid.allowed
  rw [hcall] at hallowed
  obtain ⟨input, record, -, hpast, -, rfl, rfl, rfl⟩ := hallowed
  obtain ⟨later, read, before, rfl, -, -, s', hs', a, -, -, -, hdomain, -, hrecord⟩ :=
    exists_read hearlier (hvalid.mem_items (by rw [hpast]; exact List.mem_singleton_self _) rfl)
  -- the session that was read is the one that is stored
  have hread : read.before.HasSession s'.terms False := ⟨s', hs', rfl, False.elim⟩
  obtain ⟨s'', hs'', hterms, -⟩ :=
    hasSession_after hearlier (hasSession_effect (authEffect_of_valid hearlier.at.1) hread)
  have hids : s''.id = s.id := by
    rw [hid, hrecord]
    exact congrArg SessionTerms.id hterms
  obtain rfl : s'' = s := Table.unique_of_nodup hkeys.sessions s'' hs'' s hs hids
  rw [show s''.trustDomain = input.trustDomain from
    (congrArg SessionTerms.trustDomain hterms).trans hdomain]
  exact min_le_left _ _

/-- Every stored session is one that the log tells of. -/
theorem sessionTold_of_chronicle {log : List (AuthEntry W)}
    (h : AuthChronicle config admits start log db) (hkeys : AuthKeys start.authFacts)
    (hnone : start.authSessions = []) : ∀ s ∈ db.authSessions, SessionTold config log s := by
  refine auth_invariant (I := fun log facts => ∀ s ∈ facts.sessions, SessionTold config log s) h hkeys
    ?_ ?_
  · simp [hnone]
  intro earlier e hvalid hearlier hkeys heffect hI
  have hkept : e.after.authSessions = e.before.authSessions →
      (∀ id, e.call.usedAt id = none) →
        ∀ s ∈ e.after.authSessions, SessionTold config (e :: earlier) s := by
    intro hsessions hcall s hs
    rw [hsessions] at hs
    exact (hI s hs).cons (hcall _)
  obtain ⟨thread, request, past, call, answer, before, after⟩ := e
  cases heffect with
  | kept hcall hfacts =>
    exact hkept (congrArg AuthFacts.sessions hfacts) (usedAt_of_not_writes hcall)
  | sessionCreated session hnew hfacts =>
    intro s hs
    rw [show after.authFacts.sessions = before.authSessions ++ [session] from
      congrArg AuthFacts.sessions hfacts] at hs
    obtain hs | hs := List.mem_append.1 hs
    · exact (hI s hs).cons rfl
    · obtain rfl := List.mem_singleton.1 hs
      obtain ⟨keyVersion, a, ha, hreference, hdomain, rfl⟩ := hnew.row
      obtain ⟨input, id, token, csrfToken, hrequest, rfl⟩ := hvalid.allowed
      refine ⟨⟨[], _, earlier, input, rfl, ⟨hrequest, ⟨id, token, csrfToken, keyVersion, rfl, rfl⟩,
        ?_, ⟨_, ?_, rfl, False.elim⟩⟩, fun _ => rfl⟩, fun _ => le_refl _, by simp [sessionRow]⟩
      rotate_left
      · rw [show after.authSessions = before.authSessions ++ [_] from
          congrArg AuthFacts.sessions hfacts]
        exact List.mem_append_right _ (List.mem_singleton_self _)
      have hmem := mem_identities ha
      rw [hreference, hdomain] at hmem
      exact hmem
  | sessionsRevoked hcall selected reason atTime hfacts =>
    intro s hs
    rw [show after.authFacts.sessions = revokedSessions selected reason atTime before from
      congrArg AuthFacts.sessions hfacts] at hs
    obtain ⟨s₁, hs₁, rfl⟩ := Table.exists_of_mem_set hs
    split_ifs
    · refine (hI s₁ hs₁).closed ?_ ?_ ?_ _
      · rfl
      · simp [revokedRow]
      · simp [revokedRow]
    · exact (hI s₁ hs₁).cons (usedAt_of_revokesSessions hcall _)
  | touched hfacts =>
    rename_i sessionId idleExpiresAt atTime
    intro s hs
    rw [show after.authFacts.sessions = Table.set (fun s => s.id = sessionId && s.state = .active)
      (fun s => { s with idleExpiresAt, lastSeenAt := atTime }) before.authSessions from
        congrArg AuthFacts.sessions hfacts] at hs
    obtain ⟨s₁, hs₁, rfl⟩ := Table.exists_of_mem_set hs
    split_ifs with hselected
    · rw [Bool.and_eq_true, decide_eq_true_eq, decide_eq_true_eq] at hselected
      obtain ⟨later, e, first, input, rfl, hissued, -⟩ := (hI s₁ hs₁).issued
      refine ⟨⟨_ :: later, e, first, input, rfl, ⟨hissued.request, hissued.created, hissued.account, hissued.stored⟩,
        fun _ => ?_⟩, fun _ => ?_, (hI s₁ hs₁).revocation⟩
      · simp [lastUse, ServiceCall.usedAt, hselected.1]
      · have hidle := idle_of_touch hvalid hearlier hkeys rfl hs₁ hselected.1
        exact hidle
    · -- the session is another one, or it has ended
      by_cases hid : sessionId = s₁.id
      · have hstate : s₁.state ≠ .active := fun hactive => hselected (by simp [hid, hactive])
        exact (hI s₁ hs₁).closed rfl hstate (fun hnone => hstate ((hI s₁ hs₁).revocation.2 hnone)) _
      · exact (hI s₁ hs₁).cons (by simp [ServiceCall.usedAt, hid])
  | _ =>
    rename_i hfacts
    exact hkept (congrArg AuthFacts.sessions hfacts) fun _ => rfl

/-! ## Successful authentications -/

/-- The session behind a successful authentication of the thread. -/
structure AuthenticatedBy (config : AuthConfig) (log : List (AuthEntry W)) (w : W)
    (input : SessionService.AuthenticateInput) (value : SessionRecord) (read issue : AuthEntry W)
    (between : List (AuthEntry W)) (issued : SessionService.IssueInput) (session : AuthSession) :
    Prop where
  /-- The thread read the session, which had been issued before. -/
  log : ∃ later earlier, log = later ++ read :: (between ++ issue :: earlier)
  thread : read.thread = w
  reads : read.call.cutsOff = none
  issuance : IssuedBy config issue issued session
  /-- It was issued in the same domain and audience, under the token that is presented. -/
  domain : issued.trustDomain = input.trustDomain
  audience : session.audience = (config.sessions input.trustDomain).audience
  token : session.tokenDigest =
    keyedDigest (config.sessions input.trustDomain).sessionSecret (input.token.getD "")
  id : value.id = session.id
  account : value.accountReference = issued.accountReference
  /-- When it was read, it had not been revoked and its account was active. -/
  stored : session ∈ read.before.authSessions
  active : session.state = .active
  account_active : ∃ a ∈ read.before.authAccounts, a.externalReference = issued.accountReference ∧
    a.trustDomain = issued.trustDomain ∧ a.state = .active
  /-- It is inside its limits. -/
  absolute : input.now < issued.now + (config.sessions input.trustDomain).absoluteTimeoutMs
  idle : input.now <
    lastUse session.id issued.now between + (config.sessions input.trustDomain).idleTimeoutMs

/-- An authentication that found a session it may use. -/
theorem authenticatedBy_of_found {log : List (AuthEntry W)}
    (h : AuthChronicle config admits start log db) (hkeys : AuthKeys start.authFacts)
    (hnone : start.authSessions = []) {w : W} {input : SessionService.AuthenticateInput}
    {record value : SessionRecord}
    (hitem : ServiceRequest.foundItem config input record ∈ items w log)
    (husable : ServiceRequest.Usable config input record) (hid : value.id = record.id)
    (haccount : value.accountReference = record.accountReference) :
    ∃ read issue between issued session,
      AuthenticatedBy config log w input value read issue between issued session := by
  obtain ⟨later, read, earlier, rfl, hthread, hreads, s, hs, a, ha, haid, hactive, hdomain, hdigest, rfl⟩ :=
    exists_read h hitem
  have hearlier := h.at.2
  have htold := sessionTold_of_chronicle hearlier hkeys hnone s hs
  have hstate : s.state = .active := htold.revocation.2 husable.revokedAt
  obtain ⟨between, issue, before, issued, rfl, hissued, huse⟩ := htold.issued
  obtain ⟨id, token, csrfToken, keyVersion, hcall, hterms⟩ := hissued.created
  have hissued_domain : issued.trustDomain = input.trustDomain :=
    ((congrArg SessionTerms.trustDomain hterms).symm.trans hdomain)
  -- the account of the session is the one it was issued for
  have hidentity : (a.id, a.externalReference, a.trustDomain) =
      (s.accountId, issued.accountReference, issued.trustDomain) :=
    Table.unique_of_nodup (authKeys_of_chronicle hearlier hkeys).accounts _ (mem_identities ha) _
      (identities_subset hearlier hissued.account) haid
  simp only [Prod.mk.injEq] at hidentity
  refine ⟨read, issue, between, issued, s, ⟨later, before, rfl⟩, hthread, hreads, hissued, hissued_domain,
    husable.audience, hdigest, hid, haccount.trans hidentity.2.1, hs, hstate,
    ⟨a, ha, hidentity.2.1, hidentity.2.2, hactive⟩, ?_, ?_⟩
  · have habsolute : s.absoluteExpiresAt =
        issued.now + (config.sessions issued.trustDomain).absoluteTimeoutMs :=
      congrArg SessionTerms.absoluteExpiresAt hterms
    rw [← hissued_domain, ← habsolute]
    exact husable.absolute
  · have hidle := htold.idle hstate
    rw [huse hstate, hdomain] at hidle
    exact lt_of_lt_of_le husable.idle hidle

/-- A method that returned has the past that its contract says. -/
theorem past_of_authenticated {s : AuthSystem W} (h : AuthTraced config admits start s) {w : W}
    {input : SessionService.AuthenticateInput} {value : SessionRecord} {past : List ServiceItem}
    (hthread : s.threads w =
      some { request := .authenticate input, past, process := some (.done (.ok value)) }) :
    ∃ record, ServiceRequest.Usable config input record ∧
      ServiceRequest.foundItem config input record ∈ items w s.log ∧
      value = { record with idleExpiresAt := SessionService.nextIdle config input record } := by
  have htracked := h.threads w _ hthread
  obtain ⟨record, husable, hpast, hvalue⟩ := htracked.follows _ rfl value rfl
  refine ⟨record, husable, htracked.mem_items ?_ rfl, hvalue⟩
  have hpast : past = _ := hpast
  rw [hpast]
  exact List.mem_cons_of_mem _ (List.mem_singleton_self _)

/-- In every run, an authentication that succeeds does so for a live session. -/
theorem authenticated_session_live {s₀ s : AuthSystem W} (hs₀ : s₀.Initial)
    (hkeys : AuthKeys s₀.store.authFacts) (hnone : s₀.store.authSessions = [])
    (hrun : Reach (AuthSystem.step config) (fun _ _ => True) s₀ s) {w : W}
    {input : SessionService.AuthenticateInput} {value : SessionRecord} {past : List ServiceItem}
    (hthread : s.threads w =
      some { request := .authenticate input, past, process := some (.done (.ok value)) }) :
    ∃ read issue between issued session,
      AuthenticatedBy config s.log w input value read issue between issued session := by
  have htraced := authTraced_of_run hs₀ hrun
  obtain ⟨record, husable, hitem, rfl⟩ := past_of_authenticated htraced hthread
  exact authenticatedBy_of_found htraced.chronicle hkeys hnone hitem husable rfl rfl

end Runs

/-! ## Sessions that are cut off -/

/-- Every session that the account has in the domain has ended. -/
def Db.NoActiveSession (db : Db) (accountReference : String) (trustDomain : TrustDomain) : Prop :=
  ∀ s ∈ db.authSessions, (s.accountId, accountReference, trustDomain) ∈ db.identities →
    s.trustDomain = trustDomain → s.state ≠ .active

/-- A revocation that selects every active session of the account. -/
theorem noActiveSession_of_revoked {accountReference reason : String} {trustDomain : TrustDomain}
    {atTime : ℤ} {selected : AuthSession → Bool} (hidentities : db'.identities = db.identities)
    (hsessions : db'.authSessions = revokedSessions selected reason atTime db)
    (hselected : ∀ s ∈ db.authSessions, (s.accountId, accountReference, trustDomain) ∈ db.identities →
      s.trustDomain = trustDomain → s.state = .active → selected s = true) :
    db'.NoActiveSession accountReference trustDomain := by
  intro s hs hidentity hdomain
  rw [hsessions] at hs
  rw [hidentities] at hidentity
  obtain ⟨s₁, hs₁, rfl⟩ := Table.exists_of_mem_set hs
  by_cases hs_selected : selected s₁ = true
  · simp [hs_selected, revokedRow]
  · simp only [hs_selected, Bool.false_eq_true, if_false] at hidentity hdomain ⊢
    exact fun hactive => hs_selected (hselected s₁ hs₁ hidentity hdomain hactive)

/-- A revocation of the sessions of one account row, among statements on other tables. -/
theorem noActiveSession_of_account {db₁ db₂ : Db} {reason : String} {trustDomain : TrustDomain}
    {atTime : ℤ} {count : ℕ} {a : AuthAccount} (hkeys : AuthKeys db.authFacts)
    (ha : a ∈ db.authAccounts) (hbefore : db₁.authFacts = db.authFacts)
    (hrevoke : Commits (revokeSessions a.id reason atTime) db₁ count db₂)
    (hafter : db'.authFacts = db₂.authFacts) :
    db'.NoActiveSession a.externalReference trustDomain := by
  obtain rfl := commits_revokeSessions hrevoke
  simp only [Db.authFacts, AuthFacts.mk.injEq] at hbefore hafter
  have hsessions : db'.authSessions =
      revokedSessions (fun s => s.accountId = a.id && s.state = .active) reason atTime db := by
    rw [hafter.2.1, revokedSessions, revokedSessions, hbefore.2.1]
  refine noActiveSession_of_revoked (hafter.1.trans hbefore.1) hsessions ?_
  intro s _ hidentity _ hactive
  have hsame := Table.unique_of_nodup hkeys.references _ hidentity _ (mem_identities ha) rfl
  simp only [Prod.mk.injEq] at hsame
  simp [hsame.1, hactive]

theorem noActiveSession_of_recover {input : RecoverInput} {count : ℕ} (hkeys : AuthKeys db.authFacts)
    (h : Commits (recoverAndRevokeSessions input) db count db') :
    db'.NoActiveSession input.accountReference input.trustDomain := by
  obtain ⟨a, db₁, haccount, hbody⟩ := commits_bind.1 h
  obtain ⟨rfl, ha, hreference, -⟩ := commits_domainAccount haccount
  rw [commits_require_bind] at hbody
  obtain ⟨count, db₂, hrevoke, hrest⟩ := commits_bind.1 hbody.2
  rw [← hreference]
  refine noActiveSession_of_account hkeys ha rfl hrevoke (Keeps.bind ?_ ?_ _ _ _ hrest)
  · exact keeps_updateAccountFacts _ fun _ => rfl
  · exact fun _ => authFacts_appendAudit.bind fun _ => keeps_pure

theorem noActiveSession_of_lock {input : LockInput} {count : ℕ} (hkeys : AuthKeys db.authFacts)
    (h : Commits (lockAndRevokeSessions input) db count db') :
    db'.NoActiveSession input.accountReference input.trustDomain := by
  obtain ⟨a, db₁, haccount, hbody⟩ := commits_bind.1 h
  obtain ⟨rfl, ha, hreference, -⟩ := commits_domainAccount haccount
  rw [commits_require_bind] at hbody
  obtain ⟨count, db₂, hrevoke, hrest⟩ := commits_bind.1 hbody.2
  rw [← hreference]
  refine noActiveSession_of_account hkeys ha rfl hrevoke (Keeps.bind ?_ ?_ _ _ _ hrest)
  · exact keeps_updateAccountFacts _ fun _ => rfl
  · exact fun _ => (keeps_appendSecurityAudit (fun _ _ _ _ => rfl) _ _ _ _ _).bind fun _ => keeps_pure

theorem noActiveSession_of_changeEmail {input : ChangeEmailInput} {result : ChangedEmail}
    (hkeys : AuthKeys db.authFacts) (h : Commits (changeVerifiedEmail input) db result db') :
    db'.NoActiveSession input.accountReference input.trustDomain := by
  unfold changeVerifiedEmail requireOpaqueReference at h
  rw [commits_require_bind] at h
  obtain ⟨a, db₁, haccount, hbody⟩ := commits_bind.1 h.2
  obtain ⟨rfl, ha, hreference, -⟩ := commits_domainAccount haccount
  simp only [commits_require_bind, commits_get_bind, commits_lift_bind, commits_modify_bind] at hbody
  obtain ⟨-, contacts, -, hbody⟩ := hbody
  obtain ⟨_, db₂, hinsert, hrest⟩ := commits_bind.1 hbody
  obtain ⟨count, db₃, hrevoke, hrest⟩ := commits_bind.1 hrest
  rw [← hreference]
  refine noActiveSession_of_account hkeys ha ?_ hrevoke ?_
  · have hkept := keeps_insertContact _ _ _ _ _ _ _ _ hinsert
    exact hkept
  · exact ((keeps_appendSecurityAudit (fun _ _ _ _ => rfl) _ _ _ _ _).bind
      fun _ => keeps_pure) _ _ _ hrest

theorem noActiveSession_of_revokeAll {reference reason : String} {trustDomain : TrustDomain}
    {atTime : ℤ} {count : ℕ} (h : Commits (revokeAll reference trustDomain reason atTime) db count db') :
    db'.NoActiveSession reference trustDomain := by
  unfold revokeAll at h
  rw [commits_get_bind] at h
  obtain ⟨_, db₁, hupdate, hpure⟩ := commits_bind.1 h
  obtain ⟨-, rfl⟩ := commits_pure.1 hpure
  rw [commits_updateSessions hupdate]
  refine noActiveSession_of_revoked (rfl : _ = db.identities) rfl ?_
  intro s _ hidentity hdomain hactive
  obtain ⟨a, ha, hsame⟩ := List.mem_map.1 hidentity
  simp only [AuthAccount.identity, Prod.mk.injEq] at hsame
  simp only [Bool.and_eq_true, decide_eq_true_eq, List.any_eq_true]
  exact ⟨⟨hdomain, hactive⟩, a, ha, hsame.1, hsame.2.1⟩

/-- A call that cuts an account off leaves it no active session. -/
theorem noActiveSession_of_cutsOff {config : AuthConfig} {call : ServiceCall} {answer : call.Answer}
    {transaction : DbTx call.Answer} (hexec : call.exec config = some transaction)
    (hcommits : Commits transaction db answer db') (hkeys : AuthKeys db.authFacts)
    {accountReference : String} {trustDomain : TrustDomain}
    (hcall : call.cutsOff = some (accountReference, trustDomain)) :
    db'.NoActiveSession accountReference trustDomain := by
  cases call with
  | email call =>
    cases call with
    | store call =>
      cases call with
      | recoverAndRevokeSessions input =>
        obtain ⟨rfl, rfl⟩ := Prod.mk.inj (Option.some.inj hcall)
        obtain rfl := Option.some.inj hexec
        exact noActiveSession_of_recover hkeys hcommits
      | lockAndRevokeSessions input =>
        obtain ⟨rfl, rfl⟩ := Prod.mk.inj (Option.some.inj hcall)
        obtain rfl := Option.some.inj hexec
        exact noActiveSession_of_lock hkeys hcommits
      | changeVerifiedEmail input =>
        obtain ⟨rfl, rfl⟩ := Prod.mk.inj (Option.some.inj hcall)
        obtain rfl := Option.some.inj hexec
        exact noActiveSession_of_changeEmail hkeys hcommits
      | _ => cases hcall
    | _ => cases hcall
  | session call =>
    cases call with
    | revokeAll reference domain reason atTime =>
      obtain ⟨rfl, rfl⟩ := Prod.mk.inj (Option.some.inj hcall)
      obtain rfl := Option.some.inj hexec
      exact noActiveSession_of_revokeAll hcommits
    | _ => cases hcall
  | _ => cases hcall

section Runs

variable {W : Type} [DecidableEq W] {config : AuthConfig}
  {admits : (call : ServiceCall) → call.Answer → Prop} {start : Db}

/-- A session that was issued before the account was cut off has ended. -/
theorem not_active_after_cut {later between earlier : List (AuthEntry W)} {cut issue : AuthEntry W}
    (h : AuthChronicle config admits start (later ++ cut :: (between ++ issue :: earlier)) db)
    (hkeys : AuthKeys start.authFacts) {accountReference : String} {trustDomain : TrustDomain}
    (hcut : cut.call.cutsOff = some (accountReference, trustDomain))
    {input : SessionService.IssueInput} {s : AuthSession} (hissued : IssuedBy config issue input s)
    (haccount : input.accountReference = accountReference)
    (hdomain : input.trustDomain = trustDomain) (hs : s ∈ db.authSessions) : s.state ≠ .active := by
  obtain ⟨hvalid, hbefore⟩ := h.at
  -- the session was stored when it was issued, and still when the account was cut off
  obtain ⟨s₁, hs₁, hterms₁, -⟩ := hasSession_effect (authEffect_of_valid hvalid)
    (hasSession_after hbefore hissued.stored)
  have hended : cut.after.HasSession s.terms True := by
    refine ⟨s₁, hs₁, hterms₁, fun _ => ?_⟩
    obtain ⟨transaction, hexec, hcommits⟩ := hvalid.commits
    refine noActiveSession_of_cutsOff hexec hcommits (authKeys_of_chronicle hbefore hkeys) hcut s₁ hs₁
      ?_ ?_
    · rw [show s₁.accountId = s.accountId from congrArg SessionTerms.accountId hterms₁, ← haccount,
        ← hdomain]
      exact identities_effect (authEffect_of_valid hvalid)
        (identities_subset hbefore hissued.account)
    · obtain ⟨id, token, csrfToken, keyVersion, -, hterms⟩ := hissued.created
      rw [← hdomain]
      exact congrArg SessionTerms.trustDomain (hterms₁.trans hterms)
  obtain ⟨s₂, hs₂, hterms₂, hs₂_ended⟩ := hasSession_after h hended
  obtain rfl : s₂ = s := Table.unique_of_nodup (authKeys_of_chronicle h hkeys).sessions s₂ hs₂ s hs
    (congrArg SessionTerms.id hterms₂)
  exact hs₂_ended trivial

/-- In every run, once an account is cut off in a domain, an authentication in that domain that had not
yet read a session succeeds for the account only with a session that was issued since. -/
theorem account_sessions_cut_off {s₀ s : AuthSystem W} (hs₀ : s₀.Initial)
    (hkeys : AuthKeys s₀.store.authFacts) (hnone : s₀.store.authSessions = [])
    (hrun : Reach (AuthSystem.step config) (fun _ _ => True) s₀ s)
    {later earlier : List (AuthEntry W)} {cut : AuthEntry W}
    (hlog : s.log = later ++ cut :: earlier) {accountReference : String} {trustDomain : TrustDomain}
    (hcut : cut.call.cutsOff = some (accountReference, trustDomain)) {w : W}
    {input : SessionService.AuthenticateInput} {value : SessionRecord} {past : List ServiceItem}
    (hthread : s.threads w =
      some { request := .authenticate input, past, process := some (.done (.ok value)) })
    (hdomain : input.trustDomain = trustDomain) (haccount : value.accountReference = accountReference) :
    (∃ e ∈ earlier, e.thread = w) ∨
      ∃ issue ∈ later, ∃ issued session, IssuedBy config issue issued session ∧
        session.id = value.id := by
  have htraced := authTraced_of_run hs₀ hrun
  obtain ⟨read, issue, between, issued, session, h⟩ :=
    authenticated_session_live hs₀ hkeys hnone hrun hthread
  obtain ⟨after, before, hread⟩ := h.log
  rw [hlog] at hread
  rcases List.append_eq_append_iff.1 hread with ⟨rest, rfl, hrest⟩ | ⟨rest, rfl, hrest⟩
  · cases rest with
    | nil =>
      obtain rfl : cut = read := (List.cons.inj hrest).1
      rw [h.reads] at hcut
      cases hcut
    | cons e rest =>
      -- the session was read before the account was cut off
      have hmem : read ∈ earlier := by
        rw [(List.cons.inj hrest).2]
        simp
      exact Or.inl ⟨read, hmem, h.thread⟩
  · cases rest with
    | nil =>
      obtain rfl : read = cut := (List.cons.inj hrest).1
      rw [h.reads] at hcut
      cases hcut
    | cons e rest =>
      obtain ⟨rfl, htail⟩ := List.cons.inj hrest
      refine Or.inr ⟨issue, ?_, issued, session, h.issuance, h.id.symm⟩
      have hchronicle := htraced.chronicle
      rw [hlog, List.append_assoc, List.cons_append] at hchronicle
      rcases List.append_eq_append_iff.1 htail with ⟨rest', rfl, hissue⟩ | ⟨rest', rfl, hissue⟩
      · cases rest' with
        | nil =>
          obtain rfl : issue = cut := (List.cons.inj hissue).1
          rw [h.issuance.cutsOff] at hcut
          cases hcut
        | cons e rest' =>
          rw [(List.cons.inj hissue).1]
          simp
      · cases rest' with
        | nil =>
          obtain rfl : cut = issue := (List.cons.inj hissue).1
          rw [h.issuance.cutsOff] at hcut
          cases hcut
        | cons e rest' =>
          -- the session was issued before the account was cut off
          obtain ⟨rfl, rfl⟩ := List.cons.inj hissue
          exact absurd h.active (not_active_after_cut hchronicle.at.2 hkeys hcut h.issuance
            (h.account.symm.trans haccount) (h.domain.trans hdomain) h.stored)

end Runs

namespace AuthSample

/-- `issue` for the participant. -/
def issue (w : ℕ) (token : String) (id : Uuid) (now : ℤ) : List (AuthAct ℕ) := [
  .start w (.issue
    { accountReference := "account:one", trustDomain := .participant
      authenticationStrength := .verifiedEmail, deviceLabel := "", now, priorSessionId := none }),
  .host w (Host.answer ⟨token, id, "", 0⟩), .host w (Host.answer ⟨"csrf:" ++ token, id, "", 0⟩),
  .host w (Host.answer ⟨token, id, "", 0⟩), .store w]

/-- `authenticate` for the participant. -/
def authenticate (w : ℕ) (token : String) (now : ℤ) : List (AuthAct ℕ) := [
  .start w (.authenticate { trustDomain := .participant, token := some token, now }),
  .store w, .store w]

/-- A session is issued, every session is revoked, and another one is issued and used. -/
def signsInAgain : List (AuthAct ℕ) :=
  issue 0 "token:first" 50 0 ++
  [.start 1 (.direct (.revokeAll "account:one" .participant "sign_out" 500)), .store 1] ++
  issue 2 "token:second" 51 1000 ++ authenticate 3 "token:second" 2000

/-- What the thread authenticated. -/
def authenticated (s : AuthSystem ℕ) (w : ℕ) :
    Option (SessionService.AuthenticateInput × SessionRecord) :=
  match s.threads w with
  | some { request := .authenticate input, process := some (.done (.ok value)), .. } =>
    some (input, value)
  | _ => none

theorem exists_past_of_authenticated {s : AuthSystem ℕ} {w : ℕ}
    {input : SessionService.AuthenticateInput} {value : SessionRecord}
    (h : authenticated s w = some (input, value)) : ∃ past, s.threads w =
      some { request := .authenticate input, past, process := some (.done (.ok value)) } := by
  unfold authenticated at h
  split at h
  · next past _ hthread =>
    cases h
    exact ⟨past, hthread⟩
  · cases h

/-- The participant has been cut off and has signed in again. -/
def signedInAgain (s : AuthSystem ℕ) : Bool :=
  (authenticated s 3).any (fun (input, value) =>
    input.trustDomain = .participant && value.accountReference = "account:one") &&
    s.log.any fun e => e.call.cutsOff = some ("account:one", .participant)

theorem signsInAgain_run : ∃ s : AuthSystem ℕ,
    Reach (AuthSystem.step config) (fun _ _ => True) start s ∧ signedInAgain s = true := by
  obtain ⟨s, hrun, htest⟩ := exists_run_of_any (AuthSystem.step config) start signsInAgain
    (p := signedInAgain) (by decide +kernel)
  exact ⟨s, reach_of_run hrun (allSteps_of_mem (fun _ _ _ => trivial) _), htest⟩

theorem authenticated_session_live_second : ∃ s : AuthSystem ℕ, ∃ input value,
    authenticated s 3 = some (input, value) ∧ ∃ read issue between issued session,
      AuthenticatedBy config s.log 3 input value read issue between issued session := by
  obtain ⟨s, hreach, htest⟩ := signsInAgain_run
  rw [signedInAgain, Bool.and_eq_true] at htest
  obtain ⟨⟨input, value⟩, hauthenticated, -⟩ := (Option.any_eq_true _ _).1 htest.1
  obtain ⟨past, hthread⟩ := exists_past_of_authenticated hauthenticated
  exact ⟨s, input, value, hauthenticated,
    authenticated_session_live (initial_initial _) start_keys rfl hreach hthread⟩

theorem account_sessions_cut_off_signed_in : ∃ s : AuthSystem ℕ, ∃ input value later cut earlier,
    authenticated s 3 = some (input, value) ∧ s.log = later ++ cut :: earlier ∧
    cut.call.cutsOff = some ("account:one", .participant) ∧
    ((∃ e ∈ earlier, e.thread = 3) ∨ ∃ issue ∈ later, ∃ issued session,
      IssuedBy config issue issued session ∧ session.id = value.id) := by
  obtain ⟨s, hreach, htest⟩ := signsInAgain_run
  rw [signedInAgain, Bool.and_eq_true] at htest
  obtain ⟨⟨input, value⟩, hauthenticated, hsame⟩ := (Option.any_eq_true _ _).1 htest.1
  simp only [Bool.and_eq_true, decide_eq_true_eq] at hsame
  obtain ⟨cut, hmem, hcut⟩ := List.any_eq_true.1 htest.2
  obtain ⟨later, earlier, hlog⟩ := List.append_of_mem hmem
  obtain ⟨past, hthread⟩ := exists_past_of_authenticated hauthenticated
  exact ⟨s, input, value, later, cut, earlier, hauthenticated, hlog, of_decide_eq_true hcut,
    account_sessions_cut_off (initial_initial _) start_keys rfl hreach hlog (of_decide_eq_true hcut)
      hthread hsame.1 hsame.2⟩

end AuthSample

end ChecksAndBalances
