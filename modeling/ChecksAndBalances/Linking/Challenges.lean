import ChecksAndBalances.Linking.Effects

/-!
# The life of a wallet challenge

A challenge leaves `presented` once and for good, and only its first completion writes a link.
-/

namespace ChecksAndBalances

open Lib Lib.Tx VerusLinkRepository

variable {db db' : Db}

/-! ## One operation -/

/-- The challenge is as it was, or it left `presented` for one of the three final states. -/
def Settles (c c' : WalletChallenge) : Prop :=
  c'.id = c.id ∧ (c' = c ∨ (c.state = .presented ∧
    (c'.state = .consumed ∨ c'.state = .expired ∨ c'.state = .cancelled)))

/-- The tables as their unique indexes leave them. -/
structure KeyedLinks (db : Db) : Prop where
  challenges : (db.walletChallenges.map WalletChallenge.id).Nodup
  requests : (db.walletChallenges.map WalletChallenge.requestId).Nodup
  ids : (db.identityLinks.map VerusIdentityLink.id).Nodup
  references : (db.identityLinks.map VerusIdentityLink.externalReference).Nodup
  owners : (db.identityLinks.map fun l => (l.authAccountId, l.identityAddress)).Nodup

theorem KeyedLinks.of_tables {challenges : List WalletChallenge} {links : List VerusIdentityLink}
    (htables : db'.linkTables = (challenges, links))
    (hchallenges : (challenges.map WalletChallenge.id).Nodup ∧
      (challenges.map WalletChallenge.requestId).Nodup)
    (hlinks : (links.map VerusIdentityLink.id).Nodup ∧
      (links.map VerusIdentityLink.externalReference).Nodup ∧
      (links.map fun l => (l.authAccountId, l.identityAddress)).Nodup) : KeyedLinks db' := by
  obtain ⟨rfl, rfl⟩ := Prod.mk.inj htables
  exact ⟨hchallenges.1, hchallenges.2, hlinks.1, hlinks.2.1, hlinks.2.2⟩

theorem KeyedLinks.congr (h : KeyedLinks db) (htables : db'.linkTables = db.linkTables) :
    KeyedLinks db' :=
  .of_tables htables ⟨h.challenges, h.requests⟩ ⟨h.ids, h.references, h.owners⟩

/-- An update of challenges that keeps their keys. -/
theorem KeyedLinks.set_challenges (h : KeyedLinks db) (p : WalletChallenge → Bool)
    {f : WalletChallenge → WalletChallenge} (hf : ∀ w, (f w).id = w.id)
    (hf' : ∀ w, (f w).requestId = w.requestId) :
    ((Table.set p f db.walletChallenges).map WalletChallenge.id).Nodup ∧
      ((Table.set p f db.walletChallenges).map WalletChallenge.requestId).Nodup :=
  ⟨Table.nodup_set h.challenges hf, Table.nodup_set h.requests hf'⟩

/-- An update of links that keeps their keys. -/
theorem KeyedLinks.set_links (h : KeyedLinks db) (p : VerusIdentityLink → Bool)
    {f : VerusIdentityLink → VerusIdentityLink}
    (hf : ∀ l, (f l).id = l.id ∧ (f l).externalReference = l.externalReference ∧
      (f l).authAccountId = l.authAccountId ∧ (f l).identityAddress = l.identityAddress) :
    ((Table.set p f db.identityLinks).map VerusIdentityLink.id).Nodup ∧
      ((Table.set p f db.identityLinks).map VerusIdentityLink.externalReference).Nodup ∧
      ((Table.set p f db.identityLinks).map fun l => (l.authAccountId, l.identityAddress)).Nodup := by
  refine ⟨Table.nodup_set h.ids fun l => (hf l).1,
    Table.nodup_set h.references fun l => (hf l).2.1, Table.nodup_set h.owners fun l => ?_⟩
  rw [(hf l).2.2.1, (hf l).2.2.2]

theorem KeyedLinks.activated (h : KeyedLinks db) {accountId : Uuid}
    {input : CompleteWalletLinkChallengeInput} {linkReference : String}
    {links : List VerusIdentityLink}
    (hlinks : Activated db.identityLinks accountId input linkReference links) :
    (links.map VerusIdentityLink.id).Nodup ∧
      (links.map VerusIdentityLink.externalReference).Nodup ∧
      (links.map fun l => (l.authAccountId, l.identityAddress)).Nodup := by
  cases hlinks with
  | inserted link hnew =>
    refine ⟨Table.nodup_append h.ids hnew.id, Table.nodup_append h.references fun l hl => ?_,
      Table.nodup_append h.owners fun l hl heq => ?_⟩
    · rw [hnew.reference]
      exact hnew.unused l hl
    · have howner := hnew.owner
      have hother := hnew.unlinked l hl
      simp only [isLinkOf, Bool.and_eq_true, decide_eq_true_eq] at howner
      obtain ⟨haccount, hidentity⟩ := Prod.mk.inj heq
      simp [isLinkOf, haccount, hidentity, howner.1, howner.2] at hother
  | renewed link challenge hlink howner hreference =>
    exact h.set_links _ fun _ => ⟨rfl, rfl, rfl, rfl⟩

/-- Every operation keeps the keys. -/
theorem KeyedLinks.effect (h : KeyedLinks db) {command : LinkCommand} {result : command.Result}
    (heffect : LinkEffect db command result db') : KeyedLinks db' := by
  cases heffect with
  | kept hcommand hquiet hmoved htables => exact h.congr htables
  | created challenge account haccount hreference howner hpresented hissued hfresh htables =>
    exact .of_tables htables
      ⟨Table.nodup_append h.challenges fun w hw => (hfresh w hw).1,
        Table.nodup_append h.requests fun w hw => (hfresh w hw).2⟩
      ⟨h.ids, h.references, h.owners⟩
  | closed challenge state reason hclosed hquiet hmoved hchallenge hpresented hstate htables =>
    exact .of_tables htables (h.set_challenges _ (fun _ => rfl) fun _ => rfl)
      ⟨h.ids, h.references, h.owners⟩
  | completed challenge accountId hfirst hchallenge hpresented hrequest howner hopen hchallenges
      hlinks =>
    have htables := congrArg (fun challenges => (challenges, db'.identityLinks)) hchallenges
    exact .of_tables htables (h.set_challenges _ (fun _ => rfl) fun _ => rfl) (h.activated hlinks)
  | replayed challenge accountId row hreplayed hstate hchallenge hconsumed hrequest howner hrow
      hlink hreference htables =>
    exact h.congr htables
  | unlinked link hlink hreference htables =>
    exact .of_tables htables ⟨h.challenges, h.requests⟩
      (h.set_links _ fun _ => ⟨rfl, rfl, rfl, rfl⟩)
  | suspended htables =>
    exact .of_tables htables ⟨h.challenges, h.requests⟩
      (h.set_links _ fun _ => ⟨rfl, rfl, rfl, rfl⟩)

/-- An update by identifier that moves a presented challenge to a final state. -/
theorem settles_set {challenges : List WalletChallenge} {challenge : WalletChallenge}
    (hids : (challenges.map WalletChallenge.id).Nodup) (hchallenge : challenge ∈ challenges)
    (hpresented : challenge.state = .presented) {f : WalletChallenge → WalletChallenge}
    (hid : ∀ w, (f w).id = w.id)
    (hfinal : (f challenge).state = .consumed ∨ (f challenge).state = .expired ∨
      (f challenge).state = .cancelled) :
    ∀ c ∈ challenges, ∃ c' ∈ Table.set (fun w => w.id = challenge.id) f challenges,
      Settles c c' := by
  intro c hc
  refine ⟨_, Table.mem_set_of_mem hc, ?_⟩
  by_cases hsame : c.id = challenge.id
  · obtain rfl := Table.unique_of_nodup hids c hc challenge hchallenge hsame
    simp only [decide_true, if_true]
    exact ⟨hid c, Or.inr ⟨hpresented, hfinal⟩⟩
  · simp only [hsame, decide_false, Bool.false_eq_true, if_false]
    exact ⟨rfl, Or.inl rfl⟩

/-- Every operation leaves a challenge alone or moves it from `presented` to a final state. -/
theorem settles_of_effect (h : KeyedLinks db) {command : LinkCommand} {result : command.Result}
    (heffect : LinkEffect db command result db') :
    ∀ c ∈ db.walletChallenges, ∃ c' ∈ db'.walletChallenges, Settles c c' := by
  have stay : db'.walletChallenges = db.walletChallenges →
      ∀ c ∈ db.walletChallenges, ∃ c' ∈ db'.walletChallenges, Settles c c' := by
    intro hsame c hc
    exact ⟨c, hsame ▸ hc, rfl, Or.inl rfl⟩
  cases heffect with
  | kept hcommand hquiet hmoved htables => exact stay (Prod.mk.inj htables).1
  | created challenge account haccount hreference howner hpresented hissued hfresh htables =>
    intro c hc
    refine ⟨c, ?_, rfl, Or.inl rfl⟩
    rw [(Prod.mk.inj htables).1]
    exact List.mem_append_left _ hc
  | closed challenge state reason hclosed hquiet hmoved hchallenge hpresented hstate htables =>
    rw [(Prod.mk.inj htables).1]
    exact settles_set h.challenges hchallenge hpresented (fun _ => rfl) (Or.inr hstate)
  | completed challenge accountId hfirst hchallenge hpresented hrequest howner hopen hchallenges
      hlinks =>
    rw [hchallenges]
    exact settles_set h.challenges hchallenge hpresented (fun _ => rfl) (Or.inl rfl)
  | replayed challenge accountId row hreplayed hstate hchallenge hconsumed hrequest howner hrow
      hlink hreference htables => exact stay (Prod.mk.inj htables).1
  | unlinked link hlink hreference htables => exact stay (Prod.mk.inj htables).1
  | suspended htables => exact stay (Prod.mk.inj htables).1

/-! ## The property -/

/-- The operations that move links out of `active`. -/
def LinkCommand.movesLinks : LinkCommand → Bool
  | unlink _ _ _ _ => true
  | requireRevalidation _ _ _ _ => true
  | _ => false

/-- The operation consumed the challenge: it was presented before and is consumed after. -/
def LinkEntry.Consumes (e : LinkEntry) (id : Uuid) : Prop :=
  (∃ c ∈ e.before.walletChallenges, c.id = id ∧ c.state = .presented) ∧
    ∃ c ∈ e.after.walletChallenges, c.id = id ∧ c.state = .consumed

/-- What an operation does to challenges and links.  Only a first completion writes a link, together
with the challenge it consumes, which no earlier operation consumed. -/
structure SingleEffect (earlier : List LinkEntry) (e : LinkEntry) : Prop where
  settles : ∀ c ∈ e.before.walletChallenges, ∃ c' ∈ e.after.walletChallenges, Settles c c'
  kept : e.activated = none → e.command.movesLinks = false →
    e.after.identityLinks = e.before.identityLinks
  activates : ∀ reference, e.activated = some reference →
    ∃ input context challenge accountId, e.command = .completeChallenge input context ∧
      challenge ∈ e.before.walletChallenges ∧ challenge.requestId = some input.requestId ∧
      challenge.authAccountId = some accountId ∧ input.completedAt < challenge.expiresAt ∧
      e.Consumes challenge.id ∧ (∀ e' ∈ earlier, ¬ e'.Consumes challenge.id) ∧
      Activated e.before.identityLinks accountId input reference e.after.identityLinks

/-! ## Runs -/

/-- The keys hold, and a challenge that an operation left in another state than `presented` is still
stored as it was left. -/
structure Settled (s : LinkSystem) : Prop where
  keys : KeyedLinks s.db
  stays : ∀ e ∈ s.log, ∀ c ∈ e.after.walletChallenges, c.state ≠ .presented →
    c ∈ s.db.walletChallenges
  log : Along SingleEffect s.log

theorem settled_of_initial {s : LinkSystem} (h : s.Initial) : Settled s where
  keys := ⟨by simp [h.challenges], by simp [h.challenges], by simp [h.links], by simp [h.links],
    by simp [h.links]⟩
  stays := by simp [h.log]
  log := by
    rw [h.log]
    trivial

/-- A challenge in another state than `presented` stays as it is. -/
theorem stays_of_settles (hsettles : ∀ c ∈ db.walletChallenges, ∃ c' ∈ db'.walletChallenges,
    Settles c c') {c : WalletChallenge} (hc : c ∈ db.walletChallenges)
    (hstate : c.state ≠ .presented) : c ∈ db'.walletChallenges := by
  obtain ⟨c', hc', -, rfl | ⟨hpresented, -⟩⟩ := hsettles c hc
  · exact hc'
  · exact absurd hpresented hstate

theorem singleEffect_of_effect {s : LinkSystem} (h : Settled s) {command : LinkCommand}
    {result : command.Result} (heffect : LinkEffect s.db command result db') :
    SingleEffect s.log { command, result, before := s.db, after := db' } where
  settles := settles_of_effect h.keys heffect
  kept hquiet hmoves := by
    cases heffect with
    | kept hcommand hreported hmoved htables => exact (Prod.mk.inj htables).2
    | created challenge account haccount hreference howner hpresented hissued hfresh htables =>
      exact (Prod.mk.inj htables).2
    | closed challenge state reason hclosed hreported hmoved hchallenge hpresented hstate htables =>
      exact (Prod.mk.inj htables).2
    | completed challenge accountId hfirst hchallenge hpresented hrequest howner hopen hchallenges
        hlinks =>
      simp [LinkEntry.activated, LinkCommand.activated, LinkCommand.reported, hfirst] at hquiet
    | replayed challenge accountId row hreplayed hstate hchallenge hconsumed hrequest howner hrow
      hlink hreference htables => exact (Prod.mk.inj htables).2
    | unlinked link hlink hreference htables => cases hmoves
    | suspended htables => cases hmoves
  activates reference hactivated := by
    cases heffect with
    | kept hcommand hreported hmoved htables =>
      simp [LinkEntry.activated, LinkCommand.activated, hreported] at hactivated
    | closed challenge state reason hclosed hreported hmoved hchallenge hpresented hstate htables =>
      simp [LinkEntry.activated, LinkCommand.activated, hreported] at hactivated
    | created challenge account haccount hreference howner hpresented hissued hfresh htables =>
      cases hactivated
    | completed challenge accountId hfirst hchallenge hpresented hrequest howner hopen hchallenges
        hlinks =>
      simp only [LinkEntry.activated, LinkCommand.activated, LinkCommand.reported, hfirst,
        Option.bind_some, Bool.false_eq_true, if_false, Option.some.injEq] at hactivated
      subst hactivated
      have hconsumed : ∃ c ∈ db'.walletChallenges, c.id = challenge.id ∧ c.state = .consumed := by
        rw [hchallenges]
        exact ⟨_, Table.mem_set.2 (Or.inl ⟨challenge, hchallenge, by simp, rfl⟩), rfl, rfl⟩
      refine ⟨_, _, challenge, accountId, rfl, hchallenge, hrequest, howner, hopen,
        ⟨⟨challenge, hchallenge, rfl, hpresented⟩, hconsumed⟩, ?_, hlinks⟩
      -- an earlier consumption would have left the challenge consumed
      rintro e he ⟨-, c, hc, hid, hstate⟩
      have hc' := h.stays e he c hc (by rw [hstate]; decide)
      obtain rfl := Table.unique_of_nodup h.keys.challenges c hc' challenge hchallenge hid
      rw [hpresented] at hstate
      cases hstate
    | replayed challenge accountId row hreplayed hstate hchallenge hconsumed hrequest howner hrow
      hlink hreference htables =>
      simp [LinkEntry.activated, LinkCommand.activated, LinkCommand.reported, hreplayed]
        at hactivated
    | unlinked link hlink hreference htables => cases hactivated
    | suspended htables => cases hactivated

/-- One step settles challenges, and those that have left `presented` stay. -/
theorem settled_step {s s' : LinkSystem} (h : Settled s) {act : LinkAct}
    (hstep : s.step act = some s') :
    Settled s' ∧ ∀ c ∈ s.db.walletChallenges, c.state ≠ .presented → c ∈ s'.db.walletChallenges := by
  cases act with
  | elsewhere db =>
    simp only [LinkSystem.step] at hstep
    split_ifs at hstep with htables
    obtain rfl := Option.some.inj hstep
    have hsame := (Prod.mk.inj htables).1
    refine ⟨⟨h.keys.congr htables, fun e he c hc hstate => ?_, h.log⟩, fun c hc _ => ?_⟩
    · exact hsame ▸ h.stays e he c hc hstate
    · exact hsame ▸ hc
  | execute command =>
    simp only [LinkSystem.step] at hstep
    split at hstep
    · next result db' hexec =>
      obtain rfl := Option.some.inj hstep
      have heffect := LinkCommand.effect h.keys.ids (show Commits command.exec s.db result db' from
        hexec)
      have hsettles := settles_of_effect h.keys heffect
      refine ⟨⟨h.keys.effect heffect, fun e he c hc hstate => ?_,
        singleEffect_of_effect h heffect, h.log⟩, fun c hc => stays_of_settles hsettles hc⟩
      rcases List.mem_cons.1 he with rfl | he
      · exact hc
      · exact stays_of_settles hsettles (h.stays e he c hc hstate) hstate
    · obtain rfl := Option.some.inj hstep
      exact ⟨h, fun c hc _ => hc⟩

theorem settled_of_reach {s s' : LinkSystem} (h : Settled s)
    (hrun : Reach LinkSystem.step (fun _ _ => True) s s') : Settled s' :=
  hrun.invariant h fun _ _ _ h _ hstep => (settled_step h hstep).1

/-- In every run of the operations, a challenge leaves `presented` at most once, for exactly one of
the final states, and stays there; a link is created or made active only by the first completion of
a challenge of its account, before the expiry and in the same commit; and no replay, poll or
cancellation changes a link. -/
theorem wallet_challenge_single_effect {start s s' : LinkSystem} (hstart : start.Initial)
    (hrun : Reach LinkSystem.step (fun _ _ => True) start s)
    (hlater : Reach LinkSystem.step (fun _ _ => True) s s') :
    Along SingleEffect s.log ∧
      ∀ c ∈ s.db.walletChallenges, c.state ≠ .presented → c ∈ s'.db.walletChallenges := by
  have hsettled := settled_of_reach (settled_of_initial hstart) hrun
  refine ⟨hsettled.log, fun c hc hstate => ?_⟩
  exact (hlater.invariant (I := fun s => Settled s ∧ c ∈ s.db.walletChallenges) ⟨hsettled, hc⟩
    fun _ _ _ h _ hstep => ⟨(settled_step h.1 hstep).1, (settled_step h.1 hstep).2 c h.2 hstate⟩).2

namespace LinkSample

/-- A participant with an active account. -/
def start : LinkSystem :=
  { db := { Db.empty with
      participants := [{ id := 1, externalReference := "participant_one" }]
      authAccounts := [
        { id := 2, externalReference := "account_one", trustDomain := .participant
          state := .active, participantId := some 1, version := 1, lockedAt := none
          suspendedAt := none, recoveredAt := none, closedAt := none }] }
    log := [] }

def context : CommandContext :=
  { actor := { type := "participant", reference := "account_one", authenticationStrength := "passkey" }
    committeeReference := "global-auth", policyVersionReference := "policy_one"
    softwareVersion := "0.0.0", reasonCategory := "wallet_link", correlationId := "correlation_one"
    idempotencyKey := "key_one", requestDigest := "digest" }

/-- A digest of one repeated digit. -/
def digest (digit : Char) : String := String.ofList (List.replicate 64 digit)

/-- A challenge that is issued for five minutes. -/
def create (digit : Char) (issuedAt : ℤ) : LinkAct :=
  .execute (.createChallenge
    { externalReference := "wallet_challenge_" ++ digit.toString
      accountReference := "account_one", trustDomain := .participant, purpose := .linkVerusid
      network := "VRSCTEST", nonceHash := digest digit, requestId := "request_" ++ digit.toString
      requestDigest := digest digit, pollingTokenDigest := digest digit
      audience := "cbc-participant", callbackUrl := "https://app.example/callback"
      applicationIdentityAddress := "iApplication", consentedScopes := ["verusid:link"]
      issuedAt, expiresAt := issuedAt + 300000 } context)

/-- The wallet's proof for the challenge. -/
def proof (digit : Char) (completedAt : ℤ) : CompleteWalletLinkChallengeInput :=
  { requestId := "request_" ++ digit.toString, responseDigest := digest digit
    identityAddress := "iWallet", displayNameSnapshot := none, proofDigest := digest digit
    proofMethod := "hosted_verusid_login_consent_v1", requestSignerIdentity := "iApplication"
    observedIdentityStatus := "active", observedIdentityBlockHeight := 1
    observedIdentityTxid := digest 'f', completedAt }

def complete (digit : Char) (completedAt : ℤ) : LinkAct :=
  .execute (.completeChallenge (proof digit completedAt) context)

/-- The owner unlinks a link. -/
def unlink (linkReference : String) (unlinkedAt : ℤ) : LinkAct :=
  .execute (.unlink "account_one" linkReference unlinkedAt context)

theorem start_initial : start.Initial := ⟨rfl, rfl, rfl⟩

/-- A linked identity, and a second presentation of the same proof. -/
theorem linked_once : ∃ s : LinkSystem, s.log.length = 3 ∧ s.db.identityLinks.length = 1 ∧
    (Along SingleEffect s.log ∧
      ∀ c ∈ s.db.walletChallenges, c.state ≠ .presented → c ∈ s.db.walletChallenges) := by
  obtain ⟨s, hrun, htest⟩ := exists_run_of_any LinkSystem.step start
    [create 'a' 0, complete 'a' 1000, complete 'a' 2000]
    (p := fun s => s.log.length = 3 && s.db.identityLinks.length = 1) (by decide +kernel)
  rw [Bool.and_eq_true, decide_eq_true_eq, decide_eq_true_eq] at htest
  exact ⟨s, htest.1, htest.2, wallet_challenge_single_effect start_initial
    (reach_of_run hrun (allSteps_of_mem (fun _ _ _ => trivial) start)) (Reach.refl s)⟩

end LinkSample

end ChecksAndBalances
