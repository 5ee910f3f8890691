import ChecksAndBalances.Linking.Challenges

/-!
# The state of a link over a run

`unlink` and `requireRevalidation` move a link out of `active` and leave the open challenges of its
account alone; a replayed completion reports `active` without reading the link.  Both are followed
through the moves of a link since a completion last left it active.
-/

namespace ChecksAndBalances

open Lib Lib.Tx VerusLinkRepository

/-! ## What an operation does to a link -/

section Fates

variable {s : LinkSystem} {command : LinkCommand} {result : command.Result} {db' : Db}

/-- A link after an operation: it was there before and was not touched, a first completion left it
active, or it was moved. -/
inductive Fate (before : List VerusIdentityLink) (e : LinkEntry) (l' : VerusIdentityLink) : Prop
  | kept (hl : l' ∈ before) (hactivated : e.activated ≠ some l'.externalReference)
      (hmoved : e.movedAt l'.externalReference = none)
  | activated (hstate : l'.state = .active) (hactivated : e.activated = some l'.externalReference)
  | moved (l : VerusIdentityLink) (t : ℤ) (hl : l ∈ before)
      (hreference : l'.externalReference = l.externalReference)
      (howner : l'.authAccountId = l.authAccountId) (hstate : l'.state ≠ .active)
      (hactivated : e.activated = none) (hmoved : e.movedAt l'.externalReference = some t)

theorem movesSinceActive_kept {e : LinkEntry} {reference : String} {log : List LinkEntry}
    (hactivated : e.activated ≠ some reference) (hmoved : e.movedAt reference = none) :
    movesSinceActive reference (e :: log) = movesSinceActive reference log := by
  simp [movesSinceActive, hactivated, hmoved]

theorem movesSinceActive_activated {e : LinkEntry} {reference : String} {log : List LinkEntry}
    (h : e.activated = some reference) : movesSinceActive reference (e :: log) = [] := by
  simp [movesSinceActive, h]

theorem movesSinceActive_moved {e : LinkEntry} {reference : String} {log : List LinkEntry} {t : ℤ}
    (hactivated : e.activated = none) (hmoved : e.movedAt reference = some t) :
    movesSinceActive reference (e :: log) = t :: movesSinceActive reference log := by
  simp [movesSinceActive, hactivated, hmoved]

theorem fate_of_effect (h : KeyedLinks s.db) (heffect : LinkEffect s.db command result db') :
    ∀ l' ∈ db'.identityLinks, Fate s.db.identityLinks
      { command, result, before := s.db, after := db' } l' := by
  have same : db'.identityLinks = s.db.identityLinks → command.reported result = none →
      (∀ reference, command.movedAt s.db reference = none) → ∀ l' ∈ db'.identityLinks,
      Fate s.db.identityLinks { command, result, before := s.db, after := db' } l' := by
    intro hlinks hquiet hmoved l' hl'
    refine .kept (hlinks ▸ hl') ?_ (hmoved _)
    simp [LinkEntry.activated, LinkCommand.activated, hquiet]
  cases heffect with
  | kept hcommand hquiet hmoved htables => exact same (Prod.mk.inj htables).2 hquiet hmoved
  | created challenge account haccount hreference howner hpresented hissued hfresh htables =>
    exact same (Prod.mk.inj htables).2 rfl fun _ => rfl
  | closed challenge state reason hclosed hquiet hmoved hchallenge hpresented hstate htables =>
    exact same (Prod.mk.inj htables).2 hquiet hmoved
  | completed challenge accountId hfirst hchallenge hpresented hrequest howner hopen hchallenges
      hlinks =>
    next input context link =>
    have hactivated : LinkCommand.activated (.completeChallenge input context)
        (WalletLinkCompletion.completed link) = some link.linkReference := by
      simp [LinkCommand.activated, LinkCommand.reported, hfirst]
    intro l' hl'
    by_cases hreference : l'.externalReference = link.linkReference
    · refine .activated ?_ (by rw [hreference]; exact hactivated)
      generalize db'.identityLinks = links at hlinks hl'
      cases hlinks with
      | inserted row hnew =>
        rcases List.mem_append.1 hl' with hold | hrow
        · exact absurd hreference (hnew.unused l' hold)
        · rw [List.mem_singleton.1 hrow]
          exact hnew.state
      | renewed row challenge' hrow hrow_owner hrow_reference =>
        rcases Table.mem_set.1 hl' with ⟨l, _, _, rfl⟩ | ⟨hold, hother⟩
        · rfl
        · rw [← hrow_reference] at hreference
          obtain rfl := Table.unique_of_nodup h.references l' hold row hrow hreference
          simp at hother
    · refine .kept ?_ ?_ rfl
      · generalize db'.identityLinks = links at hlinks hl'
        cases hlinks with
        | inserted row hnew =>
          rcases List.mem_append.1 hl' with hold | hrow
          · exact hold
          · rw [List.mem_singleton.1 hrow] at hreference
            exact absurd hnew.reference hreference
        | renewed row challenge' hrow hrow_owner hrow_reference =>
          rcases Table.mem_set.1 hl' with ⟨l, hl, hid, rfl⟩ | ⟨hold, -⟩
          · obtain rfl := Table.unique_of_nodup h.ids l hl row hrow (of_decide_eq_true hid)
            exact absurd hrow_reference hreference
          · exact hold
      · rw [LinkEntry.activated, hactivated]
        exact fun heq => hreference (Option.some.inj heq).symm
  | replayed challenge accountId row hreplayed hstate hchallenge hconsumed hrequest howner hrow
      hlink hreference htables =>
    intro l' hl'
    refine .kept ((Prod.mk.inj htables).2 ▸ hl') ?_ rfl
    simp [LinkEntry.activated, LinkCommand.activated, LinkCommand.reported, hreplayed]
  | unlinked link hlink hreference htables =>
    next unlinkedAt _ _ =>
    intro l' hl'
    rw [(Prod.mk.inj htables).2] at hl'
    rcases Table.mem_set.1 hl' with ⟨l, hl, hid, rfl⟩ | ⟨hold, hother⟩
    · obtain rfl := Table.unique_of_nodup h.ids l hl link hlink (of_decide_eq_true hid)
      refine .moved l unlinkedAt hl rfl rfl (by simp [unlinkedRow]) rfl ?_
      simp [LinkEntry.movedAt, LinkCommand.movedAt, unlinkedRow, hreference]
    · refine .kept hold (by rintro ⟨⟩) ?_
      have hreferences : l'.externalReference ≠ link.externalReference := by
        intro heq
        obtain rfl := Table.unique_of_nodup h.references l' hold link hlink heq
        simp at hother
      rw [hreference] at hreferences
      simp [LinkEntry.movedAt, LinkCommand.movedAt, hreferences.symm]
  | suspended htables =>
    next observedAt _ _ =>
    intro l' hl'
    rw [(Prod.mk.inj htables).2] at hl'
    rcases Table.mem_set.1 hl' with ⟨l, hl, hselected, rfl⟩ | ⟨hold, hother⟩
    · refine .moved l observedAt hl rfl rfl (by simp [suspendedRow]) rfl (if_pos ?_)
      rw [List.any_eq_true]
      exact ⟨l, hl, by simpa [suspendedRow] using hselected⟩
    · refine .kept hold (by rintro ⟨⟩) (if_neg ?_)
      rw [List.any_eq_true]
      rintro ⟨l, hl, hselected⟩
      simp only [Bool.and_eq_true, decide_eq_true_eq] at hselected
      obtain ⟨⟨hreference, hidentity⟩, hstate⟩ := hselected
      obtain rfl := Table.unique_of_nodup h.references l hl l' hold hreference
      simp [hidentity, hstate] at hother

/-- A link is active exactly when it has not been moved since a completion left it active. -/
def Standing (log : List LinkEntry) (db : Db) : Prop :=
  ∀ l ∈ db.identityLinks, l.state = .active ↔ movesSinceActive l.externalReference log = []

theorem standing_of_effect (hkeys : KeyedLinks s.db) (h : Standing s.log s.db)
    (heffect : LinkEffect s.db command result db') :
    Standing ({ command, result, before := s.db, after := db' } :: s.log) db' := by
  intro l' hl'
  cases fate_of_effect hkeys heffect l' hl' with
  | kept hl hactivated hmoved =>
    rw [movesSinceActive_kept hactivated hmoved]
    exact h l' hl
  | activated hstate hactivated => simp [hstate, movesSinceActive_activated hactivated]
  | moved l t hl hreference howner hstate hactivated hmoved =>
    simp [hstate, movesSinceActive_moved hactivated hmoved]

/-- Two challenges of one request are the same. -/
theorem KeyedLinks.challenge_eq (h : KeyedLinks s.db) {challenge c : WalletChallenge}
    {requestId : String} (hchallenge : challenge ∈ s.db.walletChallenges)
    (hrequest : challenge.requestId = some requestId) (hc : c ∈ s.db.walletChallenges)
    (hc_request : c.requestId = some requestId) : c = challenge := by
  rw [← hrequest] at hc_request
  exact Table.unique_of_nodup h.requests c hc challenge hchallenge hc_request

/-- Two links of one account and identity are the same. -/
theorem KeyedLinks.link_eq (h : KeyedLinks s.db) {accountId : Uuid} {identityAddress : String}
    {l l' : VerusIdentityLink} (hl : l ∈ s.db.identityLinks) (hl' : l' ∈ s.db.identityLinks)
    (howner : isLinkOf accountId identityAddress l = true)
    (howner' : isLinkOf accountId identityAddress l' = true) : l = l' := by
  simp only [isLinkOf, Bool.and_eq_true, decide_eq_true_eq] at howner howner'
  refine Table.unique_of_nodup h.owners l hl l' hl' ?_
  simp only [howner.1, howner.2, howner'.1, howner'.2]

/-- A first completion leaves the link it reports active. -/
theorem Activated.exists_active {links links' : List VerusIdentityLink} {accountId : Uuid}
    {input : CompleteWalletLinkChallengeInput} {linkReference : String}
    (h : Activated links accountId input linkReference links') :
    ∃ l ∈ links', l.externalReference = linkReference ∧ l.state = .active := by
  cases h with
  | inserted link hnew =>
    exact ⟨link, List.mem_append_right _ (List.mem_singleton_self _), hnew.reference, hnew.state⟩
  | renewed link challenge hlink howner hreference =>
    exact ⟨_, Table.mem_set.2 (Or.inl ⟨link, hlink, by simp, rfl⟩), hreference, rfl⟩

/-- A stored link is the one that a first completion leaves active exactly when it is the link of the
account and the identity. -/
theorem KeyedLinks.activates_iff (h : KeyedLinks s.db) {accountId : Uuid}
    {input : CompleteWalletLinkChallengeInput} {linkReference : String}
    {links : List VerusIdentityLink}
    (hlinks : Activated s.db.identityLinks accountId input linkReference links)
    {l : VerusIdentityLink} (hl : l ∈ s.db.identityLinks) :
    l.externalReference = linkReference ↔ isLinkOf accountId input.identityAddress l = true := by
  cases hlinks with
  | inserted link hnew =>
    exact iff_of_false (hnew.unused l hl) (by simp [hnew.unlinked l hl])
  | renewed link challenge hlink howner hreference =>
    constructor
    · intro heq
      rw [← hreference] at heq
      rwa [Table.unique_of_nodup h.references l hl link hlink heq]
    · intro howner_l
      rw [h.link_eq hl hlink howner_l howner, hreference]

end Fates

/-! ## The reported state -/

/-- A completion that reports a link as active finds it stored so. -/
def ReportsStored (_earlier : List LinkEntry) (e : LinkEntry) : Prop :=
  ∀ link, e.command.reported e.result = some link → link.state = .active →
    ∃ l ∈ e.after.identityLinks, l.externalReference = link.linkReference ∧ l.state = .active

/-- The completion of a consumed challenge is repeated only while its link has not been moved since
a completion left it active. -/
def ReplaysCurrent (earlier : List LinkEntry) (e : LinkEntry) : Prop :=
  ∀ input context, e.command = .completeChallenge input context →
    ∀ c ∈ e.before.walletChallenges, c.requestId = some input.requestId → c.state = .consumed →
      ∀ accountId, c.authAccountId = some accountId → ∀ l ∈ e.before.identityLinks,
        isLinkOf accountId input.identityAddress l = true →
          movesSinceActive l.externalReference earlier = []

/-! ## The ceremony -/

/-- A link that is not active becomes active only through a completion that consumes a challenge
issued no earlier than any move of the link since it was last active. -/
def FreshCeremony (earlier : List LinkEntry) (e : LinkEntry) : Prop :=
  ∀ l ∈ e.before.identityLinks, l.state ≠ .active → ∀ l' ∈ e.after.identityLinks,
    l'.externalReference = l.externalReference → l'.state = .active →
      ∃ input context c issuedAt, e.command = .completeChallenge input context ∧
        c ∈ e.before.walletChallenges ∧ c.requestId = some input.requestId ∧ e.Consumes c.id ∧
        c.issuedAt = some issuedAt ∧
        ∀ t ∈ movesSinceActive l.externalReference earlier, t ≤ issuedAt

/-- No open challenge is completed for a link that was moved after the challenge was issued. -/
def CompletesFresh (earlier : List LinkEntry) (e : LinkEntry) : Prop :=
  ∀ input context, e.command = .completeChallenge input context →
    ∀ c ∈ e.before.walletChallenges, c.requestId = some input.requestId → c.state = .presented →
      input.completedAt < c.expiresAt → ∀ accountId, c.authAccountId = some accountId →
        ∀ l ∈ e.before.identityLinks, isLinkOf accountId input.identityAddress l = true →
          ∀ t ∈ movesSinceActive l.externalReference earlier,
            ∃ issuedAt, c.issuedAt = some issuedAt ∧ t ≤ issuedAt

section Entries

variable {s : LinkSystem} {command : LinkCommand} {result : command.Result} {db' : Db}

/-- A completion reports what is stored exactly when it does not repeat a completion whose link has
been moved. -/
theorem reports_iff_of_effect (hkeys : KeyedLinks s.db) (h : Standing s.log s.db)
    (heffect : LinkEffect s.db command result db') :
    ReportsStored s.log { command, result, before := s.db, after := db' } ↔
      ReplaysCurrent s.log { command, result, before := s.db, after := db' } := by
  have silent : command.reported result = none →
      ReportsStored s.log { command, result, before := s.db, after := db' } := by
    intro hquiet link hlink
    rw [hquiet] at hlink
    cases hlink
  -- a presented challenge has no consumed one of the same request beside it
  have unrepeated : ∀ challenge ∈ s.db.walletChallenges, challenge.state = .presented →
      (∀ input context, command = .completeChallenge input context →
        challenge.requestId = some input.requestId) →
      ReplaysCurrent s.log { command, result, before := s.db, after := db' } := by
    intro challenge hchallenge hpresented hrequest input context heq c hc hc_request hconsumed
    obtain rfl := hkeys.challenge_eq hchallenge (hrequest input context heq) hc hc_request
    rw [hpresented] at hconsumed
    cases hconsumed
  cases heffect with
  | kept hcommand hquiet hmoved htables =>
    exact iff_of_true (silent hquiet) fun input context heq => absurd heq (hcommand input context)
  | created challenge account haccount hreference howner hpresented hissued hfresh htables =>
    exact iff_of_true (silent rfl) (by rintro _ _ ⟨⟩)
  | closed challenge state reason hclosed hquiet hmoved hchallenge hpresented hstate htables =>
    exact iff_of_true (silent hquiet) (unrepeated challenge hchallenge hpresented
      fun input context heq => (hclosed input context heq).1)
  | completed challenge accountId hfirst hchallenge hpresented hrequest howner hopen hchallenges
      hlinks =>
    refine iff_of_true ?_ (unrepeated challenge hchallenge hpresented ?_)
    · rintro link ⟨⟩ -
      exact hlinks.exists_active
    · rintro _ _ ⟨⟩
      exact hrequest
  | replayed challenge accountId row hreplayed hstate hchallenge hconsumed hrequest howner hrow
      hlink hreference htables =>
    next input context link =>
    have hlinks := (Prod.mk.inj htables).2
    constructor
    · rintro hstored _ _ ⟨⟩ c hc hc_request - accountId' hc_owner l hl hl_owner
      obtain rfl := hkeys.challenge_eq hchallenge hrequest hc hc_request
      obtain rfl := Option.some.inj (howner.symm.trans hc_owner)
      obtain rfl := hkeys.link_eq hl hrow hl_owner hlink
      obtain ⟨l', hl', hsame, hactive⟩ := hstored link rfl hstate
      rw [hlinks] at hl'
      rw [← hreference] at hsame
      obtain rfl := Table.unique_of_nodup hkeys.references l' hl' l hl hsame
      exact (h l' hl').1 hactive
    · rintro hcurrent _ ⟨⟩ -
      have hmoves := hcurrent input context rfl challenge hchallenge hrequest hconsumed accountId
        howner row hrow hlink
      exact ⟨row, hlinks ▸ hrow, hreference, (h row hrow).2 hmoves⟩
  | unlinked link hlink hreference htables => exact iff_of_true (silent rfl) (by rintro _ _ ⟨⟩)
  | suspended htables => exact iff_of_true (silent rfl) (by rintro _ _ ⟨⟩)

/-- A link that is active after an operation and was not before is the link of a first completion. -/
theorem activated_of_fate (hkeys : KeyedLinks s.db) {e : LinkEntry} {l l' : VerusIdentityLink}
    (h : Fate s.db.identityLinks e l') (hl : l ∈ s.db.identityLinks) (hstate : l.state ≠ .active)
    (hreference : l'.externalReference = l.externalReference) (hactive : l'.state = .active) :
    e.activated = some l.externalReference := by
  cases h with
  | kept hl' hactivated hmoved =>
    obtain rfl := Table.unique_of_nodup hkeys.references l' hl' l hl hreference
    exact absurd hactive hstate
  | activated _ hactivated => rw [← hreference, hactivated]
  | moved _ _ _ _ _ hmoved_state => exact absurd hactive hmoved_state

/-- Moved links are reactivated by fresh ceremonies exactly when no challenge is completed for a link
that was moved after its issue. -/
theorem fresh_iff_of_effect (hkeys : KeyedLinks s.db) (h : Standing s.log s.db)
    (heffect : LinkEffect s.db command result db') :
    FreshCeremony s.log { command, result, before := s.db, after := db' } ↔
      CompletesFresh s.log { command, result, before := s.db, after := db' } := by
  have fates := fate_of_effect hkeys heffect
  have unmoved : LinkCommand.activated command result = none →
      FreshCeremony s.log { command, result, before := s.db, after := db' } := by
    intro hnone l hl hstate l' hl' hreference hactive
    have hactivated := activated_of_fate hkeys (fates l' hl') hl hstate hreference hactive
    rw [LinkEntry.activated, hnone] at hactivated
    cases hactivated
  cases heffect with
  | kept hcommand hquiet hmoved htables =>
    exact iff_of_true (unmoved (by simp [LinkCommand.activated, hquiet])) fun input context heq =>
      absurd heq (hcommand input context)
  | created challenge account haccount hreference howner hpresented hissued hfresh htables =>
    exact iff_of_true (unmoved rfl) (by rintro _ _ ⟨⟩)
  | closed challenge state reason hclosed hquiet hmoved hchallenge hpresented hstate htables =>
    refine iff_of_true (unmoved (by simp [LinkCommand.activated, hquiet])) ?_
    intro input context heq c hc hc_request _ hopen
    obtain ⟨hrequest, hexpired⟩ := hclosed input context heq
    obtain rfl := hkeys.challenge_eq hchallenge hrequest hc hc_request
    exact absurd hopen (not_lt.2 hexpired)
  | completed challenge accountId hfirst hchallenge hpresented hrequest howner hopen hchallenges
      hlinks =>
    next input context link =>
    have hactivated : LinkCommand.activated (.completeChallenge input context)
        (WalletLinkCompletion.completed link) = some link.linkReference := by
      simp [LinkCommand.activated, LinkCommand.reported, hfirst]
    constructor
    · rintro hfresh _ _ ⟨⟩ c hc hc_request - - accountId' hc_owner l hl hl_owner t ht
      obtain rfl := hkeys.challenge_eq hchallenge hrequest hc hc_request
      obtain rfl := Option.some.inj (howner.symm.trans hc_owner)
      have hreference := (hkeys.activates_iff hlinks hl).2 hl_owner
      have hstate : l.state ≠ .active := fun hactive => by
        rw [(h l hl).1 hactive] at ht
        cases ht
      obtain ⟨l', hl', hl'_reference, hl'_active⟩ := hlinks.exists_active
      obtain ⟨_, _, c', issuedAt, ⟨⟩, hc', hc'_request, -, hissued, hmoves⟩ := hfresh l hl hstate l'
        hl' (hl'_reference.trans hreference.symm) hl'_active
      obtain rfl := hkeys.challenge_eq hc hc_request hc' hc'_request
      exact ⟨issuedAt, hissued, hmoves t ht⟩
    · intro hcompletes l hl hstate l' hl' hreference hactive
      have hsame := activated_of_fate hkeys (fates l' hl') hl hstate hreference hactive
      rw [LinkEntry.activated, hactivated] at hsame
      have hl_owner := (hkeys.activates_iff hlinks hl).1 (Option.some.inj hsame).symm
      have hmoves := hcompletes input context rfl challenge hchallenge hrequest hpresented hopen
        accountId howner l hl hl_owner
      -- the link has been moved, so the challenge carries its time of issue
      obtain ⟨t, ht⟩ := List.exists_mem_of_ne_nil _ fun hnil => hstate ((h l hl).2 hnil)
      obtain ⟨issuedAt, hissued, -⟩ := hmoves t ht
      refine ⟨input, context, challenge, issuedAt, rfl, hchallenge, hrequest,
        ⟨⟨challenge, hchallenge, rfl, hpresented⟩, ?_⟩, hissued, fun t' ht' => ?_⟩
      · rw [hchallenges]
        exact ⟨_, Table.mem_set.2 (Or.inl ⟨challenge, hchallenge, by simp, rfl⟩), rfl, rfl⟩
      · obtain ⟨issuedAt', hissued', hle⟩ := hmoves t' ht'
        rw [hissued] at hissued'
        rwa [Option.some.inj hissued']
  | replayed challenge accountId row hreplayed hstate hchallenge hconsumed hrequest howner hrow
      hlink hreference htables =>
    refine iff_of_true (unmoved (by simp [LinkCommand.activated, LinkCommand.reported, hreplayed]))
      ?_
    rintro _ _ ⟨⟩ c hc hc_request hpresented
    obtain rfl := hkeys.challenge_eq hchallenge hrequest hc hc_request
    rw [hconsumed] at hpresented
    cases hpresented
  | unlinked link hlink hreference htables => exact iff_of_true (unmoved rfl) (by rintro _ _ ⟨⟩)
  | suspended htables => exact iff_of_true (unmoved rfl) (by rintro _ _ ⟨⟩)

end Entries

/-! ## Runs -/

/-- The keys hold, links stand as the history says, and so do the two equivalences. -/
structure Followed (s : LinkSystem) : Prop where
  keys : KeyedLinks s.db
  standing : Standing s.log s.db
  reports : Along (fun earlier e => ReportsStored earlier e ↔ ReplaysCurrent earlier e) s.log
  fresh : Along (fun earlier e => FreshCeremony earlier e ↔ CompletesFresh earlier e) s.log

theorem followed_of_initial {s : LinkSystem} (h : s.Initial) : Followed s where
  keys := (settled_of_initial h).keys
  standing := by simp [Standing, h.links]
  reports := by
    rw [h.log]
    trivial
  fresh := by
    rw [h.log]
    trivial

theorem followed_step {s s' : LinkSystem} (h : Followed s) {act : LinkAct}
    (hstep : s.step act = some s') : Followed s' := by
  cases act with
  | elsewhere db =>
    simp only [LinkSystem.step] at hstep
    split_ifs at hstep with htables
    obtain rfl := Option.some.inj hstep
    refine ⟨h.keys.congr htables, fun l hl => h.standing l ?_, h.reports, h.fresh⟩
    exact (Prod.mk.inj htables).2 ▸ hl
  | execute command =>
    simp only [LinkSystem.step] at hstep
    split at hstep
    · next result db' hexec =>
      obtain rfl := Option.some.inj hstep
      have heffect := LinkCommand.effect h.keys.ids (show Commits command.exec s.db result db' from
        hexec)
      exact ⟨h.keys.effect heffect, standing_of_effect h.keys h.standing heffect,
        ⟨reports_iff_of_effect h.keys h.standing heffect, h.reports⟩,
        fresh_iff_of_effect h.keys h.standing heffect, h.fresh⟩
    · obtain rfl := Option.some.inj hstep
      exact h

theorem followed_of_reach {start s : LinkSystem} (hstart : start.Initial)
    (hrun : Reach LinkSystem.step (fun _ _ => True) start s) : Followed s :=
  hrun.invariant (followed_of_initial hstart) fun _ _ _ h _ hstep => followed_step h hstep

/-- Along every run, completions report the stored state exactly when none is repeated for a link
that was moved since it was last active. -/
theorem reported_link_state_stored_iff {start s : LinkSystem} (hstart : start.Initial)
    (hrun : Reach LinkSystem.step (fun _ _ => True) start s) :
    Along ReportsStored s.log ↔ Along ReplaysCurrent s.log :=
  Along.congr (followed_of_reach hstart hrun).reports

namespace LinkSample

/-- A proof is completed, the link is unlinked, and the proof is presented again. -/
def repeated : List LinkAct :=
  [create 'a' 0, complete 'a' 1000, unlink "verus_link_103" 2000, complete 'a' 3000]

/-- The last completion reports a link that no row stores as active. -/
def reportsMoved (s : LinkSystem) : Bool :=
  s.log.head?.any fun e => (e.command.reported e.result).any fun link =>
    link.state = .active && e.after.identityLinks.all fun l => l.state ≠ .active

theorem not_reportsStored {s : LinkSystem} (h : reportsMoved s = true) :
    ¬ Along ReportsStored s.log := by
  intro halong
  obtain ⟨e, hhead, htest⟩ := (Option.any_eq_true _ _).1 h
  obtain ⟨earlier, hlog⟩ := List.head?_eq_some_iff.1 hhead
  obtain ⟨link, hlink, htest⟩ := (Option.any_eq_true _ _).1 htest
  simp only [Bool.and_eq_true, decide_eq_true_eq, List.all_eq_true] at htest
  rw [hlog] at halong
  obtain ⟨l, hl, -, hactive⟩ := halong.1 link hlink htest.1
  exact htest.2 l hl hactive

theorem reach_repeated : ∃ s : LinkSystem, Reach LinkSystem.step (fun _ _ => True) start s ∧
    s.log.length = 4 ∧ reportsMoved s = true := by
  obtain ⟨s, hrun, htest⟩ := exists_run_of_any LinkSystem.step start repeated
    (p := fun s => s.log.length = 4 && reportsMoved s) (by decide +kernel)
  obtain ⟨hlength, hmoved⟩ := Bool.and_eq_true_iff.1 htest
  exact ⟨s, reach_of_run hrun (allSteps_of_mem (fun _ _ _ => trivial) start),
    of_decide_eq_true hlength, hmoved⟩

theorem repeated_report : ∃ s : LinkSystem, start.Initial ∧
    Reach LinkSystem.step (fun _ _ => True) start s ∧ ¬ Along ReportsStored s.log := by
  obtain ⟨s, hreach, -, hmoved⟩ := reach_repeated
  exact ⟨s, start_initial, hreach, not_reportsStored hmoved⟩

theorem repeated_report_iff : ∃ s : LinkSystem, s.log.length = 4 ∧
    (Along ReportsStored s.log ↔ Along ReplaysCurrent s.log) := by
  obtain ⟨s, hreach, hlength, -⟩ := reach_repeated
  exact ⟨s, hlength, reported_link_state_stored_iff start_initial hreach⟩

end LinkSample

/-- Along every run, moved links become active only through challenges issued no earlier than the
moves exactly when no open challenge is completed for a link that was moved after its issue. -/
theorem fresh_ceremony_iff {start s : LinkSystem} (hstart : start.Initial)
    (hrun : Reach LinkSystem.step (fun _ _ => True) start s) :
    Along FreshCeremony s.log ↔ Along CompletesFresh s.log :=
  Along.congr (followed_of_reach hstart hrun).fresh

namespace LinkSample

/-- Two challenges are open; one is completed, its link is unlinked, and the other is completed. -/
def overtaken : List LinkAct :=
  [create 'a' 0, create 'b' 0, complete 'b' 1000, unlink "verus_link_105" 2000, complete 'a' 3000]

/-- The last operation reactivates a link that was moved after every challenge was issued. -/
def reactivatesStale (s : LinkSystem) : Bool :=
  match s.log with
  | [] => false
  | e :: earlier => e.before.identityLinks.any fun l => l.state ≠ .active &&
      (e.after.identityLinks.any fun l' =>
        l'.externalReference = l.externalReference && l'.state = .active) &&
      (movesSinceActive l.externalReference earlier).any fun t =>
        e.before.walletChallenges.all fun c => c.issuedAt.all fun issuedAt => issuedAt < t

theorem not_freshCeremony {s : LinkSystem} (h : reactivatesStale s = true) :
    ¬ Along FreshCeremony s.log := by
  intro halong
  unfold reactivatesStale at h
  split at h
  · cases h
  · next e earlier hlog =>
    rw [hlog] at halong
    simp only [List.any_eq_true, Bool.and_eq_true, decide_eq_true_eq, List.all_eq_true] at h
    obtain ⟨l, hl, ⟨hstate, l', hl', hreference, hactive⟩, t, ht, hissued⟩ := h
    obtain ⟨_, _, c, issuedAt, -, hc, -, -, hc_issued, hmoves⟩ :=
      halong.1 l hl hstate l' hl' hreference hactive
    have hbefore := hissued c hc
    rw [hc_issued] at hbefore
    exact absurd (hmoves t ht) (not_le.2 (by simpa using hbefore))

theorem reach_overtaken : ∃ s : LinkSystem, Reach LinkSystem.step (fun _ _ => True) start s ∧
    s.log.length = 5 ∧ reactivatesStale s = true := by
  obtain ⟨s, hrun, htest⟩ := exists_run_of_any LinkSystem.step start overtaken
    (p := fun s => s.log.length = 5 && reactivatesStale s) (by decide +kernel)
  obtain ⟨hlength, hstale⟩ := Bool.and_eq_true_iff.1 htest
  exact ⟨s, reach_of_run hrun (allSteps_of_mem (fun _ _ _ => trivial) start),
    of_decide_eq_true hlength, hstale⟩

theorem overtaken_unlink : ∃ s : LinkSystem, start.Initial ∧
    Reach LinkSystem.step (fun _ _ => True) start s ∧ ¬ Along FreshCeremony s.log := by
  obtain ⟨s, hreach, -, hstale⟩ := reach_overtaken
  exact ⟨s, start_initial, hreach, not_freshCeremony hstale⟩

theorem overtaken_unlink_iff : ∃ s : LinkSystem, s.log.length = 5 ∧
    (Along FreshCeremony s.log ↔ Along CompletesFresh s.log) := by
  obtain ⟨s, hreach, hlength, -⟩ := reach_overtaken
  exact ⟨s, hlength, fresh_ceremony_iff start_initial hreach⟩

end LinkSample

end ChecksAndBalances
