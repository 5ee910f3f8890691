import ChecksAndBalances.Auth.EmailChange

/-!
# Changes to a free address

A replaced contact is disabled and keeps its row, and the index on the lookup digests covers disabled
rows too.  So an account can change to an address exactly as long as no account ever had it.
-/

namespace ChecksAndBalances

open Lib Lib.Tx AuthRepository

/-! ## Whose the rows are -/

/-- The accounts are unique, and every contact and every challenge is that of an account: of its
participant and of its trust domain. -/
structure Db.Owned (db : Db) : Prop where
  ids : (db.authAccounts.map AuthAccount.id).Nodup
  references : (db.authAccounts.map AuthAccount.externalReference).Nodup
  contacts : ∀ c ∈ db.contactPreferences, ∃ a ∈ db.authAccounts,
    a.id = c.authAccountId ∧ a.participantId = c.participantId
  challenges : ∀ c ∈ db.authChallenges, ∀ id, c.accountId = some id → ∃ a ∈ db.authAccounts,
    a.id = id ∧ a.trustDomain = c.trustDomain

section Owned

variable {db db' : Db}

theorem find?_account (hids : (db.authAccounts.map AuthAccount.id).Nodup) {account : AuthAccount}
    (h : account ∈ db.authAccounts) :
    db.authAccounts.find? (fun a => a.id = account.id) = some account :=
  (Table.unique_of_nodup hids).find?_eq h

theorem enforceAuthSubjectMatch_iff (hids : (db.authAccounts.map AuthAccount.id).Nodup)
    {account : AuthAccount} (h : account ∈ db.authAccounts) {c : ContactPreference}
    (hc : account.id = c.authAccountId) :
    enforceAuthSubjectMatch db.authAccounts c = .ok () ↔ account.participantId = c.participantId := by
  unfold enforceAuthSubjectMatch
  rw [← hc, find?_account hids h, Option.bind_some]
  by_cases hparticipant : account.participantId = c.participantId
  · simp [hparticipant]
  · simp [hparticipant]

theorem enforceAuthTrustDomainMatch_iff (hids : (db.authAccounts.map AuthAccount.id).Nodup)
    {c : AuthChallenge} :
    enforceAuthTrustDomainMatch db.authAccounts c = .ok () ↔
      ∀ id, c.accountId = some id → ∃ a ∈ db.authAccounts, a.id = id ∧ a.trustDomain = c.trustDomain := by
  unfold enforceAuthTrustDomainMatch
  cases c.accountId with
  | none => simp
  | some accountId =>
    simp only [Option.some.injEq, forall_eq']
    split_ifs with h
    · simp only [true_iff]
      obtain ⟨a, ha, hdomain⟩ := Option.map_eq_some_iff.1 h
      obtain ⟨hmem, hid⟩ := Table.mem_of_find? ha
      exact ⟨a, hmem, of_decide_eq_true hid, hdomain⟩
    · simp only [false_iff]
      rintro ⟨a, ha, rfl, hdomain⟩
      exact h (by rw [find?_account hids ha, Option.map_some, hdomain])

/-- Updates of the states of accounts change no ownership. -/
theorem Db.Owned.congr (h : db.Owned) (hsame : db'.ownership = db.ownership) : db'.Owned := by
  simp only [Db.ownership, Prod.mk.injEq] at hsame
  obtain ⟨hsubjects, hcontacts, hchallenges⟩ := hsame
  have hids : db'.authAccounts.map AuthAccount.id = db.authAccounts.map AuthAccount.id := by
    have hmap := congrArg (List.map AccountSubject.id) hsubjects
    rwa [List.map_map, List.map_map] at hmap
  have hreferences : db'.authAccounts.map AuthAccount.externalReference =
      db.authAccounts.map AuthAccount.externalReference := by
    have hmap := congrArg (List.map AccountSubject.externalReference) hsubjects
    rwa [List.map_map, List.map_map] at hmap
  have hmem : ∀ a ∈ db.authAccounts, ∃ a' ∈ db'.authAccounts, a'.subject = a.subject := by
    intro a ha
    rw [← List.mem_map, hsubjects]
    exact List.mem_map_of_mem ha
  refine ⟨hids ▸ h.ids, hreferences ▸ h.references, ?_, ?_⟩
  · intro c hc
    rw [hcontacts] at hc
    obtain ⟨a, ha, hid, hparticipant⟩ := h.contacts c hc
    obtain ⟨a', ha', hsubject⟩ := hmem a ha
    exact ⟨a', ha', (congrArg AccountSubject.id hsubject).trans hid,
      (congrArg AccountSubject.participantId hsubject).trans hparticipant⟩
  · intro c hc id hid
    rw [hchallenges] at hc
    obtain ⟨a, ha, hid, hdomain⟩ := h.challenges c hc id hid
    obtain ⟨a', ha', hsubject⟩ := hmem a ha
    exact ⟨a', ha', (congrArg AccountSubject.id hsubject).trans hid,
      (congrArg AccountSubject.trustDomain hsubject).trans hdomain⟩

theorem Db.Owned.createAccount (h : db.Owned) {input : CreateAuthAccountInput}
    (hcommit : Commits (createAccount input) db () db') : db'.Owned := by
  obtain ⟨account, hfresh, haccounts, hcontacts, hchallenges⟩ := commits_createAccount_row hcommit
  refine ⟨?_, ?_, fun c hc => ?_, fun c hc id hid => ?_⟩
  · rw [haccounts, List.map_append, List.nodup_append]
    refine ⟨h.ids, List.nodup_singleton _, fun id hid id' hid' => ?_⟩
    obtain ⟨a, ha, rfl⟩ := List.mem_map.1 hid
    rw [List.mem_singleton.1 hid']
    exact (hfresh a ha).1
  · rw [haccounts, List.map_append, List.nodup_append]
    refine ⟨h.references, List.nodup_singleton _, fun reference hr reference' hr' => ?_⟩
    obtain ⟨a, ha, rfl⟩ := List.mem_map.1 hr
    rw [List.mem_singleton.1 hr']
    exact (hfresh a ha).2
  · obtain ⟨a, ha, howner⟩ := h.contacts c (hcontacts ▸ hc)
    exact ⟨a, haccounts ▸ List.mem_append_left _ ha, howner⟩
  · obtain ⟨a, ha, howner⟩ := h.challenges c (hchallenges ▸ hc) id hid
    exact ⟨a, haccounts ▸ List.mem_append_left _ ha, howner⟩

/-- A contact that matches the participant of its account is added. -/
theorem Db.Owned.contact (h : db.Owned) {contacts : List ContactPreference}
    {contact : ContactPreference} (haccounts : db'.authAccounts = db.authAccounts)
    (hchallenges : db'.authChallenges = db.authChallenges)
    (hcontacts : db'.contactPreferences = contacts ++ [contact])
    (hold : ∀ c ∈ contacts, ∃ a ∈ db.authAccounts,
      a.id = c.authAccountId ∧ a.participantId = c.participantId)
    (howner : ∃ a ∈ db.authAccounts, a.id = contact.authAccountId)
    (hsubject : enforceAuthSubjectMatch db.authAccounts contact = .ok ()) : db'.Owned := by
  refine ⟨haccounts ▸ h.ids, haccounts ▸ h.references, ?_, ?_⟩
  · intro c hc
    rw [hcontacts, List.mem_append, List.mem_singleton] at hc
    rw [haccounts]
    rcases hc with hc | rfl
    · exact hold c hc
    · obtain ⟨a, ha, hid⟩ := howner
      exact ⟨a, ha, hid, (enforceAuthSubjectMatch_iff h.ids ha hid).1 hsubject⟩
  · rw [haccounts, hchallenges]
    exact h.challenges

theorem Db.Owned.registerVerifiedEmail (h : db.Owned) {input : RegisterVerifiedEmailInput}
    (hcommit : Commits (registerVerifiedEmail input) db () db') : db'.Owned := by
  obtain ⟨contact, howner, hsubject, hcontacts, haccounts, hchallenges⟩ :=
    commits_registerVerifiedEmail hcommit
  exact h.contact haccounts hchallenges hcontacts h.contacts howner hsubject

theorem Db.Owned.changeVerifiedEmail (h : db.Owned) {input : ChangeEmailInput}
    {result : ChangedEmail} (hcommit : Commits (changeVerifiedEmail input) db result db') :
    db'.Owned := by
  obtain ⟨account, haccount, -, contact, hid, -, -, hsubject, hcontacts, haccounts, hchallenges⟩ :=
    commits_changeVerifiedEmail hcommit
  refine h.contact haccounts hchallenges hcontacts (fun c hc => ?_) ⟨account, haccount, hid.symm⟩
    hsubject
  rcases Table.mem_set.1 hc with ⟨old, hold, -, rfl⟩ | ⟨hold, -⟩
  · exact h.contacts old hold
  · exact h.contacts c hold

theorem Db.Owned.createChallenge (h : db.Owned) {record : AuthChallengeRecord}
    (hcommit : Commits (createChallenge record) db () db') : db'.Owned := by
  obtain ⟨-, challenge, -, hdomain, hchallenges, haccounts, hcontacts⟩ :=
    commits_createChallenge hcommit
  refine ⟨haccounts ▸ h.ids, haccounts ▸ h.references, ?_, ?_⟩
  · rw [haccounts, hcontacts]
    exact h.contacts
  · intro c hc
    rw [hchallenges, List.mem_append, List.mem_singleton] at hc
    rw [haccounts]
    rcases hc with hc | rfl
    · exact h.challenges c hc
    · exact (enforceAuthTrustDomainMatch_iff h.ids).1 hdomain

theorem Db.Owned.consume (h : db.Owned) {input : ConsumeInput}
    {result : Option ConsumedAuthChallenge} (hcommit : Commits (consume input) db result db') :
    db'.Owned := by
  obtain ⟨-, rfl⟩ := commits_consume hcommit
  refine ⟨h.ids, h.references, h.contacts, fun c hc => ?_⟩
  rcases Table.mem_set.1 hc with ⟨old, hold, -, rfl⟩ | ⟨hold, -⟩
  · exact h.challenges old hold
  · exact h.challenges c hold

/-- Every committed call keeps the ownership. -/
theorem Db.Owned.call (h : db.Owned) {call : AuthStoreCall} {result : call.Result}
    (hcommit : Commits call.exec db result db') : db'.Owned := by
  cases call with
  | increment input => exact h.congr (keeps_increment input db result db' hcommit)
  | findByLookupDigest trustDomain lookupDigest =>
    exact h.congr (keeps_get.bind (fun _ => keeps_pure) db result db' hcommit)
  | recoverAndRevokeSessions input =>
    exact h.congr (keeps_recoverAndRevokeSessions input db result db' hcommit)
  | lockAndRevokeSessions input =>
    exact h.congr (keeps_lockAndRevokeSessions input db result db' hcommit)
  | createChallenge record => exact h.createChallenge hcommit
  | consume input => exact h.consume hcommit
  | changeVerifiedEmail input => exact h.changeVerifiedEmail hcommit

end Owned

/-! ## Addresses -/

/-- Another account has the address as an enabled verified contact. -/
def HeldByOther (db : Db) (account : AuthAccount) (input : ChangeEmailInput) : Prop :=
  ∃ c ∈ db.contactPreferences, c.lookupDigest = input.newLookupDigest ∧ c.verifiedAt.isSome = true ∧
    c.disabledAt = none ∧ c.authAccountId ≠ account.id

/-- The destination is a reference, and no contact, enabled or not, ever had the address; no contact
of the participant had the destination. -/
structure Unused (db : Db) (account : AuthAccount) (input : ChangeEmailInput) : Prop where
  reference : isOpaqueReference input.newDestinationReference = true ∧
    '@' ∉ input.newDestinationReference.toList
  address : ∀ c ∈ db.contactPreferences, c.lookupDigest ≠ input.newLookupDigest
  destination : account.participantId.isSome = true → ∀ c ∈ db.contactPreferences,
    c.participantId = account.participantId → c.destinationReference ≠ input.newDestinationReference

section Addresses

variable {db db' : Db} {account : AuthAccount} {input : ChangeEmailInput}

theorem Unused.not_heldByOther (h : Unused db account input) : ¬ HeldByOther db account input := by
  rintro ⟨c, hc, haddress, -⟩
  exact h.address c hc haddress

theorem account_commits (h : db.Owned) (haccount : account ∈ db.authAccounts) :
    Commits (AuthRepository.account account.externalReference (some account.trustDomain)) db account
      db := by
  unfold AuthRepository.account
  rw [commits_get_bind, commits_found]
  refine ⟨?_, rfl⟩
  cases hfind : db.authAccounts.find? fun a => a.externalReference = account.externalReference &&
      (some account.trustDomain).all fun d => a.trustDomain = d with
  | none =>
    have hnot := List.find?_eq_none.1 hfind account haccount
    simp at hnot
  | some found =>
    obtain ⟨hmem, htest⟩ := Table.mem_of_find? hfind
    simp only [Bool.and_eq_true, decide_eq_true_eq] at htest
    rw [Table.unique_of_nodup h.references found hmem account haccount htest.1]

theorem forall_mem_set_iff {ρ : Type} {p : ρ → Bool} {f : ρ → ρ} {P : ρ → Prop}
    (hf : ∀ r, P (f r) ↔ P r) (rows : List ρ) : (∀ r ∈ Table.set p f rows, P r) ↔ ∀ r ∈ rows, P r := by
  unfold Table.set
  rw [List.forall_mem_map]
  refine forall₂_congr fun r _ => ?_
  split_ifs
  · exact hf r
  · exact Iff.rfl

/-- No row has both keys. -/
theorem all_not_clash_iff {α : Type} {rows : List α} {b : Bool} {p q : α → Prop} [DecidablePred p]
    [DecidablePred q] :
    rows.all (fun r => !(b && decide (p r) && decide (q r))) = true ↔
      (b = true → ∀ r ∈ rows, p r → ¬ q r) := by
  cases b with
  | false => simp
  | true => simp [List.all_eq_true, imp_iff_not_or]

/-- The new contact is inserted unless a row clashes. -/
theorem accepted_insertContact_iff {participantId : Option Uuid} {accountId : Uuid}
    {destinationReference lookupDigest : String} {verifiedAt : ℤ} :
    Accepted (insertContact participantId accountId destinationReference lookupDigest verifiedAt) db ↔
      (db.authAccounts.find? fun a => a.id = accountId).bind AuthAccount.participantId =
          participantId ∧
        (participantId.isSome = true → ∀ c ∈ db.contactPreferences,
          c.participantId = participantId → c.destinationReference ≠ destinationReference) ∧
        ∀ c ∈ db.contactPreferences, c.lookupDigest ≠ lookupDigest := by
  have hsubject : ∀ contact : ContactPreference, contact.authAccountId = accountId →
      contact.participantId = participantId →
      (enforceAuthSubjectMatch db.authAccounts contact = .ok () ↔
        (db.authAccounts.find? fun a => a.id = accountId).bind AuthAccount.participantId =
          participantId) := by
    rintro contact rfl rfl
    unfold enforceAuthSubjectMatch
    split_ifs with h <;> simp [h]
  have hdigest : (db.contactPreferences.all fun c => !decide (c.lookupDigest = lookupDigest)) =
      true ↔ ∀ c ∈ db.contactPreferences, c.lookupDigest ≠ lookupDigest := by
    simp [List.all_eq_true]
  constructor
  · rintro ⟨⟨⟩, db', h⟩
    obtain ⟨id, db₁, hid, h⟩ := commits_bind.1 h
    obtain ⟨rfl, rfl⟩ := commits_newId.1 hid
    simp only [requireUnique, commits_get_bind, commits_lift_bind, commits_require_bind] at h
    obtain ⟨_, hmatch, hdestination, haddress, -⟩ := h
    exact ⟨(hsubject _ rfl rfl).1 hmatch, all_not_clash_iff.1 hdestination, hdigest.1 haddress⟩
  · rintro ⟨hmatch, hdestination, haddress⟩
    refine (newId_commits db).bind_accepted ((get_commits _).bind_accepted ?_)
    refine (lift_commits ((hsubject _ rfl rfl).2 hmatch) _).bind_accepted ?_
    refine (require_commits (all_not_clash_iff.2 hdestination) _ _).bind_accepted ?_
    refine (require_commits (hdigest.2 haddress) _ _).bind_accepted ?_
    exact ⟨(), _, modify_commits _ _⟩

theorem accepted_revokeSessions (accountId : Uuid) (reason : String) (atTime : ℤ) (db : Db) :
    Accepted (revokeSessions accountId reason atTime) db :=
  (get_commits db).bind_accepted ((modify_commits _ _).bind_accepted accepted_pure)

theorem accepted_appendSecurityAudit (accountReference command : String) (newState : Option String)
    (reasonCategory : String) (context : SecurityMutationContext) (db : Db) :
    Accepted (appendSecurityAudit accountReference command newState reasonCategory context) db := by
  unfold appendSecurityAudit
  obtain ⟨hash, db', h⟩ := appendAudit_accepted _ _ _ _ _ db
  exact h.bind_accepted accepted_pure

/-- Disabling the old contacts first makes no room for the new one. -/
theorem accepted_insertContact_disabled_iff (h : db.Owned) (haccount : account ∈ db.authAccounts)
    (input : ChangeEmailInput) :
    Accepted (insertContact account.participantId account.id input.newDestinationReference
        input.newLookupDigest input.atTime)
      { db with contactPreferences :=
                  Table.set (ofAccount account.id) (fun c => { c with disabledAt := some input.atTime })
                    db.contactPreferences } ↔
      (account.participantId.isSome = true → ∀ c ∈ db.contactPreferences,
        c.participantId = account.participantId →
          c.destinationReference ≠ input.newDestinationReference) ∧
      ∀ c ∈ db.contactPreferences, c.lookupDigest ≠ input.newLookupDigest := by
  have hdestination := forall_mem_set_iff (p := ofAccount account.id)
    (f := fun c => { c with disabledAt := some input.atTime })
    (P := fun c => c.participantId = account.participantId →
      c.destinationReference ≠ input.newDestinationReference)
    (fun _ => Iff.rfl) db.contactPreferences
  have haddress := forall_mem_set_iff (p := ofAccount account.id)
    (f := fun c => { c with disabledAt := some input.atTime })
    (P := fun c => c.lookupDigest ≠ input.newLookupDigest) (fun _ => Iff.rfl) db.contactPreferences
  rw [accepted_insertContact_iff, hdestination, haddress]
  refine and_iff_right ?_
  show (db.authAccounts.find? fun a => a.id = account.id).bind AuthAccount.participantId = _
  rw [find?_account h.ids haccount, Option.bind_some]

/-- The change of an active account commits exactly when the address is unused. -/
theorem accepted_changeVerifiedEmail_iff (h : db.Owned) (haccount : account ∈ db.authAccounts)
    (hreference : account.externalReference = input.accountReference)
    (hdomain : account.trustDomain = input.trustDomain) (hactive : account.state = .active) :
    Accepted (changeVerifiedEmail input) db ↔ Unused db account input := by
  have hfound := account_commits h haccount
  rw [hreference, hdomain] at hfound
  have hinsert := accepted_insertContact_disabled_iff h haccount input
  constructor
  · rintro ⟨result, db', h⟩
    unfold changeVerifiedEmail requireOpaqueReference at h
    rw [commits_require_bind] at h
    obtain ⟨hform, h⟩ := h
    obtain ⟨_, _, haccount', hbody⟩ := commits_bind.1 h
    obtain ⟨rfl, rfl⟩ := Prod.mk.inj (Except.ok.inj (haccount'.symm.trans hfound))
    simp only [commits_require_bind, commits_get_bind, commits_lift_bind, commits_modify_bind,
      Table.update_eq_ok_iff] at hbody
    obtain ⟨-, _, ⟨-, rfl⟩, hbody⟩ := hbody
    obtain ⟨_, db₂, hinserted, -⟩ := commits_bind.1 hbody
    obtain ⟨hdestination, haddress⟩ := hinsert.1 hinserted.accepted
    exact ⟨hform, haddress, hdestination⟩
  · rintro ⟨hform, haddress, hdestination⟩
    -- The contacts that are disabled first match the participant of the account.
    have hguard : ∀ c ∈ db.contactPreferences, ofAccount account.id c = true →
        enforceAuthSubjectMatch db.authAccounts { c with disabledAt := some input.atTime } =
          .ok () := by
      intro c hc hown
      obtain ⟨a, ha, hid, hparticipant⟩ := h.contacts c hc
      exact (enforceAuthSubjectMatch_iff h.ids ha hid).2 hparticipant
    obtain ⟨_, db₁, hinserted⟩ := hinsert.2 ⟨hdestination, haddress⟩
    refine (require_commits hform _ _).bind_accepted (hfound.bind_accepted ?_)
    refine (require_commits hactive _ _).bind_accepted ((get_commits _).bind_accepted ?_)
    refine (lift_commits (Table.update_eq_ok_iff.2 ⟨hguard, rfl⟩) _).bind_accepted ?_
    refine (modify_commits _ _).bind_accepted (hinserted.bind_accepted ?_)
    obtain ⟨_, db₂, hrevoked⟩ :=
      accepted_revokeSessions account.id "verified_email_changed" input.atTime db₁
    obtain ⟨_, db₃, haudited⟩ := accepted_appendSecurityAudit input.accountReference
      "changeVerifiedEmail" none "verified_email_changed" input.context db₂
    exact hrevoked.bind_accepted (haudited.bind_accepted accepted_pure)

end Addresses

/-! ## Runs -/

/-- How a confirmation looks for its challenge. -/
def confirmedChallenge (services : AuthServices) (input : AuthServices.ConfirmEmailChangeInput) :
    ConsumeInput :=
  { secretDigest := some (keyedDigest (services.secrets input.trustDomain) input.token)
    kind := .emailChange
    trustDomain := input.trustDomain
    atTime := input.now }

/-- The change of the verified address that a valid token stands for: that of a pending challenge with
its digest. -/
def tokenChange (services : AuthServices) (db : Db) (input : AuthServices.ConfirmEmailChangeInput) :
    Option ChangeEmailInput :=
  (db.authChallenges.find? (ConsumeInput.selects (confirmedChallenge services input))).bind fun row =>
    (AuthServices.emailChange (some (toConsumed db.authAccounts input.now row))).map
      fun (accountReference, newDestinationReference, newLookupDigest) =>
        { accountReference, trustDomain := input.trustDomain, newDestinationReference
          newLookupDigest, context := input.context, atTime := input.now }

/-- A confirmation consumes its challenge and then makes the change. -/
theorem confirm_program (services : AuthServices) (input : AuthServices.ConfirmEmailChangeInput) :
    ∃ k, (EmailRequest.confirmEmailChange input).program services =
        .call (.store (.consume (confirmedChallenge services input))) k ∧
      ∀ challenge accountReference newDestinationReference newLookupDigest,
        AuthServices.emailChange challenge =
          some (accountReference, newDestinationReference, newLookupDigest) →
        ∃ k', k challenge = .call (.store (.changeVerifiedEmail
          { accountReference, trustDomain := input.trustDomain, newDestinationReference
            newLookupDigest, context := input.context, atTime := input.now })) k' := by
  refine ⟨_, rfl, fun challenge accountReference destination digest hchange => ?_⟩
  simp only [Program.bind, Function.comp, ExceptT.bindCont, hchange]
  exact ⟨_, rfl⟩

section Runs

variable {W : Type} [DecidableEq W] {services : AuthServices} {s s' : EmailSystem W}

theorem owned_commit {db : Db} (h : db.Owned) {τ : Type} {tx : DbTx τ}
    (htx : ∀ result db', Commits tx db result db' → db'.Owned) : (commit tx db).Owned := by
  rcases commit_cases tx db with ⟨result, hcommit⟩ | ⟨-, hsame⟩
  · exact htx result _ hcommit
  · rw [hsame]
    exact h

theorem owned_step (h : s.db.Owned) {act : EmailAct W}
    (hstep : EmailSystem.step services s act = some s') : s'.db.Owned := by
  cases act with
  | createAccount input =>
    obtain rfl := Option.some.inj hstep
    exact owned_commit h fun _ _ hcommit => h.createAccount hcommit
  | registerVerifiedEmail input =>
    obtain rfl := Option.some.inj hstep
    exact owned_commit h fun _ _ hcommit => h.registerVerifiedEmail hcommit
  | timestamp currentTimestamp =>
    obtain rfl := Option.some.inj hstep
    exact h.congr rfl
  | start w request =>
    simp only [EmailSystem.step] at hstep
    split at hstep
    · obtain rfl := Option.some.inj hstep
      exact h
    · cases hstep
  | store w =>
    obtain ⟨thread, -, hstep⟩ := Option.bind_eq_some_iff.1 hstep
    unfold EmailSystem.storeStep at hstep
    split at hstep
    · split at hstep
      · next result db' hexec =>
        obtain rfl := Option.some.inj hstep
        exact h.call hexec
      · obtain rfl := Option.some.inj hstep
        exact h
    · cases hstep
  | host w answer =>
    obtain ⟨thread, -, hstep⟩ := Option.bind_eq_some_iff.1 hstep
    unfold EmailSystem.hostStep at hstep
    split at hstep
    · obtain rfl := Option.some.inj hstep
      exact h
    · cases hstep
  | crash w =>
    obtain ⟨thread, -, rfl⟩ := Option.map_eq_some_iff.1 hstep
    exact h

theorem step_store_of_commits (services : AuthServices) {w : W} {thread : EmailThread} {call : AuthStoreCall}
    {k : call.Result → Program AuthCall AuthCall.Answer (Except AuthErrorCode thread.request.Result)}
    {result : call.Result} {db : Db} (hthread : s.threads w = some thread)
    (hprocess : thread.process = .call (.store call) k) (hcommit : Commits call.exec s.db result db) :
    EmailSystem.step services s (.store w) = some (s.advance w db (call.entry s.db)
      { thread with
        process := k result
        consumed := consumedAfter thread.consumed (.store call) result }) := by
  have hexec : call.exec s.db = .ok (result, db) := hcommit
  simp only [EmailSystem.step, hthread, Option.bind_some, EmailSystem.storeStep, hprocess, hexec]

theorem changing_advance {w : W} {db : Db} {entries : List EmailEntry} {thread : EmailThread}
    {change : ChangeEmailInput} {k}
    (h : thread.process = .call (.store (.changeVerifiedEmail change)) k) :
    (s.advance w db entries thread).threads w = some thread ∧ thread.changing = some change := by
  have hself : (s.advance w db entries thread).threads w = thread.running := Function.update_self ..
  rw [hself, EmailThread.running, EmailThread.changing, h]
  exact ⟨rfl, rfl⟩

theorem consume_commits {db : Db} (h : db.Owned) (input : ConsumeInput) :
    Commits (consume input) db
      ((db.authChallenges.find? (ConsumeInput.selects input)).map (toConsumed db.authAccounts input.atTime))
      { db with authChallenges :=
                  Table.set (ConsumeInput.selects input) (consumedRow input.atTime) db.authChallenges } := by
  unfold consume
  simp only [commits_get_bind, commits_lift_bind, commits_modify_bind, commits_pure,
    Table.update_eq_ok_iff]
  refine ⟨_, ⟨fun row hrow _ => ?_, rfl⟩, trivial, rfl⟩
  exact (enforceAuthTrustDomainMatch_iff h.ids).2 (h.challenges row hrow)

/-- A confirmation with a valid token consumes it and is about to make its change. -/
theorem confirm_step (h : s.db.Owned) {w : W} {input : AuthServices.ConfirmEmailChangeInput}
    {change : ChangeEmailInput}
    (hthread : s.threads w = some
      { request := .confirmEmailChange input
        process := (EmailRequest.confirmEmailChange input).program services
        consumed := none })
    (htoken : tokenChange services s.db input = some change) :
    ∃ s' thread, EmailSystem.step services s (.store w) = some s' ∧ s'.threads w = some thread ∧
      thread.changing = some change := by
  obtain ⟨row, hrow, htoken⟩ := Option.bind_eq_some_iff.1 htoken
  obtain ⟨⟨accountReference, destination, digest⟩, hchange, rfl⟩ := Option.map_eq_some_iff.1 htoken
  obtain ⟨k, hprogram, hnext⟩ := confirm_program services input
  obtain ⟨k', hk'⟩ := hnext _ _ _ _ hchange
  have hconsume := consume_commits h (confirmedChallenge services input)
  rw [hrow, Option.map_some] at hconsume
  have hstep := step_store_of_commits services hthread hprogram hconsume
  exact ⟨_, _, hstep, changing_advance hk'⟩

/-- In every run, a confirmation with a valid token is about to change the verified address, and the
change of an active account to an address that no other account holds commits exactly if the address
is unused. -/
theorem change_commits_iff (services : AuthServices) {start s : EmailSystem W}
    (howned : start.db.Owned)
    (hrun : Reach (EmailSystem.step services) (fun _ _ => True) start s) :
    (∀ w input change,
      s.threads w = some
        { request := .confirmEmailChange input
          process := (EmailRequest.confirmEmailChange input).program services
          consumed := none } →
      tokenChange services s.db input = some change →
      ∃ s' thread, EmailSystem.step services s (.store w) = some s' ∧ s'.threads w = some thread ∧
        thread.changing = some change) ∧
    ∀ w thread change, s.threads w = some thread → thread.changing = some change →
      ∀ account ∈ s.db.authAccounts, account.externalReference = change.accountReference →
        account.trustDomain = change.trustDomain → account.state = .active →
        ((¬ HeldByOther s.db account change → Accepted (changeVerifiedEmail change) s.db) ↔
          HeldByOther s.db account change ∨ Unused s.db account change) := by
  have h : s.db.Owned := hrun.invariant (I := fun s => s.db.Owned) howned
    fun _ _ _ h _ hstep => owned_step h hstep
  refine ⟨fun w input change hthread htoken => confirm_step h hthread htoken, ?_⟩
  intro w thread change _ _ account haccount hreference hdomain hactive
  rw [accepted_changeVerifiedEmail_iff h haccount hreference hdomain hactive, ← or_iff_not_imp_left]

end Runs

namespace EmailSample

theorem start_owned : start.db.Owned := by
  refine ⟨List.nodup_nil, List.nodup_nil, ?_, ?_⟩
  · intro c hc
    cases hc
  · intro c hc
    cases hc

/-- A change of the verified address, up to the call that makes it. -/
def confirms (email destination token : String) (id : Uuid) (now : ℤ) : List (EmailAct Unit) :=
  (changeEmail email destination token id now).take 7

/-- The active account that a method is about to change, with the change. -/
def changingAccount (s : EmailSystem Unit) : Option (AuthAccount × ChangeEmailInput) :=
  (s.threads ()).bind fun thread => thread.changing.bind fun change =>
    (s.db.authAccounts.find? fun a => a.externalReference = change.accountReference &&
      a.trustDomain = change.trustDomain && a.state = .active).map fun a => (a, change)

theorem changingAccount_eq_some {s : EmailSystem Unit} {account : AuthAccount}
    {change : ChangeEmailInput} (h : changingAccount s = some (account, change)) :
    ∃ thread, s.threads () = some thread ∧ thread.changing = some change ∧
      account ∈ s.db.authAccounts ∧ account.externalReference = change.accountReference ∧
      account.trustDomain = change.trustDomain ∧ account.state = .active := by
  obtain ⟨thread, hthread, h⟩ := Option.bind_eq_some_iff.1 h
  obtain ⟨_, hchanging, h⟩ := Option.bind_eq_some_iff.1 h
  obtain ⟨_, hfound, h⟩ := Option.map_eq_some_iff.1 h
  obtain ⟨rfl, rfl⟩ := Prod.mk.inj h
  obtain ⟨hmem, htest⟩ := Table.mem_of_find? hfound
  simp only [Bool.and_eq_true, decide_eq_true_eq] at htest
  exact ⟨thread, hthread, hchanging, hmem, htest.1.1, htest.1.2, htest.2⟩

/-- A change that no contact stands against. -/
def unusedAddress (s : EmailSystem Unit) : Bool :=
  (changingAccount s).any fun (_, change) =>
    isOpaqueReference change.newDestinationReference &&
      change.newDestinationReference.toList.all (fun c => c ≠ '@') &&
      s.db.contactPreferences.all fun c => c.lookupDigest ≠ change.newLookupDigest &&
        c.destinationReference ≠ change.newDestinationReference

theorem unused_of_test {s : EmailSystem Unit} (h : unusedAddress s = true) :
    ∃ account change, changingAccount s = some (account, change) ∧ Unused s.db account change := by
  obtain ⟨⟨account, change⟩, hchanging, h⟩ := (Option.any_eq_true _ _).1 h
  simp only [Bool.and_eq_true, List.all_eq_true, decide_eq_true_eq] at h
  obtain ⟨⟨hform, hat⟩, hcontacts⟩ := h
  refine ⟨account, change, hchanging, ⟨hform, fun hc => hat '@' hc rfl⟩, ?_, ?_⟩
  · exact fun c hc => (hcontacts c hc).1
  · exact fun _ c hc _ => (hcontacts c hc).2

theorem change_commits_unused : ∃ s : EmailSystem Unit, ∃ change,
    (s.threads ()).bind EmailThread.changing = some change ∧
      Accepted (changeVerifiedEmail change) s.db := by
  obtain ⟨s, hrun, htest⟩ := exists_run_of_any (EmailSystem.step services) start
    (registration ++ confirms "new@example.invalid" "contact:vault:new" "token_change" 1 1000)
    (p := unusedAddress) (by decide +kernel)
  obtain ⟨account, change, hchanging, hunused⟩ := unused_of_test htest
  obtain ⟨thread, hthread, hchange, haccount, hreference, hdomain, hactive⟩ :=
    changingAccount_eq_some hchanging
  refine ⟨s, change, by rw [hthread, Option.bind_some, hchange], ?_⟩
  exact ((change_commits_iff services start_owned
    (reach_of_run hrun (allSteps_of_mem (fun _ _ _ => trivial) start))).2 () thread change hthread
      hchange account haccount hreference hdomain hactive).2 (Or.inr hunused)
      hunused.not_heldByOther

/-- A change to an address that the account has replaced before. -/
def back : List (EmailAct Unit) :=
  registration ++ changeEmail "new@example.invalid" "contact:vault:new" "token_change" 1 1000 ++
    confirms "old@example.invalid" "contact:vault:again" "token_back" 2 2000

/-- A change that is rejected although no enabled contact has the address. -/
def rejectedFree (s : EmailSystem Unit) : Bool :=
  (changingAccount s).any fun (_, change) =>
    s.db.contactPreferences.all (fun c => c.lookupDigest ≠ change.newLookupDigest ||
      c.disabledAt.isSome) && !(changeVerifiedEmail change s.db).isOk

/-- The account cannot change back to its first address, which no account holds any more. -/
theorem own_address_rejected : start.db.Owned ∧ ∃ s account change,
    run (EmailSystem.step services) start back = some s ∧
      changingAccount s = some (account, change) ∧ ¬ HeldByOther s.db account change ∧
      ¬ Accepted (changeVerifiedEmail change) s.db := by
  obtain ⟨s, hrun, htest⟩ := exists_run_of_any (EmailSystem.step services) start back
    (p := rejectedFree) (by decide +kernel)
  obtain ⟨⟨account, change⟩, hchanging, htest⟩ := (Option.any_eq_true _ _).1 htest
  simp only [Bool.and_eq_true, List.all_eq_true, Bool.or_eq_true, decide_eq_true_eq,
    Bool.not_eq_true'] at htest
  refine ⟨start_owned, s, account, change, hrun, hchanging, ?_, ?_⟩
  · rintro ⟨c, hc, haddress, -, henabled, -⟩
    rcases htest.1 c hc with hother | hdisabled
    · exact hother haddress
    · rw [henabled] at hdisabled
      cases hdisabled
  · rintro ⟨result, db, hcommit⟩
    have hrejected := htest.2
    rw [show changeVerifiedEmail change s.db = .ok (result, db) from hcommit] at hrejected
    cases hrejected

end EmailSample

end ChecksAndBalances
