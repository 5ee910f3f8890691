import ChecksAndBalances.Auth.Contacts

/-!
# Challenges that can still be completed

A challenge is usable when no logged change of its account left it behind: it went to a destination
that the account still has.  Every call of the email services keeps the pending challenges usable,
but for the change of the verified address, which keeps those that go to the new destination.
-/

namespace ChecksAndBalances

open Lib Lib.Tx AuthRepository

/-- The kinds of challenge whose token signs in or recovers. -/
def AuthChallengeKind.signsIn (kind : AuthChallengeKind) : Bool :=
  kind = .emailSignIn || kind = .accountRecovery

/-! ## Usable challenges -/

/-- A challenge that existed at a change of the account went to a destination that it still has. -/
def Usable (log : List EmailEntry) (db : Db) (reference : String) (id : Uuid)
    (destination : Option String) : Prop :=
  ∀ existing, .emailChanged reference existing ∈ log → id ∈ existing →
    ∃ d ∈ db.destinations reference, destination = some d

/-- What a running method consumed is usable. -/
def Held (log : List EmailEntry) (db : Db) (consumed : Option ConsumedAuthChallenge) : Prop :=
  ∀ c, consumed = some c → c.kind.signsIn = true → ∀ reference,
    c.accountReference = some reference → Usable log db reference c.id c.destinationReference

/-- Pending challenges are usable, and the log speaks of stored accounts and challenges. -/
structure Tables (log : List EmailEntry) (db : Db) : Prop where
  accounts : (db.authAccounts.map AuthAccount.id).Nodup
  references : ∀ reference existing, .emailChanged reference existing ∈ log →
    ∃ key ∈ db.accountKeys, key.2 = reference
  challenges : ∀ reference existing, .emailChanged reference existing ∈ log →
    ∀ id ∈ existing, ∃ c ∈ db.authChallenges, c.id = id
  pending : ∀ c ∈ db.authChallenges, c.state = .pending → c.kind.signsIn = true → ∀ reference,
    c.accountId.bind db.accountReference = some reference →
      Usable log db reference c.id c.destinationReference

section Tables

variable {log log' : List EmailEntry} {db db' : Db}

/-- No change is new, and no destination is lost. -/
structure Extends (log log' : List EmailEntry) (db db' : Db) : Prop where
  changes : ∀ reference existing, .emailChanged reference existing ∈ log' →
    .emailChanged reference existing ∈ log
  destinations : ∀ reference, db.destinations reference ⊆ db'.destinations reference

theorem Usable.mono (h : Extends log log' db db') {reference : String} {id : Uuid}
    {destination : Option String} (husable : Usable log db reference id destination) :
    Usable log' db' reference id destination := by
  intro existing hchange hid
  obtain ⟨d, hd, hdestination⟩ := husable existing (h.changes _ _ hchange) hid
  exact ⟨d, h.destinations reference hd, hdestination⟩

theorem Held.mono (h : Extends log log' db db') {consumed : Option ConsumedAuthChallenge}
    (hheld : Held log db consumed) : Held log' db' consumed :=
  fun c hc hkind reference hreference => (hheld c hc hkind reference hreference).mono h

theorem held_none : Held log db none := by
  rintro c ⟨⟩

/-- What leaves the accounts alone and loses no enabled contact. -/
theorem extends_of_keys (hkeys : db'.accountKeys = db.accountKeys)
    (hcontacts : db.contactPreferences ⊆ db'.contactPreferences) : Extends log log db db' where
  changes _ _ h := h
  destinations reference d hd := by
    obtain ⟨c, hc, henabled, hreference, hdestination⟩ := mem_destinations.1 hd
    refine mem_destinations.2 ⟨c, hcontacts hc, henabled, ?_, hdestination⟩
    rw [accountReference_congr hkeys]
    exact hreference

/-- What leaves the accounts alone, loses no challenge, and adds pending ones only under fresh
identifiers. -/
theorem Tables.mono (h : Tables log db) (hext : Extends log log' db db')
    (hkeys : db'.accountKeys = db.accountKeys)
    (hstored : ∀ c ∈ db.authChallenges, ∃ c' ∈ db'.authChallenges, c'.id = c.id)
    (hpending : ∀ c ∈ db'.authChallenges, c.state = .pending →
      c ∈ db.authChallenges ∨ ∀ c₀ ∈ db.authChallenges, c₀.id ≠ c.id) :
    Tables log' db' where
  accounts := by
    rw [Db.ids_eq, hkeys, ← Db.ids_eq]
    exact h.accounts
  references reference existing hchange := by
    rw [hkeys]
    exact h.references reference existing (hext.changes _ _ hchange)
  challenges reference existing hchange id hid := by
    obtain ⟨c, hc, rfl⟩ := h.challenges reference existing (hext.changes _ _ hchange) id hid
    exact hstored c hc
  pending c hc hstate hkind reference hreference := by
    rcases hpending c hc hstate with hold | hfresh
    · rw [accountReference_congr hkeys] at hreference
      exact (h.pending c hold hstate hkind reference hreference).mono hext
    · intro existing hchange hid
      obtain ⟨c₀, hc₀, heq⟩ := h.challenges reference existing (hext.changes _ _ hchange) c.id hid
      exact absurd heq (hfresh c₀ hc₀)

/-- What keeps the tables of signing in by email. -/
theorem extends_of_emailTables (h : db'.emailTables = db.emailTables) :
    Extends log log db db' := by
  simp only [Db.emailTables, Prod.mk.injEq] at h
  exact extends_of_keys h.1 (h.2.1 ▸ List.Subset.refl _)

theorem Tables.keep (h : Tables log db) (hkept : db'.emailTables = db.emailTables) :
    Tables log db' := by
  have hext : Extends log log db db' := extends_of_emailTables hkept
  simp only [Db.emailTables, Prod.mk.injEq] at hkept
  obtain ⟨hkeys, -, hchallenges⟩ := hkept
  refine h.mono hext hkeys ?_ ?_
  · rw [hchallenges]
    exact fun c hc => ⟨c, hc, rfl⟩
  · rw [hchallenges]
    exact fun c hc _ => Or.inl hc

end Tables

/-! ## What each call keeps -/

section Calls

variable {log : List EmailEntry} {db db' : Db}

theorem extends_createAccount {input : CreateAuthAccountInput}
    (h : Commits (createAccount input) db () db') : Extends log log db db' where
  changes _ _ hchange := hchange
  destinations reference d hd := by
    obtain ⟨key, -, hkeys, hcontacts, -⟩ := commits_createAccount h
    obtain ⟨c, hc, henabled, hreference, hdestination⟩ := mem_destinations.1 hd
    refine mem_destinations.2 ⟨c, hcontacts ▸ hc, henabled, ?_, hdestination⟩
    rcases accountReference_append hkeys c.authAccountId with hsame | ⟨hnone, -⟩
    · rw [hsame, hreference]
    · rw [hnone] at hreference
      cases hreference

/-- The log says nothing of an account before it exists. -/
theorem Tables.createAccount (h : Tables log db) {input : CreateAuthAccountInput}
    (hcommit : Commits (createAccount input) db () db') : Tables log db' := by
  have hext : Extends log log db db' := extends_createAccount hcommit
  obtain ⟨key, hfresh, hkeys, -, hchallenges⟩ := commits_createAccount hcommit
  constructor
  · rw [Db.ids_eq, hkeys, List.map_append, List.nodup_append, ← Db.ids_eq]
    refine ⟨h.accounts, List.nodup_singleton _, fun id hid id' hid' heq => ?_⟩
    rw [Db.ids_eq] at hid
    obtain ⟨k, hk, rfl⟩ := List.mem_map.1 hid
    exact (hfresh k hk).1 (heq.trans (List.mem_singleton.1 hid'))
  · intro reference existing hchange
    obtain ⟨k, hk, hreference⟩ := h.references reference existing hchange
    exact ⟨k, by rw [hkeys]; exact List.mem_append_left _ hk, hreference⟩
  · rw [hchallenges]
    exact h.challenges
  · rw [hchallenges]
    intro c hc hstate hkind reference hreference
    obtain ⟨accountId, haccount, hreference⟩ := Option.bind_eq_some_iff.1 hreference
    rcases accountReference_append hkeys accountId with hsame | ⟨-, hnew⟩
    · rw [hsame] at hreference
      refine (h.pending c hc hstate hkind reference ?_).mono hext
      rw [haccount]
      exact hreference
    · intro existing hchange
      obtain ⟨k, hk, hkey⟩ := h.references reference existing hchange
      exact absurd (hkey.trans (hnew reference hreference)) (hfresh k hk).2

theorem extends_registerVerifiedEmail {input : RegisterVerifiedEmailInput}
    (h : Commits (registerVerifiedEmail input) db () db') : Extends log log db db' := by
  obtain ⟨contact, -, -, hcontacts, haccounts, -⟩ := commits_registerVerifiedEmail h
  refine extends_of_keys (by rw [Db.accountKeys, haccounts, Db.accountKeys]) ?_
  rw [hcontacts]
  exact List.subset_append_left _ _

theorem Tables.registerVerifiedEmail (h : Tables log db) {input : RegisterVerifiedEmailInput}
    (hcommit : Commits (registerVerifiedEmail input) db () db') : Tables log db' := by
  have hext : Extends log log db db' := extends_registerVerifiedEmail hcommit
  obtain ⟨contact, -, -, -, haccounts, hchallenges⟩ := commits_registerVerifiedEmail hcommit
  refine h.mono hext (by rw [Db.accountKeys, haccounts, Db.accountKeys]) ?_ ?_
  · rw [hchallenges]
    exact fun c hc => ⟨c, hc, rfl⟩
  · rw [hchallenges]
    exact fun c hc _ => Or.inl hc

theorem extends_createChallenge {record : AuthChallengeRecord}
    (h : Commits (createChallenge record) db () db') : Extends log log db db' := by
  obtain ⟨-, _, -, -, -, haccounts, hcontacts⟩ := commits_createChallenge h
  exact extends_of_keys (by rw [Db.accountKeys, haccounts, Db.accountKeys])
    (hcontacts ▸ List.Subset.refl _)

theorem Tables.createChallenge (h : Tables log db) {record : AuthChallengeRecord}
    (hcommit : Commits (createChallenge record) db () db') : Tables log db' := by
  have hext : Extends log log db db' := extends_createChallenge hcommit
  obtain ⟨hfresh, challenge, hid, -, hchallenges, haccounts, -⟩ := commits_createChallenge hcommit
  refine h.mono hext (by rw [Db.accountKeys, haccounts, Db.accountKeys]) ?_ ?_
  · intro c hc
    exact ⟨c, by rw [hchallenges]; exact List.mem_append_left _ hc, rfl⟩
  · intro c hc _
    rw [hchallenges, List.mem_append, List.mem_singleton] at hc
    rcases hc with hc | rfl
    · exact Or.inl hc
    · exact Or.inr fun c₀ hc₀ => hid ▸ hfresh c₀ hc₀

/-- Consuming loses nothing, and what is consumed was usable. -/
theorem Tables.consume (h : Tables log db) {input : ConsumeInput}
    {result : Option ConsumedAuthChallenge} (hcommit : Commits (consume input) db result db') :
    Extends log log db db' ∧ Tables log db' ∧ Held log db' result := by
  obtain ⟨hresult, hdb⟩ := commits_consume hcommit
  have hext : Extends log log db db' := by
    rw [hdb]
    exact extends_of_keys rfl (List.Subset.refl _)
  refine ⟨hext, h.mono hext (by rw [hdb]; rfl) ?_ ?_, ?_⟩
  · intro c hc
    rw [hdb]
    refine ⟨_, Table.mem_set_of_mem hc, ?_⟩
    split_ifs <;> rfl
  · intro c hc hstate
    rw [hdb] at hc
    rcases Table.mem_set.1 hc with ⟨_, _, _, rfl⟩ | ⟨hold, -⟩
    · cases hstate
    · exact Or.inl hold
  · intro c hc hkind reference hreference
    rw [hresult] at hc
    obtain ⟨row, hrow, rfl⟩ := Option.map_eq_some_iff.1 hc
    obtain ⟨hmem, hselected⟩ := Table.mem_of_find? hrow
    have hpending : row.state = .pending := by
      simp only [ConsumeInput.selects, Bool.and_eq_true, decide_eq_true_eq] at hselected
      exact hselected.1.1.2
    exact (h.pending row hmem hpending hkind reference hreference).mono hext

/-- A change of the verified address loses the destinations of its account only. -/
theorem destinations_changeVerifiedEmail (h : Tables log db) {input : ChangeEmailInput}
    {result : ChangedEmail} (hcommit : Commits (changeVerifiedEmail input) db result db') :
    input.newDestinationReference ∈ db'.destinations input.accountReference ∧
    ∀ reference, reference ≠ input.accountReference →
      db.destinations reference ⊆ db'.destinations reference := by
  obtain ⟨account, haccount, hreference, contact, hcontact, hdestination, henabled, -, hcontacts,
    haccounts, -⟩ := commits_changeVerifiedEmail hcommit
  have hkeys : db'.accountKeys = db.accountKeys := by
    rw [Db.accountKeys, haccounts, Db.accountKeys]
  have hown := accountReference_of_mem h.accounts haccount
  refine ⟨mem_destinations.2 ⟨contact, ?_, henabled, ?_, hdestination⟩, ?_⟩
  · rw [hcontacts]
    exact List.mem_append_right _ (List.mem_singleton_self _)
  · rw [accountReference_congr hkeys, hcontact, hown, hreference]
  · intro reference hother d hd
    obtain ⟨c, hc, hc_enabled, hc_reference, hd⟩ := mem_destinations.1 hd
    refine mem_destinations.2 ⟨c, ?_, hc_enabled, ?_, hd⟩
    · rw [hcontacts]
      refine List.mem_append_left _ (Table.mem_set.2 (Or.inr ⟨hc, ?_⟩))
      have hforeign : c.authAccountId ≠ account.id := by
        intro hid
        rw [hid, hown, hreference] at hc_reference
        exact hother (Option.some.inj hc_reference).symm
      simp [ofAccount, hforeign]
    · rw [accountReference_congr hkeys]
      exact hc_reference

/-- A change leaves a challenge usable that goes to the new destination. -/
theorem Usable.change (h : Tables log db) {input : ChangeEmailInput} {result : ChangedEmail}
    (hcommit : Commits (changeVerifiedEmail input) db result db') {reference : String} {id : Uuid}
    {destination : Option String} (husable : Usable log db reference id destination)
    (hcleared : reference = input.accountReference →
      destination = some input.newDestinationReference) (existing : List Uuid) :
    Usable (.emailChanged input.accountReference existing :: log) db' reference id destination := by
  obtain ⟨hnew, hothers⟩ := destinations_changeVerifiedEmail h hcommit
  intro existing' hchange hid
  by_cases hreference : reference = input.accountReference
  · exact ⟨input.newDestinationReference, hreference ▸ hnew, hcleared hreference⟩
  · rcases List.mem_cons.1 hchange with heq | hchange
    · exact absurd (EmailEntry.emailChanged.inj heq).1 hreference
    · obtain ⟨d, hd, hdestination⟩ := husable existing' hchange hid
      exact ⟨d, hothers reference hreference hd, hdestination⟩

end Calls

end ChecksAndBalances
