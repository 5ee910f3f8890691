import ChecksAndBalances.Auth.Usable
import ChecksAndBalances.Lib.History

/-!
# Changing the verified address

A change of the verified address disables the old contacts and revokes the sessions of the account.
It leaves its pending challenges alone, so the old address is cut off exactly as far as no challenge
that went to it can still be completed.
-/

namespace ChecksAndBalances

open Lib Lib.Tx AuthRepository

/-- What is completed took a challenge of the account; a challenge that existed at a change of its
verified address went to a destination that the account still has. -/
def CutsOff (earlier : List EmailEntry) : EmailEntry → Prop
  | .completed reference challenge destinations =>
    ∃ c, challenge = some c ∧ c.kind.signsIn = true ∧ c.accountReference = some reference ∧
      ∀ existing, .emailChanged reference existing ∈ earlier → c.id ∈ existing →
        ∃ destination ∈ destinations, c.destinationReference = some destination
  | _ => True

/-! ## The programs -/

/-- The calls of the services: a consumed challenge has the kind that was asked for. -/
def emailProtocol : Protocol (Option ConsumedAuthChallenge) AuthCall AuthCall.Answer where
  allows _ _ := True
  admits _
    | .store (.consume input), challenge => ∀ c, challenge = some c → c.kind = input.kind
    | _, _ => True
  next := consumedAfter

/-- What is completed took a challenge of its account. -/
def Completes (request : EmailRequest) (consumed : Option ConsumedAuthChallenge)
    (result : Except AuthErrorCode request.Result) : Prop :=
  ∀ value reference, result = .ok value → request.completedFor value = some reference →
    ∃ c, consumed = some c ∧ c.kind.signsIn = true ∧ c.accountReference = some reference

section Programs

variable {α β : Type} {phase : Option ConsumedAuthChallenge}

theorem follows_of_forall {p : Program AuthCall AuthCall.Answer α}
    {Q : Option ConsumedAuthChallenge → α → Prop} (h : ∀ phase a, Q phase a) :
    Follows emailProtocol phase p Q := by
  induction p generalizing phase with
  | done a => exact h phase a
  | call c k ih => exact ⟨trivial, fun answer _ => ih answer⟩

/-- A first store call. -/
theorem follows_store_bind {call : AuthStoreCall} {f : call.Result → AuthProgram β}
    {Q : Option ConsumedAuthChallenge → Except AuthErrorCode β → Prop}
    (h : ∀ answer, emailProtocol.admits phase (.store call) answer →
      Follows emailProtocol (consumedAfter phase (.store call) answer) (f answer).run Q) :
    Follows emailProtocol phase (call.request >>= f).run Q :=
  Follows.lift_bind (Follows.request trivial h)

/-- A first call to the host. -/
theorem follows_host_bind {call : AuthHostCall} {f : call.Answer → AuthProgram β}
    {Q : Option ConsumedAuthChallenge → Except AuthErrorCode β → Prop}
    (h : ∀ answer, Follows emailProtocol phase (f answer).run Q) :
    Follows emailProtocol phase (call.request >>= f).run Q :=
  Follows.lift_bind (Follows.request trivial fun answer _ => h answer)

variable (services : AuthServices)

theorem completeEmailSignIn_follows (input : AuthServices.SignInInput) :
    Follows emailProtocol none (services.completeEmailSignIn input).run
      (Completes (.completeEmailSignIn input)) := by
  unfold AuthServices.completeEmailSignIn
  refine follows_store_bind fun challenge hkind => ?_
  split
  · rintro value reference ⟨⟩
  · next accountReference haccount =>
    obtain ⟨c, rfl, hreference⟩ := Option.bind_eq_some_iff.1 haccount
    split_ifs
    · rintro value reference ⟨⟩
    · rintro value reference ⟨⟩ ⟨⟩
      exact ⟨c, rfl, by rw [hkind c rfl]; rfl, AuthServices.nonEmpty_eq_some hreference⟩

theorem completeRecovery_follows (input : AuthServices.RecoveryInput) :
    Follows emailProtocol none (services.completeRecovery input).run
      (Completes (.completeRecovery input)) := by
  unfold AuthServices.completeRecovery
  refine follows_store_bind fun challenge hkind => ?_
  split
  · rintro value reference ⟨⟩
  · next accountReference destinationReference haccount =>
    obtain ⟨c, rfl, hc⟩ := Option.bind_eq_some_iff.1 haccount
    obtain ⟨_, hreference, hc⟩ := Option.bind_eq_some_iff.1 hc
    obtain ⟨_, -, ⟨⟩⟩ := Option.bind_eq_some_iff.1 hc
    have hcompletes : ∀ result : AuthServices.RecoveryResult,
        result.accountReference = accountReference →
        Completes (.completeRecovery input) (some c) (.ok result) := by
      rintro result rfl value reference ⟨⟩ ⟨⟩
      exact ⟨c, rfl, by rw [hkind c rfl]; rfl, AuthServices.nonEmpty_eq_some hreference⟩
    refine follows_store_bind fun _ _ => follows_host_bind fun _ => ?_
    split_ifs
    · exact hcompletes _ rfl
    · refine follows_host_bind fun _ => follows_host_bind fun _ => ?_
      exact follows_store_bind fun _ _ => hcompletes _ rfl

/-- Every method completes with the challenge that it consumed. -/
theorem program_follows (request : EmailRequest) :
    Follows emailProtocol none (request.program services).run (Completes request) := by
  cases request with
  | completeEmailSignIn input => exact completeEmailSignIn_follows services input
  | completeRecovery input => exact completeRecovery_follows services input
  | begin input => exact follows_of_forall fun _ _ _ _ _ => nofun
  | consumeRecoveryGrant input => exact follows_of_forall fun _ _ _ _ _ => nofun
  | lockAccount input => exact follows_of_forall fun _ _ _ _ _ => nofun
  | beginEmailChange input => exact follows_of_forall fun _ _ _ _ _ => nofun
  | confirmEmailChange input => exact follows_of_forall fun _ _ _ _ _ => nofun

end Programs

/-! ## The condition -/

variable {W : Type}

/-- Every sign-in or recovery challenge of the account that is pending, or that a running method has
consumed, goes to the new destination. -/
structure EmailSystem.Cleared (s : EmailSystem W) (input : ChangeEmailInput) : Prop where
  pending : ∀ c ∈ s.db.authChallenges, c.state = .pending → c.kind.signsIn = true →
    c.accountId.bind s.db.accountReference = some input.accountReference →
      c.destinationReference = some input.newDestinationReference
  running : ∀ w thread c, s.threads w = some thread → thread.consumed = some c →
    c.kind.signsIn = true → c.accountReference = some input.accountReference →
      c.destinationReference = some input.newDestinationReference

/-- The change of a verified address that the method is about to make. -/
def EmailThread.changing (thread : EmailThread) : Option ChangeEmailInput :=
  match thread.process with
  | .call (.store (.changeVerifiedEmail input)) _ => some input
  | _ => none

/-- A change of a verified address is committed only when the challenges of the account are cleared
for it. -/
def ChangesCleared (s : EmailSystem W) (act : EmailAct W) : Prop :=
  ∀ w thread input, act = .store w → s.threads w = some thread → thread.changing = some input →
    Accepted (changeVerifiedEmail input) s.db → s.Cleared input

theorem Tables.changeVerifiedEmail {s : EmailSystem W} (h : Tables s.log s.db)
    {input : ChangeEmailInput} (hcleared : s.Cleared input) {result : ChangedEmail} {db' : Db}
    (hcommit : Commits (AuthRepository.changeVerifiedEmail input) s.db result db') :
    Tables (.emailChanged input.accountReference (s.db.authChallenges.map AuthChallenge.id) ::
      s.log) db' := by
  obtain ⟨account, haccount, hreference, _, -, -, -, -, -, haccounts, hchallenges⟩ :=
    commits_changeVerifiedEmail hcommit
  have hkeys : db'.accountKeys = s.db.accountKeys := by
    rw [Db.accountKeys, haccounts, Db.accountKeys]
  constructor
  · rw [haccounts]
    exact h.accounts
  · intro reference existing hchange
    rw [hkeys]
    rcases List.mem_cons.1 hchange with heq | hchange
    · obtain ⟨rfl, -⟩ := EmailEntry.emailChanged.inj heq
      exact ⟨_, List.mem_map_of_mem haccount, hreference⟩
    · exact h.references reference existing hchange
  · intro reference existing hchange id hid
    rw [hchallenges]
    rcases List.mem_cons.1 hchange with heq | hchange
    · obtain ⟨-, rfl⟩ := EmailEntry.emailChanged.inj heq
      exact List.mem_map.1 hid
    · exact h.challenges reference existing hchange id hid
  · intro c hc hstate hkind reference hc_reference
    rw [hchallenges] at hc
    rw [accountReference_congr hkeys] at hc_reference
    refine (h.pending c hc hstate hkind reference hc_reference).change h hcommit ?_ _
    rintro rfl
    exact hcleared.pending c hc hstate hkind hc_reference

/-- A committed call other than a change of the verified address. -/
theorem Tables.call {log : List EmailEntry} {db db' : Db} (h : Tables log db) {call : AuthStoreCall}
    {result : call.Result} (hcommit : Commits call.exec db result db')
    (hcall : ∀ input, call ≠ .changeVerifiedEmail input) :
    call.entry db = [] ∧ Tables log db' ∧ Extends log log db db' ∧
    ∀ consumed, Held log db consumed → Held log db' (consumedAfter consumed (.store call) result) := by
  have keep : db'.ownership = db.ownership → Tables log db' ∧ Extends log log db db' ∧
      ∀ consumed, Held log db consumed → Held log db' consumed := by
    intro hownership
    have hkept := emailTables_eq_of_ownership hownership
    have hext : Extends log log db db' := extends_of_emailTables hkept
    exact ⟨h.keep hkept, hext, fun consumed hheld => hheld.mono hext⟩
  cases call with
  | increment input => exact ⟨rfl, keep (keeps_increment input db result db' hcommit)⟩
  | findByLookupDigest trustDomain lookupDigest =>
    exact ⟨rfl, keep (keeps_get.bind (fun _ => keeps_pure) db result db' hcommit)⟩
  | recoverAndRevokeSessions input =>
    exact ⟨rfl, keep (keeps_recoverAndRevokeSessions input db result db' hcommit)⟩
  | lockAndRevokeSessions input =>
    exact ⟨rfl, keep (keeps_lockAndRevokeSessions input db result db' hcommit)⟩
  | createChallenge record =>
    have hext : Extends log log db db' := extends_createChallenge hcommit
    exact ⟨rfl, h.createChallenge hcommit, hext, fun consumed hheld => hheld.mono hext⟩
  | consume input =>
    obtain ⟨hext, htables, hheld⟩ := h.consume hcommit
    exact ⟨rfl, htables, hext, fun _ _ => hheld⟩
  | changeVerifiedEmail input => exact absurd rfl (hcall input)

/-- A consumed challenge has the kind that was asked for. -/
theorem admits_of_commits {db db' : Db} {call : AuthStoreCall} {result : call.Result}
    (hcommit : Commits call.exec db result db') (consumed : Option ConsumedAuthChallenge) :
    emailProtocol.admits consumed (.store call) result := by
  cases call with
  | consume input =>
    intro c hc
    obtain ⟨hresult, -⟩ := commits_consume hcommit
    rw [hresult] at hc
    obtain ⟨row, hrow, rfl⟩ := Option.map_eq_some_iff.1 hc
    have hselected := (Table.mem_of_find? hrow).2
    simp only [ConsumeInput.selects, Bool.and_eq_true, decide_eq_true_eq] at hselected
    exact hselected.1.1.1.1.2
  | _ => trivial

/-! ## Runs -/

/-- Nothing of before a change can still be completed, but for a current destination. -/
structure Separated (s : EmailSystem W) : Prop where
  tables : Tables s.log s.db
  held : ∀ w thread, s.threads w = some thread → Held s.log s.db thread.consumed
  follows : ∀ w thread, s.threads w = some thread →
    Follows emailProtocol thread.consumed thread.process (Completes thread.request)
  log : Along CutsOff s.log

/-- A completed sign-in or recovery is no change. -/
theorem extends_entry (thread : EmailThread) (log : List EmailEntry) (db : Db) :
    Extends log (thread.entry db ++ log) db db where
  changes reference existing hchange := by
    rcases List.mem_append.1 hchange with hentry | hlog
    · unfold EmailThread.entry at hentry
      split at hentry
      · split at hentry
        · cases List.mem_singleton.1 hentry
        · cases hentry
      · cases hentry
    · exact hlog
  destinations _ := List.Subset.refl _

theorem Tables.entry {log : List EmailEntry} {db : Db} (h : Tables log db) (thread : EmailThread) :
    Tables (thread.entry db ++ log) db :=
  h.mono (extends_entry thread log db) rfl (fun c hc => ⟨c, hc, rfl⟩) fun _ hc _ => Or.inl hc

/-- What a thread completes with a usable challenge is cut off from the old address. -/
theorem along_entry {log : List EmailEntry} {db : Db} {thread : EmailThread}
    (hlog : Along CutsOff log) (hheld : Held log db thread.consumed)
    (hfollows : Follows emailProtocol thread.consumed thread.process (Completes thread.request)) :
    Along CutsOff (thread.entry db ++ log) := by
  unfold EmailThread.entry
  split
  · next result hdone =>
    rw [hdone] at hfollows
    split
    · next reference hreference =>
      obtain ⟨c, hc, hkind, hc_reference⟩ := hfollows result reference rfl hreference
      exact ⟨⟨c, hc, hkind, hc_reference, hheld c hc hkind reference hc_reference⟩, hlog⟩
    · exact hlog
  · exact hlog

theorem separated_of_initial {s : EmailSystem W} (h : s.Initial) : Separated s where
  tables :=
    { accounts := h.accounts
      references := by simp [h.log]
      challenges := by simp [h.log]
      pending := by simp [h.log, Usable] }
  held w thread hthread := by
    rw [h.threads w] at hthread
    cases hthread
  follows w thread hthread := by
    rw [h.threads w] at hthread
    cases hthread
  log := by
    rw [h.log]
    trivial

/-- A committed transaction outside the methods. -/
theorem separated_db {s : EmailSystem W} (h : Separated s) {db : Db} (htables : Tables s.log db)
    (hext : Extends s.log s.log s.db db) : Separated { s with db } :=
  ⟨htables, fun w thread hthread => (h.held w thread hthread).mono hext, h.follows, h.log⟩

section Runs

variable [DecidableEq W] {services : AuthServices} {s s' : EmailSystem W}

theorem threads_advance {w v : W} {db : Db} {entries : List EmailEntry} {thread thread' : EmailThread}
    (h : (s.advance w db entries thread).threads v = some thread') :
    (v = w ∧ thread' = thread) ∨ (v ≠ w ∧ s.threads v = some thread') := by
  simp only [EmailSystem.advance, Function.update_apply] at h
  split_ifs at h with hv
  · left
    unfold EmailThread.running at h
    split at h
    · cases h
    · exact ⟨hv, (Option.some.inj h).symm⟩
  · exact Or.inr ⟨hv, h⟩

/-- A step of a thread, given what its call left. -/
theorem separated_advance (h : Separated s) (w : W) {db : Db} {entries : List EmailEntry}
    {thread : EmailThread} (htables : Tables (entries ++ s.log) db)
    (hothers : ∀ v other, s.threads v = some other → Held (entries ++ s.log) db other.consumed)
    (hheld : Held (entries ++ s.log) db thread.consumed)
    (hfollows : Follows emailProtocol thread.consumed thread.process (Completes thread.request))
    (hlog : Along CutsOff (entries ++ s.log)) : Separated (s.advance w db entries thread) := by
  have hext := extends_entry thread (entries ++ s.log) db
  rw [← List.append_assoc] at hext
  constructor
  · simpa [EmailSystem.advance] using htables.entry thread
  · intro v thread' hthread
    rcases threads_advance hthread with ⟨-, rfl⟩ | ⟨-, hthread⟩
    · exact hheld.mono hext
    · exact (hothers v thread' hthread).mono hext
  · intro v thread' hthread
    rcases threads_advance hthread with ⟨-, rfl⟩ | ⟨-, hthread⟩
    · exact hfollows
    · exact h.follows v thread' hthread
  · simpa [EmailSystem.advance] using along_entry hlog hheld hfollows

/-- The end of a thread. -/
theorem separated_stop (h : Separated s) (w : W) :
    Separated { s with threads := Function.update s.threads w none } := by
  have hthreads : ∀ v thread, Function.update s.threads w none v = some thread →
      s.threads v = some thread := by
    intro v thread hthread
    rw [Function.update_apply] at hthread
    split_ifs at hthread
    exact hthread
  exact ⟨h.tables, fun v thread hthread => h.held v thread (hthreads v thread hthread),
    fun v thread hthread => h.follows v thread (hthreads v thread hthread), h.log⟩

theorem separated_storeStep (h : Separated s) {w : W} {thread : EmailThread}
    (hthread : s.threads w = some thread) (hcleared : ChangesCleared s (.store w))
    (hstep : s.storeStep w thread = some s') : Separated s' := by
  have hfollows := h.follows w thread hthread
  unfold EmailSystem.storeStep at hstep
  split at hstep
  · next call k hcall =>
    rw [hcall] at hfollows
    split at hstep
    · next result db' hexec =>
      obtain rfl := Option.some.inj hstep
      have hcommit : Commits call.exec s.db result db' := hexec
      have hrest := hfollows.2 result (admits_of_commits hcommit thread.consumed)
      by_cases hchange : ∃ input, call = .changeVerifiedEmail input
      · obtain ⟨input, rfl⟩ := hchange
        have hchanging : thread.changing = some input := by simp [EmailThread.changing, hcall]
        have hclear := hcleared w thread input rfl hthread hchanging hcommit.accepted
        have hother : ∀ v other, s.threads v = some other →
            Held (AuthStoreCall.entry s.db (.changeVerifiedEmail input) ++ s.log) db'
              other.consumed := by
          intro v other hv c hc hkind reference hreference
          refine (h.held v other hv c hc hkind reference hreference).change h.tables hcommit ?_ _
          rintro rfl
          exact hclear.running v other c hv hc hkind hreference
        exact separated_advance h w (h.tables.changeVerifiedEmail hclear hcommit) hother
          (hother w thread hthread) hrest ⟨trivial, h.log⟩
      · obtain ⟨hentry, htables, hext, hheld⟩ :=
          h.tables.call hcommit fun input heq => hchange ⟨input, heq⟩
        rw [hentry]
        exact separated_advance h w htables
          (fun v other hv => (h.held v other hv).mono hext)
          (hheld _ (h.held w thread hthread)) hrest h.log
    · obtain rfl := Option.some.inj hstep
      exact separated_stop h w
  · cases hstep

theorem separated_hostStep (h : Separated s) {w : W} {thread : EmailThread}
    {answer : (call : AuthHostCall) → call.Answer} (hthread : s.threads w = some thread)
    (hstep : s.hostStep w answer thread = some s') : Separated s' := by
  have hfollows := h.follows w thread hthread
  unfold EmailSystem.hostStep at hstep
  split at hstep
  · next call k hcall =>
    rw [hcall] at hfollows
    obtain rfl := Option.some.inj hstep
    exact separated_advance h w h.tables h.held (h.held w thread hthread)
      (hfollows.2 (answer call) trivial) h.log
  · cases hstep

/-- One step keeps the old address cut off. -/
theorem separated_step (h : Separated s) {act : EmailAct W} (hcleared : ChangesCleared s act)
    (hstep : EmailSystem.step services s act = some s') : Separated s' := by
  cases act with
  | createAccount input =>
    obtain rfl := Option.some.inj hstep
    rcases commit_cases (AuthRepository.createAccount input) s.db with ⟨_, hcommit⟩ | ⟨-, hsame⟩
    · exact separated_db h (h.tables.createAccount hcommit) (extends_createAccount hcommit)
    · rw [hsame]
      exact h
  | registerVerifiedEmail input =>
    obtain rfl := Option.some.inj hstep
    rcases commit_cases (AuthRepository.registerVerifiedEmail input) s.db with
      ⟨_, hcommit⟩ | ⟨-, hsame⟩
    · exact separated_db h (h.tables.registerVerifiedEmail hcommit)
        (extends_registerVerifiedEmail hcommit)
    · rw [hsame]
      exact h
  | timestamp currentTimestamp =>
    obtain rfl := Option.some.inj hstep
    exact separated_db h (h.tables.keep rfl) (extends_of_emailTables rfl)
  | start w request =>
    simp only [EmailSystem.step] at hstep
    split at hstep
    · obtain rfl := Option.some.inj hstep
      exact separated_advance h w h.tables h.held held_none (program_follows services request) h.log
    · cases hstep
  | store w =>
    obtain ⟨thread, hthread, hstep⟩ := Option.bind_eq_some_iff.1 hstep
    exact separated_storeStep h hthread hcleared hstep
  | host w answer =>
    obtain ⟨thread, hthread, hstep⟩ := Option.bind_eq_some_iff.1 hstep
    exact separated_hostStep h hthread hstep
  | crash w =>
    obtain ⟨thread, -, rfl⟩ := Option.map_eq_some_iff.1 hstep
    exact separated_stop h w

/-- In every run whose changes of verified addresses find the challenges of their accounts cleared,
no challenge of before a change signs in or recovers its account, unless it went to a destination
that the account still has. -/
theorem changed_address_cut_off (services : AuthServices) {start s : EmailSystem W}
    (hstart : start.Initial)
    (hrun : Reach (EmailSystem.step services) ChangesCleared start s) : Along CutsOff s.log :=
  (hrun.invariant (separated_of_initial hstart) fun _ _ _ h hcleared hstep =>
    separated_step h hcleared hstep).log

end Runs

namespace EmailSample

/-- Keys of a test configuration, where every address is in its normal form. -/
def services : AuthServices :=
  { secrets := fun
      | .participant => "participant-secret"
      | .committee => "committee-secret"
    rateLimitSecret := "rate-secret"
    normalizeEmail := fun email => email }

/-- A participant without an account. -/
def start : EmailSystem Unit :=
  { db := { Db.empty with participants := [{ id := 1, externalReference := "participant_one" }] }
    threads := fun _ => none
    log := [] }

/-- Answers of the host. -/
def answers (token : String) (id : Uuid) : (call : AuthHostCall) → call.Answer
  | .generateOpaqueToken => token
  | .newId => id
  | .enqueue _ => ()

/-- A sign-in by email, up to the notification. -/
def beginSignIn (email token : String) (id : Uuid) (now : ℤ) : List (EmailAct Unit) := [
  .start () (.begin
    { kind := .emailSignIn, trustDomain := .participant, email, networkReference := "network_one"
      now, lifetimeMs := 600000 }),
  .store (), .store (), .store (), .host () (answers token id), .host () (answers token id),
  .store (), .host () (answers token id)]

/-- The end of a sign-in by email. -/
def completeSignIn (token : String) (now : ℤ) : List (EmailAct Unit) := [
  .start () (.completeEmailSignIn { trustDomain := .participant, token, now }), .store ()]

def context : SecurityMutationContext :=
  { actorReference := "account:one", authenticationStrength := .passkey
    policyVersionReference := "policy:one", softwareVersion := "0.0.0"
    correlationId := "correlation:one" }

/-- A confirmed change of the verified address. -/
def changeEmail (email destination token : String) (id : Uuid) (now : ℤ) :
    List (EmailAct Unit) := [
  .start () (.beginEmailChange
    { accountReference := "account:one", trustDomain := .participant, newEmail := email
      newDestinationReference := destination, recentlyReauthenticated := true, now
      lifetimeMs := 600000 }),
  .host () (answers token id), .host () (answers token id), .store (), .host () (answers token id),
  .start () (.confirmEmailChange { trustDomain := .participant, token, context, now := now + 1 }),
  .store (), .store (), .host () (answers token id), .host () (answers token id)]

/-- The account with its first address. -/
def registration : List (EmailAct Unit) := [
  .createAccount
    { externalReference := "account:one", trustDomain := .participant
      participantReference := some "participant_one", state := some .active },
  .registerVerifiedEmail
    { accountReference := "account:one", participantReference := some "participant_one"
      destinationReference := "contact:vault:old"
      lookupDigest := keyedDigest "participant-secret" "old@example.invalid", verifiedAt := 0 }]

/-- A sign-in for the old address is completed after the change. -/
def late : List (EmailAct Unit) :=
  registration ++ beginSignIn "old@example.invalid" "token_old" 1 1000 ++
    changeEmail "new@example.invalid" "contact:vault:new" "token_change" 2 2000 ++
    completeSignIn "token_old" 3000

/-- The change finds no sign-in pending, and a sign-in for the new address follows. -/
def orderly : List (EmailAct Unit) :=
  registration ++ changeEmail "new@example.invalid" "contact:vault:new" "token_change" 1 1000 ++
    beginSignIn "new@example.invalid" "token_new" 2 2000 ++ completeSignIn "token_new" 3000

theorem start_initial : start.Initial where
  accounts := List.nodup_nil
  threads _ := rfl
  log := rfl

/-- The last sign-in took a challenge of before the change, for no current destination. -/
def leftBehind (s : EmailSystem Unit) : Bool :=
  match s.log with
  | [.completed reference (some c) destinations, .emailChanged changed existing] =>
    reference = changed && c.id ∈ existing &&
      destinations.all fun d => c.destinationReference ≠ some d
  | _ => false

theorem not_along_of_leftBehind {s : EmailSystem Unit} (h : leftBehind s = true) :
    ¬ Along CutsOff s.log := by
  unfold leftBehind at h
  split at h
  · next reference c destinations changed existing hlog =>
    simp only [Bool.and_eq_true, decide_eq_true_eq, List.all_eq_true] at h
    obtain ⟨⟨rfl, hid⟩, hdestinations⟩ := h
    rw [hlog]
    rintro ⟨⟨_, ⟨⟩, -, -, hcut⟩, -⟩
    obtain ⟨d, hd, hdestination⟩ := hcut existing List.mem_cons_self hid
    exact hdestinations d hd hdestination
  · cases h

/-- The token for the old address signs in after the verified address changed. -/
theorem old_address_signs_in : start.Initial ∧ ∃ s,
    Reach (EmailSystem.step services) (fun _ _ => True) start s ∧ ¬ Along CutsOff s.log := by
  obtain ⟨s, hrun, htest⟩ := exists_run_of_any (EmailSystem.step services) start late
    (p := leftBehind) (by decide +kernel)
  exact ⟨start_initial, s, reach_of_run hrun (allSteps_of_mem (fun _ _ _ => trivial) start),
    not_along_of_leftBehind htest⟩

/-- A test of the condition on a step. -/
def checkCleared (s : EmailSystem Unit) : EmailAct Unit → Bool
  | .store _ =>
    (s.threads ()).all fun thread => thread.changing.all fun input =>
      s.db.authChallenges.all (fun c => !(c.state = .pending && c.kind.signsIn &&
        c.accountId.bind s.db.accountReference = some input.accountReference) ||
          c.destinationReference = some input.newDestinationReference) &&
      thread.consumed.all fun c => !c.kind.signsIn
  | _ => true

theorem changesCleared_of_check (s : EmailSystem Unit) (act : EmailAct Unit)
    (h : checkCleared s act = true) : ChangesCleared s act := by
  rintro w thread input rfl hthread hchanging -
  simp only [checkCleared, hthread, hchanging, Option.all_some, Bool.and_eq_true,
    List.all_eq_true] at h
  obtain ⟨hpending, hconsumed⟩ := h
  constructor
  · intro c hc hstate hkind hreference
    simpa [hstate, hkind, hreference] using hpending c hc
  · intro v other c hother hc hkind
    rw [hthread] at hother
    obtain rfl := Option.some.inj hother
    simp [hc, hkind] at hconsumed

theorem orderly_change_cuts_off :
    ∃ s : EmailSystem Unit, s.log.length = 2 ∧ Along CutsOff s.log := by
  obtain ⟨s, hrun, hlength⟩ := exists_reach_of_any (EmailSystem.step services) (p := checkCleared)
    start orderly changesCleared_of_check (q := fun s => s.log.length = 2) (by decide +kernel)
  exact ⟨s, by simpa using hlength, changed_address_cut_off services start_initial hrun⟩

end EmailSample

end ChecksAndBalances
