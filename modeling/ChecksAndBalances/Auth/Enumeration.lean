import ChecksAndBalances.Auth.Contacts

/-!
# Enumeration safety

A sequence of requests of `EmailRecoveryService.begin`, one after the other.  The answers are computed
from the rate limits alone, so that no directory shows in them; and the limit of an address bounds
what the sink is asked to send.
-/

namespace ChecksAndBalances

open Lib Lib.Tx

/-! ## Serving a request -/

/-- What a request finds: the directory, which may read the database, and fresh values. -/
structure EmailHost where
  directory : Db → TrustDomain → String → Option VerifiedEmailAccount
  token : String
  id : Uuid

/-- What a request leaves: its result or the error of a store, the database, and the notifications. -/
structure Served (α : Type) where
  result : Except RepositoryError α
  db : Db
  enqueued : List SecurityNotification

/-- What comes after a part of a request. -/
def Served.andThen {α β : Type} (served : Served α) (next : α → Db → Served β) : Served β :=
  match served.result with
  | .ok a =>
    let rest := next a served.db
    { rest with enqueued := served.enqueued ++ rest.enqueued }
  | .error e => { result := .error e, db := served.db, enqueued := served.enqueued }

/-- The notification that a call gives to the sink. -/
def AuthCall.notifies : AuthCall → List SecurityNotification
  | .host (.enqueue notification) => [notification]
  | _ => []

/-- The answer to a call: the store of challenges and the sink do not throw. -/
def EmailHost.answer (host : EmailHost) :
    (call : AuthCall) → Db → Except RepositoryError (call.Answer × Db)
  | .store (.findByLookupDigest trustDomain lookupDigest), db =>
    .ok (host.directory db trustDomain lookupDigest, db)
  | .store (.createChallenge record), db =>
    .ok ((), commit (AuthRepository.createChallenge record) db)
  | .store call, db => call.exec db
  | .host .generateOpaqueToken, db => .ok (host.token, db)
  | .host .newId, db => .ok (host.id, db)
  | .host (.enqueue _), db => .ok ((), db)

section Serve

variable {α β : Type} (host : EmailHost)

/-- The request is served. -/
def serve : Program AuthCall AuthCall.Answer α → Db → Served α
  | .done a, db => { result := .ok a, db, enqueued := [] }
  | .call call k, db =>
    match host.answer call db with
    | .ok (answer, db') =>
      let rest := serve (k answer) db'
      { rest with enqueued := call.notifies ++ rest.enqueued }
    | .error e => { result := .error e, db, enqueued := [] }

theorem serve_bind (p : Program AuthCall AuthCall.Answer α)
    (f : α → Program AuthCall AuthCall.Answer β) (db : Db) :
    serve host (p >>= f) db = (serve host p db).andThen fun a db => serve host (f a) db := by
  induction p generalizing db with
  | done a => rfl
  | call call k ih =>
    have hcall : (.call call k >>= f : Program AuthCall AuthCall.Answer β) =
        .call call fun answer => k answer >>= f := rfl
    rw [hcall, serve, serve]
    cases host.answer call db with
    | error e => rfl
    | ok result =>
      obtain ⟨answer, db'⟩ := result
      dsimp only
      rw [ih]
      unfold Served.andThen
      cases (serve host (k answer) db').result with
      | error e => rfl
      | ok a => simp

/-- A call whose answer is known. -/
theorem serve_request {call : AuthCall} {answer : call.Answer} {db db' : Db}
    (h : host.answer call db = .ok (answer, db')) :
    serve host (Program.request call) db =
      { result := .ok answer, db := db', enqueued := call.notifies } := by
  rw [Program.request, serve, h]
  simp [serve]

theorem serve_lift {p : Program AuthCall AuthCall.Answer α} {a : α} {db db' : Db}
    {enqueued : List SecurityNotification}
    (h : serve host p db = { result := .ok a, db := db', enqueued }) :
    serve host (ExceptT.lift p :
        ExceptT AuthErrorCode (Program AuthCall AuthCall.Answer) α).run db =
      { result := .ok (.ok a), db := db', enqueued } := by
  refine (serve_bind host _ _ db).trans ?_
  rw [h]
  exact congrArg (Served.mk _ _) (List.append_nil _)

/-- A first part that does not end the request and notifies nobody. -/
theorem serve_next {p : ExceptT AuthErrorCode (Program AuthCall AuthCall.Answer) α}
    {f : α → ExceptT AuthErrorCode (Program AuthCall AuthCall.Answer) β} {a : α} {db db' : Db}
    (h : serve host p.run db = { result := .ok (.ok a), db := db', enqueued := [] }) :
    serve host (p >>= f).run db = serve host (f a).run db' := by
  rw [ExceptT.run_bind, serve_bind, h]
  rfl

/-- A first part that throws. -/
theorem serve_except_throw {p : ExceptT AuthErrorCode (Program AuthCall AuthCall.Answer) α}
    {f : α → ExceptT AuthErrorCode (Program AuthCall AuthCall.Answer) β} {e : AuthErrorCode}
    {db db' : Db} {enqueued : List SecurityNotification}
    (h : serve host p.run db = { result := .ok (.error e), db := db', enqueued }) :
    serve host (p >>= f).run db = { result := .ok (.error e), db := db', enqueued } := by
  rw [ExceptT.run_bind, serve_bind, h]
  exact congrArg (Served.mk _ _) (List.append_nil _)

end Serve

/-! ## The rate limits -/

section Counters

variable {buckets : List AuthRateLimitBucket} {input : IncrementInput} {key : String}

/-- The attempts that a counter holds. -/
def attempts (key : String) (buckets : List AuthRateLimitBucket) : ℕ :=
  match buckets.find? fun b => b.keyDigest = key with
  | some bucket => bucket.attemptCount
  | none => 0

/-- The counters after an attempt. -/
def counted (input : IncrementInput) (buckets : List AuthRateLimitBucket) :
    List AuthRateLimitBucket :=
  match buckets.find? fun b => b.keyDigest = input.keyDigest with
  | some _ => Table.set (fun b => b.keyDigest = input.keyDigest)
      (fun b => { b with attemptCount := b.attemptCount + 1 }) buckets
  | none => buckets ++
      [{ keyDigest := input.keyDigest
         bucket := input.bucket
         attemptCount := 1
         windowStartedAt := input.windowStartedAt
         expiresAt := input.expiresAt }]

theorem increment_eq (hwindow : input.windowStartedAt < input.expiresAt) (db : Db) :
    AuthRepository.increment input db =
      .ok (attempts input.keyDigest db.authRateLimitBuckets + 1,
        { db with authRateLimitBuckets := counted input db.authRateLimitBuckets }) := by
  show Commits _ _ _ _
  unfold AuthRepository.increment attempts counted
  rw [commits_get_bind]
  cases hfind : db.authRateLimitBuckets.find? fun b => b.keyDigest = input.keyDigest with
  | some bucket => exact commits_modify_bind.2 (commits_pure.2 ⟨rfl, rfl⟩)
  | none =>
    exact commits_require_bind.2 ⟨hwindow, commits_modify_bind.2 (commits_pure.2 ⟨rfl, rfl⟩)⟩

theorem attempts_counted_self :
    attempts input.keyDigest (counted input buckets) = attempts input.keyDigest buckets + 1 := by
  unfold attempts counted
  cases hfind : buckets.find? fun b => b.keyDigest = input.keyDigest with
  | some bucket =>
    have hkey : bucket.keyDigest = input.keyDigest := by simpa using List.find?_some hfind
    dsimp only
    rw [Table.find?_set, hfind]
    · simp [hkey]
    · exact fun _ => rfl
  | none => simp [List.find?_append, hfind]

theorem attempts_counted_of_ne (hkey : key ≠ input.keyDigest) :
    attempts key (counted input buckets) = attempts key buckets := by
  unfold attempts counted
  cases hfind : buckets.find? fun b => b.keyDigest = input.keyDigest with
  | none => simp [List.find?_append, hkey.symm]
  | some _ =>
    dsimp only
    rw [Table.find?_set]
    · cases hother : buckets.find? fun b => b.keyDigest = key with
      | none => rfl
      | some bucket =>
        have hbucket : bucket.keyDigest = key := by simpa using List.find?_some hother
        simp [hbucket, hkey]
    · exact fun _ => rfl

/-- An attempt never lowers a counter. -/
theorem attempts_le_counted : attempts key buckets ≤ attempts key (counted input buckets) := by
  by_cases hkey : key = input.keyDigest
  · rw [hkey, attempts_counted_self]
    omega
  · rw [attempts_counted_of_ne hkey]

end Counters

/-! ## The answer to a request -/

namespace AuthServices

variable (services : AuthServices)

/-- The attempt that `requireWithinLimit` counts. -/
def attempt (bucket opaqueSubject : String) (now windowMs : ℤ) : IncrementInput :=
  { keyDigest := keyedDigest services.rateLimitSecret
      (bucket ++ ":" ++ opaqueSubject ++ ":" ++ toString (now / windowMs))
    bucket
    windowStartedAt := now / windowMs * windowMs
    expiresAt := now / windowMs * windowMs + windowMs }

variable {services}

section Limit

variable (host : EmailHost) {bucket opaqueSubject : String} {now windowMs : ℤ} {limit : ℕ} {db : Db}
  (attempt : IncrementInput)

theorem serve_requireWithinLimit (hwindow : 0 < windowMs)
    (hattempt : services.attempt bucket opaqueSubject now windowMs = attempt) :
    serve host (services.requireWithinLimit bucket opaqueSubject now windowMs limit).run db =
      { result := .ok (if limit < attempts attempt.keyDigest (counted attempt db.authRateLimitBuckets)
          then .error .rateLimited else .ok ())
        db := { db with authRateLimitBuckets := counted attempt db.authRateLimitBuckets }
        enqueued := [] } := by
  subst hattempt
  have hcount : host.answer
      (.store (.increment (services.attempt bucket opaqueSubject now windowMs))) db = .ok
        (attempts (services.attempt bucket opaqueSubject now windowMs).keyDigest
          (counted (services.attempt bucket opaqueSubject now windowMs) db.authRateLimitBuckets),
        { db with authRateLimitBuckets :=
            counted (services.attempt bucket opaqueSubject now windowMs) db.authRateLimitBuckets }) := by
    rw [attempts_counted_self]
    refine increment_eq ?_ db
    simp only [AuthServices.attempt]
    omega
  unfold requireWithinLimit
  refine (serve_next host (serve_lift host (serve_request host hcount))).trans ?_
  split_ifs <;> rfl

theorem serve_limited (hwindow : 0 < windowMs)
    (hattempt : services.attempt bucket opaqueSubject now windowMs = attempt)
    (h : limit < attempts attempt.keyDigest (counted attempt db.authRateLimitBuckets)) :
    serve host (services.requireWithinLimit bucket opaqueSubject now windowMs limit).run db =
      { result := .ok (.error .rateLimited)
        db := { db with authRateLimitBuckets := counted attempt db.authRateLimitBuckets }
        enqueued := [] } := by
  rw [serve_requireWithinLimit host attempt hwindow hattempt, if_pos h]

theorem serve_within (hwindow : 0 < windowMs)
    (hattempt : services.attempt bucket opaqueSubject now windowMs = attempt)
    (h : ¬ limit < attempts attempt.keyDigest (counted attempt db.authRateLimitBuckets)) :
    serve host (services.requireWithinLimit bucket opaqueSubject now windowMs limit).run db =
      { result := .ok (.ok ())
        db := { db with authRateLimitBuckets := counted attempt db.authRateLimitBuckets }
        enqueued := [] } := by
  rw [serve_requireWithinLimit host attempt hwindow hattempt, if_neg h]

end Limit

namespace BeginInput

variable (services) (input : BeginInput)

/-- The digest of the address. -/
def lookupDigest : String :=
  services.normalizeEmailForLookup input.email (services.secrets input.trustDomain)

/-- The attempt of the network. -/
def networkAttempt : IncrementInput :=
  services.attempt (input.kind.limitName ++ "_network") input.networkReference input.now (15 * 60000)

/-- The attempt for the address. -/
def accountAttempt : IncrementInput :=
  services.attempt (input.kind.limitName ++ "_account") (input.lookupDigest services) input.now
    (15 * 60000)

/-- The counters after the attempt of the network. -/
def networkCounted (buckets : List AuthRateLimitBucket) : List AuthRateLimitBucket :=
  counted (input.networkAttempt services) buckets

/-- The network has no attempts left. -/
def NetworkLimited (buckets : List AuthRateLimitBucket) : Prop :=
  20 < attempts (input.networkAttempt services).keyDigest (input.networkCounted services buckets)

instance (buckets : List AuthRateLimitBucket) :
    Decidable (input.NetworkLimited services buckets) :=
  inferInstanceAs (Decidable (_ < _))

/-- The counters after both attempts. -/
def bothCounted (buckets : List AuthRateLimitBucket) : List AuthRateLimitBucket :=
  counted (input.accountAttempt services) (input.networkCounted services buckets)

/-- The counters after the request. -/
def allCounted (buckets : List AuthRateLimitBucket) : List AuthRateLimitBucket :=
  if input.NetworkLimited services buckets then input.networkCounted services buckets
  else input.bothCounted services buckets

/-- The answer to the request, from the counters alone. -/
def answer (buckets : List AuthRateLimitBucket) : Except AuthErrorCode GenericChallengeResponse :=
  if input.NetworkLimited services buckets then .error .rateLimited else .ok genericResponse

end BeginInput

/-- What a request leaves, by the counters that it found. -/
structure Begun (services : AuthServices) (input : BeginInput) (buckets : List AuthRateLimitBucket)
    (served : Served (Except AuthErrorCode GenericChallengeResponse)) : Prop where
  result : served.result = .ok (input.answer services buckets)
  counters : served.db.authRateLimitBuckets = input.allCounted services buckets
  /-- At most one notification, of the kind of the request, and only within both limits. -/
  enqueued : served.enqueued = [] ∨ ∃ notification, served.enqueued = [notification] ∧
    notification.kind = input.kind.notification ∧ ¬ input.NetworkLimited services buckets ∧
      attempts (input.accountAttempt services).keyDigest (input.bothCounted services buckets) ≤ 5

theorem keeps_createChallenge (record : AuthChallengeRecord) :
    Keeps (fun db : Db => db.authRateLimitBuckets) (AuthRepository.createChallenge record) := by
  refine (keeps_challengeAccount _ _).bind fun _ => keeps_get.bind fun _ => ?_
  refine keeps_lift.bind fun _ => (keeps_checkAuthChallenge _).bind fun _ => ?_
  refine keeps_require.bind fun _ => keeps_require.bind fun _ => keeps_modify fun _ => rfl

section Begin

variable (host : EmailHost) (input : BeginInput) (db : Db)

/-- A request of a network without attempts left. -/
theorem serve_begin_of_network (h : input.NetworkLimited services db.authRateLimitBuckets) :
    serve host (services.begin input).run db =
      { result := .ok (.error .rateLimited)
        db := { db with authRateLimitBuckets :=
          input.networkCounted services db.authRateLimitBuckets }
        enqueued := [] } :=
  serve_except_throw host (serve_limited host (input.networkAttempt services) (by decide) rfl h)

/-- A request for an address without attempts left. -/
theorem serve_begin_of_account (hnetwork : ¬ input.NetworkLimited services db.authRateLimitBuckets)
    (h : 5 < attempts (input.accountAttempt services).keyDigest
      (input.bothCounted services db.authRateLimitBuckets)) :
    serve host (services.begin input).run db =
      { result := .ok (.ok genericResponse)
        db := { db with authRateLimitBuckets := input.bothCounted services db.authRateLimitBuckets }
        enqueued := [] } :=
  (serve_next host (serve_within host (input.networkAttempt services) (by decide) rfl hnetwork)).trans
    (serve_next host (serve_lift host
      (serve_limited host (input.accountAttempt services) (by decide) rfl h)))

/-- Any other request. -/
theorem serve_begin_within (hnetwork : ¬ input.NetworkLimited services db.authRateLimitBuckets)
    (h : ¬ 5 < attempts (input.accountAttempt services).keyDigest
      (input.bothCounted services db.authRateLimitBuckets)) :
    let served := serve host (services.begin input).run db
    served.result = .ok (.ok genericResponse) ∧
      served.db.authRateLimitBuckets = input.bothCounted services db.authRateLimitBuckets ∧
      (served.enqueued = [] ∨ ∃ notification, served.enqueued = [notification] ∧
        notification.kind = input.kind.notification) := by
  intro served
  have hlimits : served = _ :=
    (serve_next host (serve_within host (input.networkAttempt services) (by decide) rfl
      hnetwork)).trans (serve_next host (serve_lift host
        (serve_within host (input.accountAttempt services) (by decide) rfl h)))
  have hfound := hlimits.trans (serve_next host (serve_lift host (serve_request host rfl)))
  rw [hfound]
  split
  · exact ⟨rfl, rfl, Or.inl rfl⟩
  · refine ⟨rfl, ?_, Or.inr ⟨_, rfl, rfl⟩⟩
    exact (keeps_createChallenge _).commit _

end Begin

/-- A request is answered from the counters alone. -/
theorem begun (services : AuthServices) (host : EmailHost) (input : BeginInput) (db : Db) :
    Begun services input db.authRateLimitBuckets (serve host (services.begin input).run db) := by
  by_cases hnetwork : input.NetworkLimited services db.authRateLimitBuckets
  · rw [serve_begin_of_network host input db hnetwork]
    refine ⟨?_, ?_, Or.inl rfl⟩
    · rw [BeginInput.answer, if_pos hnetwork]
    · rw [BeginInput.allCounted, if_pos hnetwork]
  · have hanswer : input.answer services db.authRateLimitBuckets = .ok genericResponse :=
      if_neg hnetwork
    have hcounted : input.allCounted services db.authRateLimitBuckets =
        input.bothCounted services db.authRateLimitBuckets := if_neg hnetwork
    by_cases haccount : 5 < attempts (input.accountAttempt services).keyDigest
        (input.bothCounted services db.authRateLimitBuckets)
    · rw [serve_begin_of_account host input db hnetwork haccount]
      exact ⟨congrArg Except.ok hanswer.symm, hcounted.symm, Or.inl rfl⟩
    · obtain ⟨hresult, hcounters, henqueued⟩ := serve_begin_within host input db hnetwork haccount
      refine ⟨by rw [hresult, hanswer], by rw [hcounters, hcounted], ?_⟩
      rcases henqueued with hnone | ⟨notification, hone, hkind⟩
      · exact Or.inl hnone
      · exact Or.inr ⟨notification, hone, hkind, hnetwork, by omega⟩

/-- A request never lowers a counter. -/
theorem BeginInput.attempts_le_allCounted {input : BeginInput} {buckets : List AuthRateLimitBucket}
    {key : String} : attempts key buckets ≤ attempts key (input.allCounted services buckets) := by
  unfold allCounted
  split_ifs
  · exact attempts_le_counted
  · exact attempts_le_counted.trans attempts_le_counted

/-! ## Sequences of requests -/

variable (services)

/-- The requests, each served after the one before it, whatever is found for each. -/
def serveAll : List BeginInput → (ℕ → EmailHost) → Db →
    List (BeginInput × Served (Except AuthErrorCode GenericChallengeResponse))
  | [], _, _ => []
  | input :: requests, hosts, db =>
    let served := serve (hosts 0) (services.begin input).run db
    (input, served) :: serveAll requests (fun n => hosts (n + 1)) served.db

/-- The responses and the errors of the requests. -/
def responses (requests : List BeginInput) (hosts : ℕ → EmailHost) (db : Db) :
    List (Except RepositoryError (Except AuthErrorCode GenericChallengeResponse)) :=
  (services.serveAll requests hosts db).map fun entry => entry.2.result

/-- The notifications of a kind for an address in a window of 15 minutes. -/
def notified (kind : EmailChallengeKind) (lookupDigest : String) (window : ℤ)
    (requests : List BeginInput) (hosts : ℕ → EmailHost) (db : Db) : List SecurityNotification :=
  (services.serveAll requests hosts db).flatMap fun (input, served) =>
    if input.lookupDigest services = lookupDigest ∧ input.now / (15 * 60000) = window then
      served.enqueued.filter fun notification => notification.kind = kind.notification
    else []

/-- The responses follow from the counters. -/
theorem responses_eq_of_counters (requests : List BeginInput) {hosts₁ hosts₂ : ℕ → EmailHost}
    {db₁ db₂ : Db} (h : db₁.authRateLimitBuckets = db₂.authRateLimitBuckets) :
    services.responses requests hosts₁ db₁ = services.responses requests hosts₂ db₂ := by
  induction requests generalizing hosts₁ hosts₂ db₁ db₂ with
  | nil => rfl
  | cons input requests ih =>
    have hbegun₁ := begun services (hosts₁ 0) input db₁
    have hbegun₂ := begun services (hosts₂ 0) input db₂
    have hrest : (serve (hosts₁ 0) (services.begin input).run db₁).db.authRateLimitBuckets =
        (serve (hosts₂ 0) (services.begin input).run db₂).db.authRateLimitBuckets := by
      rw [hbegun₁.counters, hbegun₂.counters, h]
    simp only [responses, serveAll, List.map_cons]
    rw [hbegun₁.result, hbegun₂.result, h]
    exact congrArg (List.cons _) (ih hrest)

/-- The key of the counter for an address. -/
def addressKey (kind : EmailChallengeKind) (lookupDigest : String) (window : ℤ) : String :=
  keyedDigest services.rateLimitSecret
    (kind.limitName ++ "_account" ++ ":" ++ lookupDigest ++ ":" ++ toString window)

/-- A request that notifies uses an attempt for its address. -/
theorem notified_of_begun (kind : EmailChallengeKind) {input : BeginInput}
    {buckets : List AuthRateLimitBucket}
    {served : Served (Except AuthErrorCode GenericChallengeResponse)}
    (h : Begun services input buckets served) {lookupDigest : String} {window : ℤ}
    (hdigest : input.lookupDigest services = lookupDigest)
    (hwindow : input.now / (15 * 60000) = window) :
    let mine := served.enqueued.filter fun notification => notification.kind = kind.notification
    mine = [] ∨ mine.length = 1 ∧
      attempts (services.addressKey kind lookupDigest window) buckets <
        attempts (services.addressKey kind lookupDigest window) served.db.authRateLimitBuckets ∧
      attempts (services.addressKey kind lookupDigest window) served.db.authRateLimitBuckets ≤ 5 := by
  intro mine
  rcases h.enqueued with hnone | ⟨notification, hone, hkind, hnetwork, hlimit⟩
  · exact Or.inl (by simp only [mine, hnone, List.filter_nil])
  by_cases hmine : notification.kind = kind.notification
  · -- The kinds of requests have different kinds of notifications.
    have hsame : input.kind = kind := by
      rw [hkind] at hmine
      cases hrequest : input.kind <;> cases kind <;> simp_all [EmailChallengeKind.notification]
    subst hsame hdigest hwindow
    have hcounters : served.db.authRateLimitBuckets = input.bothCounted services buckets :=
      h.counters.trans (if_neg hnetwork)
    have hkey : services.addressKey input.kind (input.lookupDigest services)
        (input.now / (15 * 60000)) = (input.accountAttempt services).keyDigest := rfl
    right
    refine ⟨by simp [mine, hone, hkind], ?_, ?_⟩
    · rw [hcounters, hkey, BeginInput.bothCounted, attempts_counted_self]
      exact Nat.lt_succ_of_le attempts_le_counted
    · rw [hcounters, hkey]
      exact hlimit
  · exact Or.inl (by simp [mine, hone, hmine])

/-- The notifications use up the attempts that the counter of the address has left. -/
theorem notified_length_le (kind : EmailChallengeKind) (lookupDigest : String) (window : ℤ)
    (requests : List BeginInput) (hosts : ℕ → EmailHost) (db : Db) :
    (services.notified kind lookupDigest window requests hosts db).length ≤
      5 - attempts (services.addressKey kind lookupDigest window) db.authRateLimitBuckets := by
  induction requests generalizing hosts db with
  | nil => simp [notified, serveAll]
  | cons input requests ih =>
    have hbegun := begun services (hosts 0) input db
    have hrest := ih (fun n => hosts (n + 1)) (serve (hosts 0) (services.begin input).run db).db
    have hcounter : attempts (services.addressKey kind lookupDigest window)
        db.authRateLimitBuckets ≤ attempts (services.addressKey kind lookupDigest window)
          (serve (hosts 0) (services.begin input).run db).db.authRateLimitBuckets := by
      rw [hbegun.counters]
      exact BeginInput.attempts_le_allCounted
    simp only [notified, serveAll, List.flatMap_cons, List.length_append] at hrest ⊢
    split_ifs with hmatch
    · rcases notified_of_begun services kind hbegun hmatch.1 hmatch.2 with
        hnone | ⟨hone, hless, hlimit⟩
      · rw [hnone, List.length_nil]
        omega
      · rw [hone]
        omega
    · rw [List.length_nil]
      omega

/-- The responses and errors of a sequence of requests do not depend on the directory, and at most five
notifications of a kind are sent for an address in a window of 15 minutes. -/
theorem begin_hides_directory (services : AuthServices) (requests : List BeginInput) (db : Db) :
    (∀ hosts₁ hosts₂ : ℕ → EmailHost,
      services.responses requests hosts₁ db = services.responses requests hosts₂ db) ∧
    ∀ (hosts : ℕ → EmailHost) (kind : EmailChallengeKind) (lookupDigest : String) (window : ℤ),
      (services.notified kind lookupDigest window requests hosts db).length ≤ 5 := by
  constructor
  · intro hosts₁ hosts₂
    exact services.responses_eq_of_counters requests rfl
  · intro hosts kind lookupDigest window
    exact (services.notified_length_le kind lookupDigest window requests hosts db).trans
      (Nat.sub_le 5 _)

end AuthServices

end ChecksAndBalances
