import ChecksAndBalances.Hosted.Service
import ChecksAndBalances.Lib.Threads

/-!
# The system of the hosted service

Any number of requests run over one Redis and one clock, and the clock advances at any time.  The
contract says which calls of the store a route makes after which calls, and what the result route
answers.
-/

namespace ChecksAndBalances

open Lib Lib.Tx Threads

/-! ## Requests -/

/-- What can happen at the service. -/
inductive HostedRequest where
  | challenge (body : Json)
  | callback (body : Json)
  | result (challengeID : String)
  | acknowledge (challengeID : String) (proofDigest : Option String)
  /-- The clock advances. -/
  | advance (ms : ℕ)

namespace HostedRequest

/-- The type of the response. -/
abbrev Response : HostedRequest → Type
  | challenge _ => ChallengeResponse
  | callback _ => Unit
  | result _ => ResultResponse
  | acknowledge _ _ => Unit
  | advance _ => Unit

/-- What a request returns or throws. -/
abbrev Result (request : HostedRequest) : Type := Except PublicError request.Response

/-- The program of a request. -/
def program [ServiceHost] [TokenSigner] (config : HostedConfig) :
    (request : HostedRequest) → Program HostedCall HostedCall.Answer request.Result
  | challenge body => (challengeRoute config body).run
  | callback body => (ChecksAndBalances.callback config body).run
  | result challengeID => (resultRoute challengeID).run
  | acknowledge challengeID proofDigest => (acknowledgeRoute challengeID proofDigest).run
  | advance ms => (HostedCall.advance ms).request.run

end HostedRequest

/-! ## The store and the clock -/

/-- Redis and the clock. -/
structure HostedStore where
  redis : Redis
  clock : ℤ

namespace HostedStore

/-- A call of Redis at the time of the clock. -/
def onRedis {α : Type} (transaction : ℤ → RedisTx α) : Tx HostedStore ChallengeStoreError α :=
  fun s => (transaction s.clock s.redis).map fun p => (p.1, { s with redis := p.2 })

theorem commits_onRedis {α : Type} {transaction : ℤ → RedisTx α} {s s' : HostedStore} {a : α} :
    Commits (onRedis transaction) s a s' ↔
      Commits (transaction s.clock) s.redis a s'.redis ∧ s'.clock = s.clock := by
  obtain ⟨redis', clock'⟩ := s'
  unfold Commits onRedis
  cases transaction s.clock s.redis with
  | error e => simp [Except.map]
  | ok p => simp [Except.map, Prod.ext_iff, and_assoc, eq_comm]

end HostedStore

/-- The transaction of a call; the other calls are questions to the host. -/
def HostedCall.exec [ServiceHost] :
    (call : HostedCall) → Option (Tx HostedStore ChallengeStoreError call.Answer)
  | now => some (do return (← get).clock)
  | store call => some (HostedStore.onRedis fun now => RedisStore.exec now call)
  | advance ms => some (modify fun s => { s with clock := s.clock + ms })
  | createChallenge _ => none
  | verifyCallback _ => none
  | getIdentityFromChain _ => none
  | randomUUID => none

/-! ## The system -/

/-- A call with its answer. -/
abbrev HostedItem := Sigma HostedCall.Answer

/-- A committed call of the store or of the clock. -/
abbrev HostedEntry (W : Type) := Threads.Entry HostedStore W HostedRequest HostedCall.Answer

/-- Redis with the clock, the running requests and the committed calls. -/
abbrev HostedSystem (W : Type) :=
  Threads.State HostedStore W HostedRequest.Result HostedCall.Answer

/-- What can happen next. -/
abbrev HostedAct (W : Type) := Threads.Act HostedStore W HostedRequest HostedCall.Answer

/-- No request of the run creates a challenge. -/
def HostedAct.Answers {W : Type} (act : HostedAct W) : Prop :=
  act.Starts fun request => ∀ body, request ≠ .challenge body

/-- One step of the system; nothing else writes to Redis. -/
def HostedSystem.step [ServiceHost] [TokenSigner] {W : Type} [DecidableEq W] (config : HostedConfig)
    (s : HostedSystem W) : HostedAct W → Option (HostedSystem W)
  | .elsewhere _ => none
  | act => Threads.State.step (HostedRequest.program config) HostedCall.exec (fun _ => ()) s act

/-! ## The contract -/

section Contract

variable [ServiceHost] [TokenSigner] (config : HostedConfig)

/-- What the challenge route stores. -/
def Creates (body : Json) (past : List HostedItem) (challenge : StoredChallenge) : Prop :=
  ∃ time input, ⟨.now, time⟩ ∈ past ∧ validateChallengeInput config body time = .ok input ∧
    toISOString input.issuedAt = some challenge.issuedAt ∧
    toISOString input.expiresAt = some challenge.expiresAt ∧
    challenge.state = input.state ∧ challenge.audience = input.audience

/-- What the callback route stores. -/
def Issues (past : List HostedItem) (challengeID : String) (result : StoredResult) : Prop :=
  ∃ read challenge identity current challengeExpiry expiresIn jwtid expiresAt,
    ⟨.store (.getChallenge read), some challenge⟩ ∈ past ∧ challengeID = challenge.challengeID ∧
    ⟨.now, current⟩ ∈ past ∧ iaddressPattern identity.identityAddress = true ∧
    dateParse challenge.expiresAt = some challengeExpiry ∧
    expiresIn = min config.resultTokenMaxLifetimeSeconds (challengeExpiry / 1000 - current / 1000) ∧
    1 ≤ expiresIn ∧ toISOString ((current / 1000 + expiresIn) * 1000) = some expiresAt ∧
    result = tokenResult (TokenSigner.sign (tokenPayload challenge identity) config.jwtSecret
      (tokenOptions config challenge expiresIn jwtid) current) identity expiresAt

namespace HostedRequest

/-- The calls that a route makes. -/
def Allows (request : HostedRequest) (past : List HostedItem) : HostedCall → Prop
  | .store (.createChallenge created) =>
    ∃ body, request = .challenge body ∧ Creates config body past created
  | .store (.putResult challengeID issued) =>
    (∃ body, request = .callback body) ∧ Issues config past challengeID issued
  | .store (.getResult challengeID) => ∀ id, request = .result id → challengeID = id ∧ past = []
  | _ => True

/-- What the result route answers. -/
def Returns : (request : HostedRequest) → List HostedItem → request.Result → Prop
  | .result challengeID, past, .ok response =>
    ∃ found : Option StoredResult, past = [⟨.store (.getResult challengeID), found⟩] ∧
      response = found.elim .pending StoredResult.response
  | _, _, _ => True

end HostedRequest

/-- The contract of the routes. -/
def hostedContract : Contract HostedRequest.Result HostedCall.Answer where
  allows := HostedRequest.Allows config
  admits _ _ := True
  returns := HostedRequest.Returns

/-! ## The routes honour the contract -/

namespace HostedProgram

variable {config} {request : HostedRequest} {past : List HostedItem} {α β : Type}
  {Q : List HostedItem → Except PublicError β → Prop}

theorem follows_call {call : HostedCall} {f : call.Answer → HostedProgram β}
    (hallow : request.Allows config past call)
    (h : ∀ answer, Follows ((hostedContract config).protocol request) (⟨call, answer⟩ :: past)
      (f answer).run Q) :
    Follows ((hostedContract config).protocol request) past (call.request >>= f).run Q :=
  Follows.lift_bind (Follows.request hallow fun answer _ => h answer)

theorem follows_orThrow {value : Option α} {error : PublicError} {f : α → HostedProgram β}
    (herror : Q past (.error error))
    (h : ∀ a, value = some a →
      Follows ((hostedContract config).protocol request) past (f a).run Q) :
    Follows ((hostedContract config).protocol request) past (orThrow value error >>= f).run Q := by
  refine Follows.ofExcept_bind (fun a ha => h a ?_) (fun e he => ?_)
  · cases value with
    | none => cases ha
    | some b => exact congrArg some (Except.ok.inj ha)
  · cases value with
    | none => exact Except.error.inj he ▸ herror
    | some b => cases he

/-- A last check. -/
theorem follows_throwIf {p : Prop} [Decidable p] {error : PublicError}
    {Q : List HostedItem → Except PublicError Unit → Prop} (herror : Q past (.error error))
    (hok : Q past (.ok ())) :
    Follows ((hostedContract config).protocol request) past
      (Program.throwIf p error : HostedProgram Unit).run Q := by
  unfold Program.throwIf
  split_ifs
  · exact herror
  · exact hok

theorem follows_challengeRoute (body : Json) :
    Follows ((hostedContract config).protocol (.challenge body)) [] (challengeRoute config body).run
      ((hostedContract config).returns (.challenge body)) := by
  unfold challengeRoute
  refine follows_call trivial fun time => Follows.ofExcept_bind (fun input hinput => ?_)
    fun _ _ => trivial
  refine follows_call trivial fun presentation => follows_orThrow trivial fun presentation _ => ?_
  refine Follows.throwIf_bind (fun _ => trivial) fun _ => ?_
  refine follows_orThrow trivial fun issuedAt hissuedAt => ?_
  refine follows_orThrow trivial fun expiresAt hexpiresAt => ?_
  refine follows_call ⟨body, rfl, time, input, by simp, hinput, hissuedAt, hexpiresAt, rfl, rfl⟩
    fun created => ?_
  exact Follows.throwIf_bind (fun _ => trivial) fun _ => Follows.pure trivial

omit [ServiceHost] [TokenSigner] in
/-- An identity that was checked is the one that the wallet names. -/
theorem validateIdentityActive_eq_some {result : Option Json} {expectedIdentity : String}
    {expectedSystem : String} {identity : ActiveIdentity}
    (h : validateIdentityActive result expectedIdentity expectedSystem = some identity) :
    identity.identityAddress = expectedIdentity := by
  unfold validateIdentityActive at h
  simp only [Option.bind_eq_bind, Option.bind_eq_some_iff] at h
  obtain ⟨result, -, object, -, h⟩ := h
  split_ifs at h
  rw [← Option.some.inj h]

theorem follows_checkIdentity {body : Json} {identityAddress : String} {prefetched : Option Json}
    {f : Option ActiveIdentity → HostedProgram Unit}
    {Q : List HostedItem → Except PublicError Unit → Prop}
    (h : ∀ answers identity, (∀ active ∈ identity, active.identityAddress = identityAddress ∧
        iaddressPattern identityAddress = true) →
      Follows ((hostedContract config).protocol (.callback body)) (answers ++ past)
        (f identity).run Q) :
    Follows ((hostedContract config).protocol (.callback body)) past
      (checkIdentity config identityAddress prefetched >>= f).run Q := by
  refine Follows.except_bind ?_
  unfold checkIdentity
  split_ifs with hpattern
  · exact Follows.pure (h [] none nofun)
  · rw [Bool.not_eq_false] at hpattern
    cases prefetched.filter Json.truthy with
    | some result =>
      refine Follows.pure (h [] _ fun active hactive => ?_)
      exact ⟨validateIdentityActive_eq_some hactive, hpattern⟩
    | none =>
      refine follows_call trivial fun result => Follows.pure (h [_] _ fun active hactive => ?_)
      exact ⟨validateIdentityActive_eq_some hactive, hpattern⟩

theorem follows_issueResult {body : Json} {read : String} {challenge : StoredChallenge}
    {identity : ActiveIdentity} (hidentity : iaddressPattern identity.identityAddress = true)
    (hread : ⟨.store (.getChallenge read), some challenge⟩ ∈ past) :
    Follows ((hostedContract config).protocol (.callback body)) past
      (issueResult config challenge identity).run
      ((hostedContract config).returns (.callback body)) := by
  unfold issueResult
  refine follows_call trivial fun current => ?_
  refine follows_orThrow trivial fun challengeExpiry hexpiry => ?_
  refine Follows.throwIf_bind (fun _ => trivial) fun hlive => ?_
  refine follows_call trivial fun jwtid => ?_
  refine follows_orThrow trivial fun expiresAt hexpiresAt => ?_
  refine follows_call ⟨⟨body, rfl⟩, read, challenge, identity, current, challengeExpiry, _, jwtid,
    expiresAt, ?_, rfl, by simp, hidentity, hexpiry, rfl, not_lt.1 hlive, hexpiresAt, rfl⟩
    fun outcome => ?_
  · exact List.mem_cons_of_mem _ (List.mem_cons_of_mem _ hread)
  · exact Follows.throwIf_bind (fun _ => trivial) fun _ => follows_throwIf trivial trivial

theorem follows_callback (body : Json) :
    Follows ((hostedContract config).protocol (.callback body)) []
      (ChecksAndBalances.callback config body).run
      ((hostedContract config).returns (.callback body)) := by
  unfold ChecksAndBalances.callback
  refine Follows.throwIf_bind (fun _ => trivial) fun _ => ?_
  refine follows_call trivial fun verified => follows_orThrow trivial fun verified _ => ?_
  refine Follows.throwIf_bind (fun _ => trivial) fun _ => ?_
  refine follows_call trivial fun challenge => follows_orThrow trivial fun challenge hchallenge => ?_
  refine follows_call trivial fun current => ?_
  refine Follows.throwIf_bind (fun _ => trivial) fun _ => ?_
  refine Follows.throwIf_bind (fun _ => trivial) fun _ => ?_
  refine follows_checkIdentity fun answers identity hidentity => ?_
  refine follows_orThrow trivial fun active hactive => ?_
  refine follows_call (fun _ h => nomatch h) fun existing => ?_
  cases existing with
  | some existing => exact follows_throwIf trivial trivial
  | none =>
    obtain ⟨haddress, hpattern⟩ := hidentity active hactive
    subst hchallenge
    refine follows_issueResult (haddress ▸ hpattern) (List.mem_cons_of_mem _
      (List.mem_append_right _ (List.mem_cons_of_mem _ List.mem_cons_self)))

theorem follows_resultRoute (challengeID : String) :
    Follows ((hostedContract config).protocol (.result challengeID)) [] (resultRoute challengeID).run
      ((hostedContract config).returns (.result challengeID)) := by
  unfold resultRoute
  refine Follows.throwIf_bind (fun _ => trivial) fun _ => ?_
  refine follows_call (fun _ h => ⟨HostedRequest.result.inj h, rfl⟩) fun found => ?_
  cases found with
  | none => exact Follows.pure ⟨none, rfl, rfl⟩
  | some result => exact Follows.pure ⟨some result, rfl, rfl⟩

theorem follows_acknowledgeRoute (challengeID : String) (proofDigest : Option String) :
    Follows ((hostedContract config).protocol (.acknowledge challengeID proofDigest)) []
      (acknowledgeRoute challengeID proofDigest).run
      ((hostedContract config).returns (.acknowledge challengeID proofDigest)) := by
  unfold acknowledgeRoute
  refine Follows.throwIf_bind (fun _ => trivial) fun _ => ?_
  exact follows_call trivial fun current => follows_call trivial fun acknowledged =>
    follows_throwIf trivial trivial

/-! ### Traces -/

/-- A callback that stores its result. -/
theorem callback_runs {body : Json} (hbody : body.isObject = true) {verified : VerifiedCallback}
    {challenge : StoredChallenge} (hpattern : iaddressPattern challenge.challengeID = true)
    (hread : verified.challengeID = some challenge.challengeID) {current challengeExpiry : ℤ}
    (hfresh : MemoryStore.expired current challenge.expiresAt = false)
    (hanswers : verified.answers config challenge = true) {object : Json}
    (hobject : verified.identity = some object) (htruthy : object.truthy = true)
    {identity : ActiveIdentity}
    (hactive : validateIdentityActive (some object) (verified.identityAddress.getD "")
      config.chainId = some identity)
    (hexpiry : dateParse challenge.expiresAt = some challengeExpiry) {expiresIn : ℤ}
    (hexpiresIn : expiresIn = min config.resultTokenMaxLifetimeSeconds
      (challengeExpiry / 1000 - current / 1000)) (hlive : 1 ≤ expiresIn) {expiresAt : String}
    (hexpiresAt : toISOString ((current / 1000 + expiresIn) * 1000) = some expiresAt)
    (jwtid : String) :
    (ChecksAndBalances.callback config body).run.Runs [⟨.verifyCallback body, some verified⟩,
      ⟨.store (.getChallenge challenge.challengeID), some challenge⟩, ⟨.now, current⟩,
      ⟨.store (.getResult challenge.challengeID), none⟩, ⟨.now, current⟩, ⟨.randomUUID, jwtid⟩,
      ⟨.store (.putResult challenge.challengeID (tokenResult
        (TokenSigner.sign (tokenPayload challenge identity) config.jwtSecret
          (tokenOptions config challenge expiresIn jwtid) current) identity expiresAt)), .stored⟩]
      (.ok ()) := by
  subst hexpiresIn
  have haddress : iaddressPattern (verified.identityAddress.getD "") = true := by
    simp only [VerifiedCallback.answers, Bool.and_eq_true] at hanswers
    exact hanswers.1.2
  unfold ChecksAndBalances.callback
  refine Program.Runs.throwIf_bind (by simp [hbody]) ?_
  refine Program.Runs.lift_request_bind ?_
  refine Program.Runs.throwIf_bind (by simp [hread, hpattern]) ?_
  rw [hread, Option.getD_some]
  refine Program.Runs.lift_request_bind ?_
  refine Program.Runs.lift_request_bind ?_
  refine Program.Runs.throwIf_bind (by simp [hfresh]) ?_
  refine Program.Runs.throwIf_bind (by simp [hanswers]) ?_
  have hcheck : (checkIdentity config (verified.identityAddress.getD "") verified.identity).run.Runs
      [] (.ok (some identity)) := by
    rw [checkIdentity, if_neg (by simp [haddress]), hobject, Option.filter_some, if_pos htruthy]
    exact ⟨rfl, congrArg Except.ok hactive⟩
  refine hcheck.except_bind ?_
  refine Program.Runs.lift_request_bind ?_
  unfold issueResult
  refine Program.Runs.lift_request_bind ?_
  rw [hexpiry]
  refine Program.Runs.throwIf_bind (not_lt.2 hlive) ?_
  refine Program.Runs.lift_request_bind ?_
  rw [hexpiresAt]
  refine Program.Runs.lift_request_bind ?_
  refine Program.Runs.throwIf_bind (by decide) ?_
  rw [Program.throwIf, if_neg (by decide)]
  exact ⟨rfl, rfl⟩

omit [ServiceHost] [TokenSigner] in
/-- A fetch. -/
theorem resultRoute_runs {challengeID : String} (hpattern : iaddressPattern challengeID = true)
    (found : Option StoredResult) :
    (resultRoute challengeID).run.Runs [⟨.store (.getResult challengeID), found⟩]
      (.ok (found.elim .pending StoredResult.response)) := by
  unfold resultRoute
  refine Program.Runs.throwIf_bind (by simp [hpattern]) ?_
  refine Program.Runs.lift_request_bind ?_
  cases found <;> exact ⟨rfl, rfl⟩

end HostedProgram

/-- Every route honours the contract. -/
theorem hostedContract_honoured (config : HostedConfig) (request : HostedRequest) :
    Follows ((hostedContract config).protocol request) [] (request.program config)
      ((hostedContract config).returns request) := by
  cases request with
  | challenge body => exact HostedProgram.follows_challengeRoute body
  | callback body => exact HostedProgram.follows_callback body
  | result challengeID => exact HostedProgram.follows_resultRoute challengeID
  | acknowledge challengeID proofDigest =>
    exact HostedProgram.follows_acknowledgeRoute challengeID proofDigest
  | advance ms => exact ⟨trivial, fun _ _ => trivial⟩

/-! ## Runs -/

variable {W : Type} [DecidableEq W] {config : HostedConfig}
  {C : HostedSystem W → HostedAct W → Prop} {s₀ s : HostedSystem W}

/-- The runs of the service are runs of its programs in which nothing else happens to Redis. -/
theorem threads_of_reach [DecidableEq HostedStore]
    (hrun : Reach (HostedSystem.step config) C s₀ s) :
    Reach (fun s => Threads.State.step (HostedRequest.program config) HostedCall.exec id s) C s₀ s := by
  refine Relation.ReflTransGen.mono ?_ _ _ hrun
  rintro s₁ s₂ ⟨act, hact, hstep⟩
  refine ⟨act, hact, ?_⟩
  cases act with
  | elsewhere => cases hstep
  | start | store | host => exact hstep

/-- The log of a run leads to Redis and the clock, and every thread honours the contract. -/
theorem hostedTraced_of_reach (hs₀ : Threads.State.Initial s₀)
    (hrun : Reach (HostedSystem.step config) C s₀ s) :
    Threads.State.Traced HostedCall.exec (hostedContract config) id s₀.store s := by
  classical
  refine traced_of_reach (C := fun _ act => act.Answers (hostedContract config))
    (hostedContract_honoured config) (fun _ _ _ _ _ _ _ => trivial) (fun _ _ h => h) hs₀
    ((threads_of_reach hrun).mono fun _ act _ => ?_)
  cases act with
  | host => exact fun _ => trivial
  | start | store | elsewhere => trivial

/-- A request that is not to create a challenge can run to its end without any other step in
between. -/
theorem exists_reach_request {w : W} {request : HostedRequest}
    (hrequest : ∀ body, request ≠ .challenge body) {host : (call : HostedCall) → call.Answer}
    {trace : List HostedItem} {result : request.Result}
    (hruns : (request.program config).Runs trace result) (hw : s.threads w = none)
    {store : HostedStore} (hanswered : Answered HostedCall.exec host trace s.store store) :
    ∃ s' : HostedSystem W, Reach (HostedSystem.step config) (fun _ act => HostedAct.Answers act) s s' ∧
      s'.store = store ∧ s'.threads = Function.update s.threads w
        (some { request, past := trace.reverse, process := some (.done result) }) ∧
      s'.log.map Entry.item = (stored HostedCall.exec trace).reverse ++ s.log.map Entry.item := by
  obtain ⟨s₁, hstart, hs₁, hthreads₁, hlog₁⟩ : ∃ s₁ : HostedSystem W,
      HostedSystem.step config s (.start w request) = some s₁ ∧ s₁.store = s.store ∧
      s₁.threads = Function.update s.threads w
        (some { request, past := [], process := some (request.program config) }) ∧
      s₁.log = s.log := by
    refine ⟨Threads.State.put s w
      { request, past := [], process := some (request.program config) }, ?_, rfl, rfl, rfl⟩
    simp only [HostedSystem.step, State.step, hw]
  obtain ⟨s', hreach, hs', hthreads, hlog⟩ : ∃ s' : HostedSystem W,
      Reach (fun s => State.step (HostedRequest.program config) HostedCall.exec (fun _ => ()) s)
        (fun _ act => HostedAct.Answers act ∧ ∀ store, act ≠ .elsewhere store) s₁ s' ∧
      s'.store = store ∧ s'.threads = Function.update s₁.threads w
        (some { request, past := trace.reverse ++ [], process := some (.done result) }) ∧
      s'.log.map Entry.item = (stored HostedCall.exec trace).reverse ++ s₁.log.map Entry.item :=
    exists_reach_alone (fun _ => ⟨trivial, by rintro _ ⟨⟩⟩) (fun _ => ⟨trivial, by rintro _ ⟨⟩⟩) hruns
      (by rw [hthreads₁, Function.update_self]) (hs₁ ▸ hanswered)
  refine ⟨s', (Reach.tail (Reach.refl s) hrequest hstart).trans ?_, hs', ?_, hlog₁ ▸ hlog⟩
  · refine Relation.ReflTransGen.mono ?_ _ _ hreach
    rintro s₂ s₃ ⟨act, ⟨hact, helsewhere⟩, hstep⟩
    refine ⟨act, hact, ?_⟩
    cases act with
    | elsewhere store => exact absurd rfl (helsewhere store)
    | start | store | host => exact hstep
  · rw [hthreads, hthreads₁, Function.update_idem, List.append_nil]

/-- A run without challenge requests has none in its log. -/
theorem hostedRequested_of_reach {P : HostedRequest → Prop}
    (hC : ∀ s act, C s act → act.Starts P) (hs₀ : Threads.State.Initial s₀)
    (hrun : Reach (HostedSystem.step config) C s₀ s) : Threads.State.Requested P s := by
  classical
  exact requested_of_reach hC hs₀ (threads_of_reach hrun)

end Contract

end ChecksAndBalances
