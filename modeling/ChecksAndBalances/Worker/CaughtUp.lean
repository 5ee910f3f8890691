import ChecksAndBalances.Verus.RpcAdapter
import ChecksAndBalances.Worker.WriteGate

/-!
# Writes to a node that is behind

The preflight compares the blocks of the node with its headers and with the other report, and tests
that the longest chain is not shorter than the blocks.  A node whose longest chain is far ahead of its
blocks passes, so the writes are made by nodes that are caught up exactly as far as the nodes that are
written to have reached the longest chain they report.
-/

namespace ChecksAndBalances

open Lib Lib.Tx OutboxRepository

/-! ## The reports -/

/-- `HttpVerusRpcAdapter.getInfo`: what it makes of the result. -/
def parseInfo (result : Json) : Except VerusIntegrationError VerusInfo := do
  let raw ← requireObject (some result) "getinfo result"
  let _ ← requireString (raw.get? "VRSCversion") "VRSCversion"
  let version ← requireInteger (raw.get? "version") "version"
  let _ ← requireInteger (raw.get? "protocolversion") "protocolversion"
  let chainId ← requireString (raw.get? "chainid") "chainid"
  let name ← requireString (raw.get? "name") "name"
  let blocks ← requireInteger (raw.get? "blocks") "blocks"
  let longestChain ← requireInteger (nullish (raw.get? "longestchain") (raw.get? "blocks"))
    "longestchain"
  let connections ← requireInteger (raw.get? "connections") "connections"
  let testnet ← requireBoolean (raw.get? "testnet") "testnet"
  let errors ← requireString (raw.get? "errors") "errors"
  return { version := version.toInt, chainId, name, blocks := blocks.toInt
           longestChain := longestChain.toInt, connections := connections.toInt, testnet, errors }
where
  /-- `value ?? fallback`. -/
  nullish (value fallback : Option Json) : Option Json :=
    match value with
    | none | some .null => fallback
    | some value => some value

/-- The node has the blocks of the headers and of the longest chain that it reports, up to the lag,
and reports about the same height twice. -/
structure CaughtUp (policy : SynchronizationPolicy) (info : VerusInfo)
    (blockchain : VerusBlockchainInfo) : Prop where
  headers : blockchain.headers - blockchain.blocks ≤ policy.maximumHeaderLag
  longestChain : info.longestChain - info.blocks ≤ policy.maximumHeaderLag
  skew : |info.blocks - blockchain.blocks| ≤ policy.maximumObservationSkew

/-- The longest chain that the node reports is not ahead of its blocks by more than the lag. -/
def ReachesLongestChain (policy : SynchronizationPolicy) (info : VerusInfo) : Prop :=
  info.longestChain ≤ info.blocks + policy.maximumHeaderLag

instance (policy : SynchronizationPolicy) (info : VerusInfo) :
    Decidable (ReachesLongestChain policy info) :=
  inferInstanceAs (Decidable (_ ≤ _))

section Reports

variable {policy : SynchronizationPolicy} {info : VerusInfo} {blockchain : VerusBlockchainInfo}

/-- Among the reports that pass, those of a node that is caught up. -/
theorem caughtUp_iff (h : isUnsynced policy info blockchain = false) :
    CaughtUp policy info blockchain ↔ ReachesLongestChain policy info := by
  simp only [isUnsynced, Bool.or_eq_false_iff, decide_eq_false_iff_not, not_lt] at h
  obtain ⟨⟨⟨⟨⟨⟨-, hheaders⟩, -⟩, hskew⟩, -⟩, -⟩, -⟩ := h
  unfold ReachesLongestChain
  constructor
  · intro hcaught
    have hchain := hcaught.longestChain
    omega
  · intro hreaches
    exact ⟨hheaders, by omega, hskew⟩

/-- A longest chain that is not reported counts as reached. -/
theorem reachesLongestChain_of_absent {raw : JsonObject} (hlag : 0 ≤ policy.maximumHeaderLag)
    (habsent : raw.get? "longestchain" = none ∨ raw.get? "longestchain" = some .null)
    (h : parseInfo (.obj raw) = .ok info) : ReachesLongestChain policy info := by
  unfold parseInfo at h
  obtain ⟨raw', hraw, h⟩ := bind_ok h
  obtain rfl : raw = raw' := by
    cases requireObject_ok hraw
    rfl
  obtain ⟨-, -, h⟩ := bind_ok h
  obtain ⟨version, -, h⟩ := bind_ok h
  obtain ⟨-, -, h⟩ := bind_ok h
  obtain ⟨chainId, -, h⟩ := bind_ok h
  obtain ⟨name, -, h⟩ := bind_ok h
  obtain ⟨blocks, hblocks, h⟩ := bind_ok h
  obtain ⟨longestChain, hchain, h⟩ := bind_ok h
  obtain ⟨connections, -, h⟩ := bind_ok h
  obtain ⟨testnet, -, h⟩ := bind_ok h
  obtain ⟨errors, -, h⟩ := bind_ok h
  have hfallback : parseInfo.nullish (raw.get? "longestchain") (raw.get? "blocks") =
      raw.get? "blocks" := by
    rcases habsent with habsent | habsent <;> rw [habsent] <;> rfl
  rw [hfallback, requireInteger_ok hblocks] at hchain
  obtain rfl : blocks = longestChain := by
    cases requireInteger_ok hchain
    rfl
  rw [← Except.ok.inj h]
  show blocks.toInt ≤ blocks.toInt + policy.maximumHeaderLag
  omega

end Reports

section Gate

variable [Host] {options : VerusAnchorWorkerOptions} {job : VerusJobRecord}
  {answers : List Exchange} {update : PreparedIdentityUpdate}

/-- The protocol writes after reports that pass, under the default policy. -/
theorem Gate.reports {answered : Exchange → Prop} (h : Gate options job answers update)
    (hanswered : ∀ exchange ∈ answers, answered exchange) :
    ∃ info blockchain, answered ⟨.getInfos, .ok (info, blockchain)⟩ ∧
      isUnsynced {} info blockchain = false := by
  obtain ⟨-, payload, identity, -, -, ⟨later, trace, result, rfl, hruns, -⟩, -⟩ := h
  obtain ⟨info, blockchain, answer, vdxf, rfl, -, -, hready, -⟩ :=
    runs_runVerusWritePreflight rfl rfl hruns
  refine ⟨info, blockchain, hanswered _ (List.mem_append_right _ ?_), hready⟩
  simp

end Gate

/-! ## The writes -/

namespace System

variable {W : Type} [DecidableEq W] [Host] {options : W → VerusAnchorWorkerOptions}
  {s s' : System W} {act : Act W}

/-- Every write in the log was sent after reports of a node that is caught up, in the same attempt;
the policy of the workers is the default one. -/
def WritesCaughtUp (s : System W) : Prop :=
  Along (fun earlier entry => ∀ eventId n update, entry = .sent eventId n (.updateIdentity update) →
    ∃ info blockchain, Entry.answered eventId n ⟨.getInfos, .ok (info, blockchain)⟩ ∈ earlier ∧
      isUnsynced {} info blockchain = false ∧ CaughtUp {} info blockchain) s.log

/-- A step that sends a write comes after reports of a node that has reached the longest chain. -/
def SendsAtLongestChain (s : System W) : Act W → Prop
  | .send w => ∀ thread update k c, s.threads w = some thread →
      thread.process = .call (.rpc (.updateIdentity update)) k → thread.attempt.claim = some c →
      ∀ info blockchain,
        Entry.answered c.id c.attempt ⟨.getInfos, .ok (info, blockchain)⟩ ∈ s.log →
        ReachesLongestChain {} info
  | _ => True

omit [DecidableEq W] in
/-- A request that a worker may send as a write comes after reports that passed. -/
theorem reports_of_update (hsound : Sound options s) (hinformed : s.Informed) {w : W}
    {thread : Thread} {update : PreparedIdentityUpdate}
    {k : (Rpc.updateIdentity update).Result → Process VerusWorkerResult} {c : OutboxClaim}
    (running : s.threads w = some thread)
    (next : thread.process = .call (.rpc (.updateIdentity update)) k)
    (hclaim : thread.attempt.claim = some c) :
    ∃ info blockchain, Entry.answered c.id c.attempt ⟨.getInfos, .ok (info, blockchain)⟩ ∈ s.log ∧
      isUnsynced {} info blockchain = false := by
  have hallows := hsound.allows running next
  cases hphase : thread.attempt with
  | working claim job answers =>
    rw [hphase] at hallows hclaim
    cases hclaim
    have hgate : Gate (options w) job answers update := hallows.2.2.2.2
    exact hgate.reports fun exchange hexchange =>
      hinformed.told w thread c job answers running hphase exchange hexchange
  | _ =>
    rw [hphase] at hallows
    exact hallows.elim

theorem WritesCaughtUp.step (h : s.WritesCaughtUp) (hsound : Sound options s)
    (hinformed : s.Informed) (hsends : s.SendsAtLongestChain act) (hstep : Step options s act s') :
    s'.WritesCaughtUp := by
  refine hstep.along_writes h ?_
  rintro w thread update k c rfl running next hclaim
  obtain ⟨info, blockchain, hlogged, hready⟩ := reports_of_update hsound hinformed running next hclaim
  have hreaches := hsends thread update k c running next hclaim info blockchain hlogged
  exact ⟨info, blockchain, hlogged, hready, (caughtUp_iff hready).2 hreaches⟩

/-- Every write of a run is sent to a node that is caught up, if each comes after the reports of a
node that has reached its longest chain. -/
theorem write_caught_up {s₀ : System W} (hinit : s₀.Initial)
    (h : Reach (System.step options) SendsAtLongestChain s₀ s) : s.WritesCaughtUp := by
  have hinv : Sound options s ∧ s.Informed ∧ s.WritesCaughtUp := by
    refine h.invariant (I := fun s => Sound options s ∧ s.Informed ∧ s.WritesCaughtUp)
      ⟨hinit.sound, hinit.informed, ?_⟩ ?_
    · unfold WritesCaughtUp
      rw [hinit.log]
      trivial
    · rintro s act s' ⟨hsound, hinformed, hwrites⟩ hsends hstep
      have hstep' := step_inv hstep
      exact ⟨hsound.step hstep', hinformed.step hsound hstep',
        hwrites.step hsound hinformed hsends hstep'⟩
  exact hinv.2.2

end System

namespace CaughtUpSample

open WorkerSample

/-- A node that answers `getinfo` with the given longest chain and 10 blocks. -/
def behind (longestChain : ℤ) : (request : Rpc) → request.Result
  | .getInfos => .ok
    (⟨2000753, vrsctestChainId, "VRSCTEST", 10, longestChain, 1, true, ""⟩,
      ⟨"test", "VRSCTEST", vrsctestChainId, 10, 10, 1⟩)
  | request => node [] "" request

/-- A worker takes the first job up to the write. -/
def writes (longestChain : ℤ) : List (Act Bool) :=
  .enqueue (input "one") (context "one") :: .begin true :: calls true 0 7 ++
    asks true (behind longestChain) 3 ++ [.send true]

/-- A test of the step: every report in the log is that of a node that has reached its longest chain. -/
def sendsAtLongestChain (s : System Bool) : Act Bool → Bool
  | .send _ => s.log.all fun
    | .answered _ _ ⟨.getInfos, .ok (info, _)⟩ => decide (ReachesLongestChain {} info)
    | _ => true
  | _ => true

theorem sendsAtLongestChain_sound (s : System Bool) (act : Act Bool)
    (h : sendsAtLongestChain s act = true) : s.SendsAtLongestChain act := by
  cases act with
  | send w =>
    intro thread update k c _ _ _ info blockchain hlogged
    exact of_decide_eq_true (List.all_eq_true.1 h _ hlogged)
  | _ => trivial

theorem write_caught_up_reached : ∃ s,
    Reach (System.step (workers fun _ => 7)) System.SendsAtLongestChain start s ∧ wrote s = true ∧
      s.WritesCaughtUp := by
  obtain ⟨s, hreach, hwrote⟩ := exists_reach_of_any (System.step (workers fun _ => 7))
    (p := sendsAtLongestChain) start (writes 10) sendsAtLongestChain_sound (q := wrote)
    (by decide +kernel)
  exact ⟨s, hreach, hwrote, System.write_caught_up start_initial hreach⟩

/-- The result of `getinfo` of a node with 10 blocks of a chain of 20. -/
def infoBehind : Json := .obj [
  ("VRSCversion", .str "1.2.14-2"), ("version", .num ⟨0x413e877100000000⟩),
  ("protocolversion", .num ⟨0x4104c11800000000⟩), ("chainid", .str vrsctestChainId),
  ("name", .str "VRSCTEST"), ("blocks", .num ⟨0x4024000000000000⟩),
  ("longestchain", .num ⟨0x4034000000000000⟩), ("connections", .num ⟨0x3ff0000000000000⟩),
  ("testnet", .bool true), ("errors", .str "")]

/-- The latest entry is a write, and no report before it is that of a node that has reached its
longest chain. -/
def wroteBehind (s : System Bool) : Bool :=
  match s.log with
  | .sent _ _ (.updateIdentity _) :: earlier => earlier.all fun
    | .answered _ _ ⟨.getInfos, .ok (info, _)⟩ => !decide (ReachesLongestChain {} info)
    | _ => true
  | _ => false

theorem not_writesCaughtUp_of_wroteBehind {s : System Bool} (h : wroteBehind s = true) :
    ¬ s.WritesCaughtUp := by
  unfold wroteBehind at h
  split at h
  · next eventId n update earlier hlog =>
    intro hwrites
    unfold System.WritesCaughtUp at hwrites
    rw [hlog] at hwrites
    obtain ⟨info, blockchain, hlogged, hready, hcaught⟩ := hwrites.1 eventId n update rfl
    have hbehind := List.all_eq_true.1 h _ hlogged
    simp only [Bool.not_eq_true', decide_eq_false_iff_not] at hbehind
    exact hbehind ((caughtUp_iff hready).1 hcaught)
  · cases h

/-- The write is sent although the node has half of its longest chain. -/
theorem write_sent_behind :
    (∃ info blockchain, behind 20 .getInfos = .ok (info, blockchain) ∧
      parseInfo infoBehind = .ok info ∧ info.blocks = 10 ∧ info.longestChain = 20) ∧
    ∃ s, run (System.step (workers fun _ => 7)) start (writes 20) = some s ∧
      ¬ s.WritesCaughtUp := by
  refine ⟨⟨_, _, rfl, rfl, rfl, rfl⟩, ?_⟩
  obtain ⟨s, hrun, hwrote⟩ := exists_run_of_any (System.step (workers fun _ => 7)) start
    (writes 20) (p := wroteBehind) (by decide +kernel)
  exact ⟨s, hrun, not_writesCaughtUp_of_wroteBehind hwrote⟩

end CaughtUpSample

end ChecksAndBalances
