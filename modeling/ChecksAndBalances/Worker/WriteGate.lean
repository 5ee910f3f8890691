import ChecksAndBalances.Worker.Fencing
import ChecksAndBalances.Worker.History
import ChecksAndBalances.Worker.Payload

/-!
# The write gate

What stands between a job and a write: the node and the identity were asked in the same attempt and
gave the expected answers, the target is approved, and the identity is written back as it was read but
for the content entry of the manifest.
-/

namespace ChecksAndBalances

open Lib Lib.Tx OutboxRepository

/-- The target of the manifest is on the list. -/
def Approved (options : VerusAnchorWorkerOptions) (manifest : VerusManifest) : Prop :=
  ∃ target ∈ options.approvedWriteTargets, target.operationType = manifest.operationType ∧
    target.targetIdentity = manifest.targetIdentity ∧ target.vdxfUri = manifest.vdxfUri ∧
    target.vdxfKey = manifest.vdxfKey ∧
    target.manifestPolicyReference = manifest.manifestPolicyReference

/-- Both reports are those of a supported VRSCTEST node. -/
def IsTestNode (info : VerusInfo) (blockchain : VerusBlockchainInfo) : Prop :=
  info.name = vrsctestNetwork ∧ info.chainId = vrsctestChainId ∧ info.testnet = true ∧
    minimumVerusNodeVersion ≤ info.version ∧ blockchain.name = vrsctestNetwork ∧
    blockchain.chainId = vrsctestChainId ∧ blockchain.chain = "test"

/-- The identity is active, signable by the node and of the test system. -/
def IsSignable (address : String) (answer : VerusIdentityResult) : Prop :=
  answer.identity.identityAddress = address ∧ answer.status = "active" ∧
    answer.canSignFor = true ∧ answer.identity.systemId = vrsctestChainId

/-- The identity is written back with one entry under the key, and nothing else changed. -/
def WritesEntry (read written : VerusIdentityDefinition) (key text : String) : Prop :=
  ∃ map, written = { read with contentMultiMap := map } ∧
    map.lookup key = some [.str (toHex (encodeUtf8 text))] ∧
    ∀ other, other ≠ key → map.lookup other = read.contentMultiMap.lookup other

/-- The gate in front of a write: what was answered, and what is written. -/
structure WriteGate (options : VerusAnchorWorkerOptions) (manifest : VerusManifest)
    (answered : Exchange → Prop) (update : PreparedIdentityUpdate) : Prop where
  approved : Approved options manifest
  node : ∃ info blockchain, answered ⟨.getInfos, .ok (info, blockchain)⟩ ∧ IsTestNode info blockchain
  identity : ∃ answer, answered ⟨.getIdentity manifest.targetIdentity, .ok answer⟩ ∧
    IsSignable manifest.targetIdentity answer ∧
    WritesEntry answer.identity update.identity manifest.vdxfKey manifest.manifestCanonical
  vdxf : ∃ answer, answered ⟨.getVdxfId manifest.vdxfUri, .ok answer⟩ ∧
    answer.vdxfId = manifest.vdxfKey
  digest : sha256 manifest.manifestCanonical = manifest.manifestDigest

section Gate

variable [Host] {options : VerusAnchorWorkerOptions} {job : VerusJobRecord}
  {answers : List Exchange} {update : PreparedIdentityUpdate}

omit [Host] in
theorem writesEntry_of_prepare {identity : VerusIdentityDefinition} {payload : CanonicalPayload}
    (hbytes : payload.bytes = encodeUtf8 job.manifestCanonical)
    (h : prepareIdentityContentUpdate identity job.vdxfKey payload = .ok update) :
    WritesEntry identity update.identity job.vdxfKey job.manifestCanonical := by
  unfold prepareIdentityContentUpdate at h
  split_ifs at h
  rw [← Except.ok.inj h, hbytes]
  exact ⟨_, rfl, lookup_setEntry_self _ _ _, fun other hother => lookup_setEntry_of_ne _ _ hother⟩

/-- The gate of the protocol is the write gate of the manifest. -/
theorem Gate.writeGate {answered : Exchange → Prop} (h : Gate options job answers update)
    (hanswered : ∀ exchange ∈ answers, answered exchange) :
    WriteGate options job.toVerusManifest answered update := by
  obtain ⟨happroved, payload, identity, hpayload, hmatches, hpreflight, hupdate⟩ := h
  obtain ⟨later, trace, result, rfl, hruns, hidentity⟩ := hpreflight
  obtain ⟨info, blockchain, answer, vdxf, rfl, hnetwork, hversion, -, hacceptable, hkey, hresult⟩ :=
    runs_runVerusWritePreflight rfl rfl hruns
  simp only [payloadMatches, Bool.and_eq_true, decide_eq_true_eq] at hmatches
  obtain ⟨-, hbytes, hdigest⟩ := payload_text hpayload hmatches.2
  obtain rfl : identity = answer := Option.some.inj (hidentity.symm.trans hresult)
  have hseen : ∀ exchange ∈ [(⟨.getInfos, .ok (info, blockchain)⟩ : Exchange),
      ⟨.getIdentity job.targetIdentity, .ok identity⟩, ⟨.getVdxfId job.vdxfUri, .ok vdxf⟩],
      answered exchange :=
    fun exchange hexchange =>
      hanswered exchange (List.mem_append_right _ (List.mem_reverse.2 hexchange))
  refine ⟨?_, ⟨info, blockchain, hseen _ (by simp), ?_⟩, ⟨identity, hseen _ (by simp), ?_,
    writesEntry_of_prepare hbytes hupdate⟩, ⟨vdxf, hseen _ (by simp), hkey⟩,
    hdigest.symm.trans hmatches.1⟩
  · simp only [approvedTargets, List.any_eq_true, Bool.and_eq_true, decide_eq_true_eq] at happroved
    obtain ⟨target, htarget, ⟨⟨⟨hoperation, hidentity⟩, huri⟩, hkey⟩, hpolicy⟩ := happroved
    exact ⟨target, htarget, hoperation, hidentity, huri, hkey, hpolicy⟩
  · simp only [expectedNetwork, preflightPolicy, Bool.and_eq_true, decide_eq_true_eq] at hnetwork
    obtain ⟨⟨⟨⟨⟨htestnet, hname⟩, hchain⟩, hname'⟩, hchain'⟩, htest⟩ := hnetwork
    exact ⟨hname, of_decide_eq_true hchain, htestnet, hversion, hname', of_decide_eq_true hchain',
      htest⟩
  · simp only [identityAcceptable, Bool.and_eq_true, decide_eq_true_eq, List.mem_singleton,
      Bool.not_true, Bool.false_or] at hacceptable
    obtain ⟨⟨⟨haddress, hsystem⟩, hstatus⟩, hsign⟩ := hacceptable
    exact ⟨haddress, hstatus, hsign, hsystem⟩

end Gate

namespace System

variable {W : Type} [DecidableEq W] [Host] {options : W → VerusAnchorWorkerOptions}
  {s s' : System W} {act : Act W}

/-- Every write in the log passed the gate of the job of its event: what it needs was answered before
in the same attempt. -/
def WritesGated (options : W → VerusAnchorWorkerOptions) (s : System W) : Prop :=
  Along (fun earlier entry => ∀ eventId n update, entry = .sent eventId n (.updateIdentity update) →
    ∃ w, ∃ row ∈ s.db.jobs, row.outboxEventId = eventId ∧
      WriteGate (options w) row.toVerusManifest
        (fun exchange => Entry.answered eventId n exchange ∈ earlier) update) s.log

omit [DecidableEq W] in
/-- A request that a worker may send as a write is gated. -/
theorem gate_of_update (hsound : Sound options s) (hinformed : s.Informed) {w : W} {thread : Thread}
    {update : PreparedIdentityUpdate}
    {k : (Rpc.updateIdentity update).Result → Process VerusWorkerResult} {c : OutboxClaim}
    (running : s.threads w = some thread)
    (next : thread.process = .call (.rpc (.updateIdentity update)) k)
    (hclaim : thread.attempt.claim = some c) :
    ∃ row ∈ s.db.jobs, row.outboxEventId = c.id ∧ WriteGate (options w) row.toVerusManifest
      (fun exchange => Entry.answered c.id c.attempt exchange ∈ s.log) update := by
  have hallows := hsound.allows running next
  cases hphase : thread.attempt with
  | working claim job answers =>
    rw [hphase] at hallows hclaim
    cases hclaim
    obtain ⟨row, hrow, hkey, hmanifest⟩ := hinformed.known w thread c job answers running hphase
    refine ⟨row, hrow, hkey, ?_⟩
    rw [hmanifest]
    have hgate : Gate (options w) job answers update := hallows.2.2.2.2
    exact hgate.writeGate fun exchange hexchange =>
      hinformed.told w thread c job answers running hphase exchange hexchange
  | _ =>
    rw [hphase] at hallows
    exact hallows.elim

theorem WritesGated.step (h : WritesGated options s) (hsound : Sound options s)
    (hinformed : s.Informed) (hstep : Step options s act s') : WritesGated options s' := by
  have hkept := hstep.sameWork hsound
  -- The writes so far: the jobs keep their manifests.
  have hold : Along (fun earlier entry => ∀ eventId n update,
      entry = .sent eventId n (.updateIdentity update) →
      ∃ w, ∃ row ∈ s'.db.jobs, row.outboxEventId = eventId ∧
        WriteGate (options w) row.toVerusManifest
          (fun exchange => Entry.answered eventId n exchange ∈ earlier) update) s.log := by
    refine Along.mono ?_ h
    intro earlier entry hentry eventId n update heq
    obtain ⟨w, row, hrow, hkey, hgate⟩ := hentry eventId n update heq
    obtain ⟨row', hrow', hsame⟩ := hkept row hrow
    refine ⟨w, row', hrow', hsame.1.trans hkey, ?_⟩
    rw [hsame.2]
    exact hgate
  refine hstep.along_writes hold ?_
  rintro w thread update k c rfl running next hclaim
  obtain ⟨row, hrow, hkey, hgate⟩ := gate_of_update hsound hinformed running next hclaim
  obtain ⟨row', hrow', hsame⟩ := hkept row hrow
  refine ⟨w, row', hrow', hsame.1.trans hkey, ?_⟩
  rw [hsame.2]
  exact hgate

/-- Every write of every run passed the gate. -/
theorem write_gate {s₀ : System W} (hinit : s₀.Initial)
    (h : Reach (System.step options) (fun _ _ => True) s₀ s) : WritesGated options s := by
  have hinv : Sound options s ∧ s.Informed ∧ WritesGated options s := by
    refine h.invariant (I := fun s => Sound options s ∧ s.Informed ∧ WritesGated options s)
      ⟨hinit.sound, hinit.informed, ?_⟩ ?_
    · unfold WritesGated
      rw [hinit.log]
      trivial
    · rintro s act s' ⟨hsound, hinformed, hgated⟩ - hstep
      have hstep' := step_inv hstep
      exact ⟨hsound.step hstep', hinformed.step hsound hstep',
        hgated.step hsound hinformed hstep'⟩
  exact hinv.2.2

end System

namespace WorkerSample

/-- An identity with the given entries under the key of the samples. -/
def identity (entries : List Json) : VerusIdentityDefinition :=
  { version := ⟨0x4008000000000000⟩
    flags := ⟨0⟩
    primaryAddresses := []
    minimumSignatures := ⟨0x3ff0000000000000⟩
    name := "cbc"
    identityAddress := "iC7jT1JAJJZHrS4JnHRbgLn9qUQokMsedM"
    parent := vrsctestChainId
    systemId := vrsctestChainId
    contentMap := []
    contentMultiMap := [("iQxTRgN4ZaYQcWAspPfsNS5YFHTEahLgEP", entries)]
    revocationAuthority := "iC7jT1JAJJZHrS4JnHRbgLn9qUQokMsedM"
    recoveryAuthority := "iC7jT1JAJJZHrS4JnHRbgLn9qUQokMsedM"
    timelock := ⟨0⟩ }

/-- The transaction of the sample writes. -/
def transaction : TransactionId :=
  ⟨"00000000000000000000000000000000000000000000000000000000000000aa", by decide⟩

def blockHash : String := "00000000000000000000000000000000000000000000000000000000000000bb"

/-- A synchronized test node whose latest update of the identity is the given transaction. -/
def node (entries : List Json) (latest : String) : (request : Rpc) → request.Result
  | .getInfos => .ok
    (⟨2000753, vrsctestChainId, "VRSCTEST", 10, 10, 1, true, ""⟩,
      ⟨"test", "VRSCTEST", vrsctestChainId, 10, 10, 1⟩)
  | .getIdentity _ => .ok ⟨identity entries, "active", true, 5, latest⟩
  | .getVdxfId _ => .ok ⟨"iQxTRgN4ZaYQcWAspPfsNS5YFHTEahLgEP"⟩
  | .getIdentityContent _ _ => .ok ⟨identity entries, "active", true, 5, latest⟩
  | .updateIdentity _ => .ok transaction
  | .getRawTransaction id => .ok ⟨id, some blockHash, 1⟩
  | .getBlock hash => .ok ⟨hash, 1, 10, [transaction.val]⟩
  | .getBlockHash _ => .ok blockHash

/-- Consecutive requests of a worker to a node. -/
def asks (w : Bool) (node : (request : Rpc) → request.Result) (n : ℕ) : List (Act Bool) :=
  (List.replicate n [.send w, .receive w node]).flatten

/-- A worker takes the first job up to the write. -/
def writes : List (Act Bool) :=
  .enqueue (input "one") (context "one") :: .begin true :: calls true 0 7 ++
    asks true (node [] "") 3 ++ [.send true]

/-- The latest entry is a write. -/
def wrote (s : System Bool) : Bool :=
  match s.log with
  | .sent _ _ (.updateIdentity _) :: _ => true
  | _ => false

theorem write_gate_first_write : ∃ s,
    run (System.step (workers fun _ => 7)) start writes = some s ∧ wrote s = true ∧
      System.WritesGated (workers fun _ => 7) s := by
  obtain ⟨s, hrun, hwrote⟩ := exists_run_of_any (System.step (workers fun _ => 7)) start
    writes (p := wrote) (by decide +kernel)
  exact ⟨s, hrun, hwrote, System.write_gate start_initial
    (reach_of_run hrun (allSteps_of_mem (fun _ _ _ => trivial) _))⟩

end WorkerSample

end ChecksAndBalances
