import ChecksAndBalances.Verus.Types

/-!
# The write preflight

`runVerusWritePreflight` of `packages/verus/src/preflight.ts`, with its defaults.
-/

namespace ChecksAndBalances

/-- `ExpectedVerusIdentity`. -/
structure ExpectedVerusIdentity where
  identityAddress : String
  systemId : String
  allowedStatuses : List String
  mustBeSignableByNode : Bool

/-- `ExpectedVdxfIdentifier`. -/
structure ExpectedVdxfIdentifier where
  uri : String
  vdxfId : String

/-- `0.999_999`, rounded to a double. -/
def defaultVerificationProgress : ℚ := 9007190247541737 / 9007199254740992

/-- The synchronization settings of `VerusWritePreflightPolicy`, with the defaults of
`runVerusWritePreflight`. -/
structure SynchronizationPolicy where
  minimumVerificationProgress : ℚ := defaultVerificationProgress
  maximumHeaderLag : ℤ := 0
  maximumObservationSkew : ℤ := 1
  requirePeers : Bool := true

/-- `VerusWritePreflightPolicy`, with the defaults of `runVerusWritePreflight`. -/
structure VerusWritePreflightPolicy extends SynchronizationPolicy where
  serverSelectedNetwork : String
  expectedChainId : String
  minimumNodeVersion : ℤ := minimumVerusNodeVersion
  expectedIdentity : Option ExpectedVerusIdentity
  expectedVdxf : Option ExpectedVdxfIdentifier
  writeCapabilityEnabled : Bool

/-- `VerusWritePreflightResult`. -/
structure VerusWritePreflightResult where
  info : VerusInfo
  blockchain : VerusBlockchainInfo
  identity : Option VerusIdentityResult
  vdxf : Option VerusVdxfId

/-- The node reports the expected system and chain. -/
def expectedNetwork (policy : VerusWritePreflightPolicy) (info : VerusInfo)
    (blockchain : VerusBlockchainInfo) : Bool :=
  info.testnet && info.name = vrsctestNetwork && info.chainId = policy.expectedChainId &&
    blockchain.name = vrsctestNetwork && blockchain.chainId = policy.expectedChainId &&
    blockchain.chain = "test"

/-- The node is not ready and synchronized for write work. -/
def isUnsynced (policy : SynchronizationPolicy) (info : VerusInfo)
    (blockchain : VerusBlockchainInfo) : Bool :=
  blockchain.headers - blockchain.blocks < 0 ||
    policy.maximumHeaderLag < blockchain.headers - blockchain.blocks ||
    blockchain.verificationProgress < policy.minimumVerificationProgress ||
    policy.maximumObservationSkew < |info.blocks - blockchain.blocks| ||
    info.longestChain < info.blocks ||
    info.errors.toList.any (fun c => !isJsSpace c) ||
    (policy.requirePeers && info.connections < 1)

/-- The identity is the expected one, in an allowed status and signable. -/
def identityAcceptable (expected : ExpectedVerusIdentity) (identity : VerusIdentityResult) : Bool :=
  identity.identity.identityAddress = expected.identityAddress &&
    identity.identity.systemId = expected.systemId &&
    identity.status ∈ expected.allowedStatuses &&
    (!expected.mustBeSignableByNode || identity.canSignFor)

/-- The identity part of the preflight. -/
def preflightIdentity : Option ExpectedVerusIdentity → Adapter (Option VerusIdentityResult)
  | none => pure none
  | some expected => do
    let identity ← ask (.getIdentity expected.identityAddress)
    ensure (identityAcceptable expected identity)
      { code := .identityStateInvalid
        message :=
          "Expected Verus identity is unavailable, changed, recovered, revoked, or not signable"
        retryable := false }
    return some identity

/-- The VDXF part of the preflight. -/
def preflightVdxf : Option ExpectedVdxfIdentifier → Adapter (Option VerusVdxfId)
  | none => pure none
  | some expected => do
    let vdxf ← ask (.getVdxfId expected.uri)
    ensure (vdxf.vdxfId = expected.vdxfId)
      { code := .vdxfIdMismatch
        message := "Derived VDXF identifier does not match the approved server fixture"
        retryable := false }
    return some vdxf

/-- `runVerusWritePreflight`. -/
def runVerusWritePreflight (policy : VerusWritePreflightPolicy) :
    Adapter VerusWritePreflightResult := do
  ensure (policy.serverSelectedNetwork = vrsctestNetwork)
    { code := .wrongNetwork
      message := "Verus writes require the server-selected VRSCTEST network"
      retryable := false }
  let infos ← ask .getInfos
  ensure (expectedNetwork policy infos.1 infos.2)
    { code := .wrongNetwork
      message := "Verus node did not report the expected VRSCTEST system and chain identifier"
      retryable := false }
  ensure (policy.minimumNodeVersion ≤ infos.1.version)
    { code := .nodeVersionUnsupported
      message := "Verus node version is below the supported VRSCTEST baseline"
      retryable := false }
  ensure (!isUnsynced policy.toSynchronizationPolicy infos.1 infos.2)
    { code := .nodeUnsynced
      message := "Verus node is not ready and synchronized for write work"
      retryable := true }
  ensure (!policy.writeCapabilityEnabled ||
      (policy.expectedIdentity.isSome && policy.expectedVdxf.isSome))
    { code := .policyGateDisabled
      message := "Enabled Verus writes require approved identity and VDXF server fixtures"
      retryable := false }
  let identity ← preflightIdentity policy.expectedIdentity
  let vdxf ← preflightVdxf policy.expectedVdxf
  ensure policy.writeCapabilityEnabled
    { code := .policyGateDisabled
      message := "Verus anchor writes remain disabled by the server release and policy gate"
      retryable := false }
  return { info := infos.1, blockchain := infos.2, identity, vdxf }

/-! ## What a preflight has seen -/

open Lib Lib.Program

theorem runs_ask {q : Rpc} {trace : List (Sigma Rpc.Result)} {answer : q.Answer}
    (h : (ask q).run.Runs trace (.ok answer)) : trace = [⟨q, .ok answer⟩] := by
  obtain ⟨result, rest, rfl, rfl, hresult⟩ := h
  rw [hresult]

theorem runs_ensure {condition : Bool} {error : VerusIntegrationError}
    {trace : List (Sigma Rpc.Result)} {u : Unit}
    (h : (ensure condition error).run.Runs trace (.ok u)) : trace = [] ∧ condition = true := by
  obtain ⟨htrace, hok⟩ := runs_ofExcept h
  refine ⟨htrace, ?_⟩
  cases condition with
  | true => rfl
  | false => cases hok

theorem runs_preflightIdentity {expected : ExpectedVerusIdentity}
    {trace : List (Sigma Rpc.Result)} {identity : Option VerusIdentityResult}
    (h : (preflightIdentity (some expected)).run.Runs trace (.ok identity)) :
    ∃ answer, identity = some answer ∧ trace = [⟨.getIdentity expected.identityAddress, .ok answer⟩] ∧
      identityAcceptable expected answer = true := by
  obtain ⟨first, rest, answer, rfl, hask, h⟩ := runs_except_bind h
  obtain ⟨second, rest, u, rfl, hensure, h⟩ := runs_except_bind h
  obtain ⟨rfl, hidentity⟩ := h
  obtain ⟨rfl, hok⟩ := runs_ensure hensure
  rw [runs_ask hask]
  exact ⟨answer, (Except.ok.inj hidentity).symm, rfl, hok⟩

theorem runs_preflightVdxf {expected : ExpectedVdxfIdentifier}
    {trace : List (Sigma Rpc.Result)} {vdxf : Option VerusVdxfId}
    (h : (preflightVdxf (some expected)).run.Runs trace (.ok vdxf)) :
    ∃ answer, vdxf = some answer ∧ trace = [⟨.getVdxfId expected.uri, .ok answer⟩] ∧
      answer.vdxfId = expected.vdxfId := by
  obtain ⟨first, rest, answer, rfl, hask, h⟩ := runs_except_bind h
  obtain ⟨second, rest, u, rfl, hensure, h⟩ := runs_except_bind h
  obtain ⟨rfl, hvdxf⟩ := h
  obtain ⟨rfl, hok⟩ := runs_ensure hensure
  rw [runs_ask hask]
  exact ⟨answer, (Except.ok.inj hvdxf).symm, rfl, of_decide_eq_true hok⟩

/-- The node and the identity that a preflight accepted. -/
theorem runs_runVerusWritePreflight {policy : VerusWritePreflightPolicy}
    {expectedIdentity : ExpectedVerusIdentity} {expectedVdxf : ExpectedVdxfIdentifier}
    {trace : List (Sigma Rpc.Result)} {result : VerusWritePreflightResult}
    (hidentity : policy.expectedIdentity = some expectedIdentity)
    (hvdxf : policy.expectedVdxf = some expectedVdxf)
    (h : (runVerusWritePreflight policy).run.Runs trace (.ok result)) :
    ∃ info blockchain identity vdxf,
      trace = [⟨.getInfos, .ok (info, blockchain)⟩,
        ⟨.getIdentity expectedIdentity.identityAddress, .ok identity⟩,
        ⟨.getVdxfId expectedVdxf.uri, .ok vdxf⟩] ∧
      expectedNetwork policy info blockchain = true ∧ policy.minimumNodeVersion ≤ info.version ∧
      isUnsynced policy.toSynchronizationPolicy info blockchain = false ∧
      identityAcceptable expectedIdentity identity = true ∧ vdxf.vdxfId = expectedVdxf.vdxfId ∧
      result.identity = some identity := by
  obtain ⟨_, _, _, rfl, hnetwork, h⟩ := runs_except_bind h
  obtain ⟨_, _, ⟨info, blockchain⟩, rfl, hinfos, h⟩ := runs_except_bind h
  obtain ⟨_, _, _, rfl, hexpected, h⟩ := runs_except_bind h
  obtain ⟨_, _, _, rfl, hversion, h⟩ := runs_except_bind h
  obtain ⟨_, _, _, rfl, hsynced, h⟩ := runs_except_bind h
  obtain ⟨_, _, _, rfl, hgate, h⟩ := runs_except_bind h
  rw [hidentity, hvdxf] at h
  obtain ⟨_, _, identity, rfl, hrunIdentity, h⟩ := runs_except_bind h
  obtain ⟨_, _, vdxf, rfl, hrunVdxf, h⟩ := runs_except_bind h
  obtain ⟨_, _, _, rfl, henabled, h⟩ := runs_except_bind h
  obtain ⟨rfl, hresult⟩ := h
  obtain ⟨identity, rfl, rfl, hacceptable⟩ := runs_preflightIdentity hrunIdentity
  obtain ⟨vdxf, rfl, rfl, hkey⟩ := runs_preflightVdxf hrunVdxf
  obtain ⟨rfl, -⟩ := runs_ensure hnetwork
  obtain ⟨rfl, hchain⟩ := runs_ensure hexpected
  obtain ⟨rfl, hsupported⟩ := runs_ensure hversion
  obtain ⟨rfl, hready⟩ := runs_ensure hsynced
  obtain ⟨rfl, -⟩ := runs_ensure hgate
  obtain ⟨rfl, -⟩ := runs_ensure henabled
  rw [runs_ask hinfos, ← Except.ok.inj hresult]
  exact ⟨info, blockchain, identity, vdxf, rfl, hchain, of_decide_eq_true hsupported,
    Bool.not_eq_true' _ ▸ hready, hacceptable, hkey, rfl⟩

end ChecksAndBalances
