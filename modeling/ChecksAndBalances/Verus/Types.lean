import ChecksAndBalances.Db.Repository
import ChecksAndBalances.Lib.Program
import ChecksAndBalances.Verus.Json
import Mathlib.Data.Rat.Defs

/-!
# Answers of the Verus node

`packages/verus/src/types.ts` and `errors.ts`: what `VerusRpcAdapter` returns, as far as the worker
reads it, and the errors it throws.  The adapter has checked every integer with
`Number.isSafeInteger`; a finite double is the rational number it denotes.
-/

namespace ChecksAndBalances

/-! ## Errors -/

/-- `VerusErrorCode`. -/
inductive VerusErrorCode where
  | rpcUnavailable
  | rpcTimeout
  | rpcHttpError
  | rpcProtocolError
  | rpcMethodError
  | rpcInvalidResult
  | ambiguousSubmission
  | wrongNetwork
  | nodeUnsynced
  | nodeVersionUnsupported
  | identityStateInvalid
  | vdxfIdMismatch
  | policyGateDisabled
  | payloadForbidden
  | payloadOversize
  | confirmationPending
  | readbackMismatch
  | reorgDetected
  deriving DecidableEq, Repr

/-- `error.code.toLowerCase()`, the error class of a failure. -/
def VerusErrorCode.errorClass : VerusErrorCode → String
  | rpcUnavailable => "rpc_unavailable"
  | rpcTimeout => "rpc_timeout"
  | rpcHttpError => "rpc_http_error"
  | rpcProtocolError => "rpc_protocol_error"
  | rpcMethodError => "rpc_method_error"
  | rpcInvalidResult => "rpc_invalid_result"
  | ambiguousSubmission => "ambiguous_submission"
  | wrongNetwork => "wrong_network"
  | nodeUnsynced => "node_unsynced"
  | nodeVersionUnsupported => "node_version_unsupported"
  | identityStateInvalid => "identity_state_invalid"
  | vdxfIdMismatch => "vdxf_id_mismatch"
  | policyGateDisabled => "policy_gate_disabled"
  | payloadForbidden => "payload_forbidden"
  | payloadOversize => "payload_oversize"
  | confirmationPending => "confirmation_pending"
  | readbackMismatch => "readback_mismatch"
  | reorgDetected => "reorg_detected"

/-- Every error class passes the check of the repositories. -/
theorem VerusErrorCode.isErrorClass_errorClass (code : VerusErrorCode) :
    isErrorClass code.errorClass = true := by
  cases code <;> decide

/-- `VerusIntegrationError`. -/
structure VerusIntegrationError where
  code : VerusErrorCode
  message : String
  retryable : Bool
  submissionAmbiguous : Bool := false
  deriving DecidableEq, Repr

/-! ## Answers -/

/-- `VRSCTEST_NETWORK`. -/
def vrsctestNetwork : String := "VRSCTEST"

/-- `MINIMUM_VERUS_NODE_VERSION`. -/
def minimumVerusNodeVersion : ℤ := 2000753

/-- `VerusInfo`. -/
structure VerusInfo where
  version : ℤ
  chainId : String
  name : String
  blocks : ℤ
  longestChain : ℤ
  connections : ℤ
  testnet : Bool
  errors : String

/-- `VerusBlockchainInfo`. -/
structure VerusBlockchainInfo where
  chain : String
  name : String
  chainId : String
  blocks : ℤ
  headers : ℤ
  verificationProgress : ℚ

/-- `VerusIdentityDefinition`. -/
structure VerusIdentityDefinition where
  version : JsNumber
  flags : JsNumber
  primaryAddresses : List String
  minimumSignatures : JsNumber
  name : String
  identityAddress : String
  parent : String
  systemId : String
  contentMap : JsonObject
  contentMultiMap : List (String × List Json)
  revocationAuthority : String
  recoveryAuthority : String
  timelock : JsNumber

/-- `VerusIdentityResult`, also the answer to a content request. -/
structure VerusIdentityResult where
  identity : VerusIdentityDefinition
  status : String
  canSignFor : Bool
  blockHeight : ℤ
  transactionId : String

/-- `VerusVdxfId`. -/
structure VerusVdxfId where
  vdxfId : String

/-- `PreparedIdentityUpdate`. -/
structure PreparedIdentityUpdate where
  identity : VerusIdentityDefinition
  manifestDigest : String
  vdxfKey : String

/-- `VerusRawTransaction`. -/
structure VerusRawTransaction where
  transactionId : String
  blockHash : Option String
  confirmations : ℤ

/-- `VerusBlock`. -/
structure VerusBlock where
  hash : String
  confirmations : ℤ
  height : ℤ
  transactions : List String

/-- What `updateIdentity` returns: the adapter throws unless the node names a transaction by 64
hexadecimal digits, and lowers their case. -/
def TransactionId := { id : String // isHex64 id = true }

/-! ## Requests -/

/-- The requests of the worker to `VerusRpcAdapter`; the preflight asks for both infos at once. -/
inductive Rpc where
  | getInfos
  | getIdentity (identity : String)
  | getVdxfId (uri : String)
  | getIdentityContent (identity vdxfKey : String)
  | updateIdentity (request : PreparedIdentityUpdate)
  | getRawTransaction (transactionId : String)
  | getBlock (hash : String)
  | getBlockHash (height : ℤ)

/-- The type of the answer. -/
def Rpc.Answer : Rpc → Type
  | getInfos => VerusInfo × VerusBlockchainInfo
  | getIdentity _ => VerusIdentityResult
  | getVdxfId _ => VerusVdxfId
  | getIdentityContent _ _ => VerusIdentityResult
  | updateIdentity _ => TransactionId
  | getRawTransaction _ => VerusRawTransaction
  | getBlock _ => VerusBlock
  | getBlockHash _ => String

/-- How a request ends. -/
abbrev Rpc.Result (q : Rpc) : Type := Except VerusIntegrationError q.Answer

/-- A computation that talks to the node and may throw. -/
abbrev Adapter := ExceptT VerusIntegrationError (Lib.Program Rpc Rpc.Result)

/-- One request. -/
def ask (q : Rpc) : Adapter q.Answer := ExceptT.mk (Lib.Program.request q)

/-- Throw unless the condition holds. -/
def ensure (condition : Bool) (error : VerusIntegrationError) : Adapter Unit :=
  Lib.Program.ofExcept (if condition then .ok () else .error error)

end ChecksAndBalances
