import ChecksAndBalances.Verus.CanonicalContent

/-!
# Confirmation and readback

`packages/verus/src/reconciliation.ts`: the inspection of a transaction's confirmation and the
search for a canonical digest among the content entries of an identity.
-/

namespace ChecksAndBalances

/-! ## Confirmation -/

/-- `ConfirmationResult`. -/
inductive ConfirmationResult where
  | confirming (confirmations : ℤ)
  | confirmed (confirmations blockHeight : ℤ) (blockHash : String)
  | reorgPending (confirmations : ℤ) (block : Option (ℤ × String))

/-- The block is the canonical one at its height, deep enough, and holds the transaction. -/
def blockConfirms (transactionId : String) (minimumConfirmations : ℤ) (blockHash : String)
    (block : VerusBlock) (canonicalHash : String) : Bool :=
  block.hash = blockHash && canonicalHash = blockHash &&
    minimumConfirmations ≤ block.confirmations && transactionId ∈ block.transactions

/-- The part of `inspectTransactionConfirmation` on a transaction that names its block. -/
def inspectBlock (transactionId : String) (minimumConfirmations confirmations : ℤ)
    (blockHash : String) : Adapter ConfirmationResult := do
  let block ← ask (.getBlock blockHash)
  let canonicalHash ← ask (.getBlockHash block.height)
  if blockConfirms transactionId minimumConfirmations blockHash block canonicalHash then
    return .confirmed confirmations block.height block.hash
  else return .reorgPending confirmations (some (block.height, blockHash))

/-- `inspectTransactionConfirmation`; an empty block hash counts as none. -/
def inspectTransactionConfirmation (transactionId : String) (minimumConfirmations : ℤ) :
    Adapter ConfirmationResult := do
  ensure (isSafeInteger minimumConfirmations && 1 ≤ minimumConfirmations)
    { code := .rpcInvalidResult
      message := "Confirmation policy must require at least one confirmation"
      retryable := false }
  let transaction ← ask (.getRawTransaction transactionId)
  if transaction.confirmations < 0 then return .reorgPending transaction.confirmations none
  else if transaction.confirmations < minimumConfirmations then
    return .confirming transaction.confirmations
  else match transaction.blockHash.filter (fun hash => hash != "") with
    | none => return .confirming transaction.confirmations
    | some blockHash =>
      inspectBlock transactionId minimumConfirmations transaction.confirmations blockHash

/-! ## Readback -/

/-- The value of a hexadecimal digit of either case. -/
def hexValue (c : Char) : Option ℕ :=
  if '0' ≤ c && c ≤ '9' then some (c.toNat - 48)
  else if 'a' ≤ c && c ≤ 'f' then some (c.toNat - 87)
  else if 'A' ≤ c && c ≤ 'F' then some (c.toNat - 55)
  else none

/-- `Buffer.from(text, "hex")` of a text that `^[0-9a-f]+$` matches, absent on any other. -/
def fromHex : List Char → Option (List UInt8)
  | [] => some []
  | [_] => none
  | a :: b :: rest => do
    let high ← hexValue a
    let low ← hexValue b
    return UInt8.ofNat (high * 16 + low) :: (← fromHex rest)

section Readback

variable [Host]

/-- `digestCanonicalHexEntry`. -/
def digestCanonicalHexEntry : Json → Option String
  | .str entry => do
    if entry.isEmpty then none
    let bytes ← fromHex entry.toList
    let text ← decodeText bytes
    let value ← Host.jsonParse text
    match value.canonicalizeJson with
    | .ok canonical => if canonical = text then some (Lib.Sha256.digest bytes) else none
    | .error _ => none
  | _ => none

/-- The digests of the content entries under a key. -/
def contentDigests (vdxfKey : String) (content : VerusIdentityResult) : List String :=
  ((content.identity.contentMultiMap.lookup vdxfKey).getD []).filterMap digestCanonicalHexEntry

/-- `ReadbackResult`. -/
inductive ReadbackResult where
  | verified (readbackDigest : String)
  | mismatch (observedDigests : List String)

/-- `verifyIdentityContentReadback`. -/
def verifyIdentityContentReadback (identityAddress vdxfKey expectedDigest : String) :
    Adapter ReadbackResult := do
  let content ← ask (.getIdentityContent identityAddress vdxfKey)
  if expectedDigest ∈ contentDigests vdxfKey content then return .verified expectedDigest
  else return .mismatch (contentDigests vdxfKey content)

/-- `findReadbackEvidenceBeforeResubmission`: the transaction and block height of the content, where
it holds the digest. -/
def findReadbackEvidenceBeforeResubmission (identityAddress vdxfKey expectedDigest : String) :
    Adapter (Option (String × ℤ)) := do
  let content ← ask (.getIdentityContent identityAddress vdxfKey)
  if expectedDigest ∈ contentDigests vdxfKey content then
    return some (content.transactionId, content.blockHeight)
  else return none

end Readback

end ChecksAndBalances
