import ChecksAndBalances.Db.LifecycleRepository
import Mathlib.Data.List.Sort

/-!
# The Verus link repository

`VerusLinkRepository` of `packages/db/src/verus-link-repository.ts` over the constraints of
`20260808060000_issue_19_verusid_linking`.
-/

namespace ChecksAndBalances

open Lib Lib.Tx

/-! ## Inputs and results -/

/-- `WalletLinkPurpose`. -/
inductive WalletLinkPurpose where
  | linkVerusid
  | revalidateVerusid
  deriving DecidableEq, Repr

/-- The stored name of the purpose. -/
def WalletLinkPurpose.name : WalletLinkPurpose → String
  | linkVerusid => "link_verusid"
  | revalidateVerusid => "revalidate_verusid"

/-- `CreateWalletLinkChallengeInput`. -/
structure CreateWalletLinkChallengeInput where
  externalReference : String
  accountReference : String
  trustDomain : TrustDomain
  purpose : WalletLinkPurpose
  network : String
  nonceHash : String
  requestId : String
  requestDigest : String
  pollingTokenDigest : String
  audience : String
  callbackUrl : String
  applicationIdentityAddress : String
  consentedScopes : List String
  issuedAt : ℤ
  expiresAt : ℤ

/-- `WalletLinkChallengeRecord`. -/
structure WalletLinkChallengeRecord where
  externalReference : String
  accountReference : String
  participantReference : Option String
  trustDomain : TrustDomain
  purpose : String
  state : WalletChallengeState
  nonceHash : String
  requestId : Option String
  requestDigest : String
  audience : String
  callbackUrl : String
  applicationIdentityAddress : String
  consentedScopes : List String
  issuedAt : Option ℤ
  expiresAt : ℤ
  responseDigest : Option String
  linkedIdentityAddress : Option String
  version : ℕ
  deriving DecidableEq, Repr

/-- `CompleteWalletLinkChallengeInput`. -/
structure CompleteWalletLinkChallengeInput where
  requestId : String
  responseDigest : String
  identityAddress : String
  displayNameSnapshot : Option String
  proofDigest : String
  proofMethod : String
  requestSignerIdentity : String
  observedIdentityStatus : String
  observedIdentityBlockHeight : ℤ
  observedIdentityTxid : String
  completedAt : ℤ

/-- `CompletedWalletLink`. -/
structure CompletedWalletLink where
  replayed : Bool
  linkReference : String
  identityAddress : String
  state : IdentityLinkState
  deriving DecidableEq, Repr

/-- The result of `completeChallenge`. -/
inductive WalletLinkCompletion where
  | completed (link : CompletedWalletLink)
  | expired
  deriving DecidableEq, Repr

/-- `WalletLinkPollResult`. -/
structure WalletLinkPollResult where
  challengeReference : String
  state : WalletChallengeState
  expiresAt : ℤ
  linkReference : Option String
  identityAddress : Option String
  deriving DecidableEq, Repr

/-- The reasons of `requireRevalidation`. -/
inductive RevalidationReason where
  | identityRecovered
  | identityRevoked
  | identityRevisionChanged
  deriving DecidableEq, Repr

/-- The stored name of the reason. -/
def RevalidationReason.name : RevalidationReason → String
  | identityRecovered => "identity_recovered"
  | identityRevoked => "identity_revoked"
  | identityRevisionChanged => "identity_revision_changed"

/-! ## Constraints -/

/-- The CHECK constraints of `verus_identity_link`. -/
def identityLinkChecks : List (CheckConstraint VerusIdentityLink) := [
  { name := "verus_identity_link_observed_txid_hex"
    holds := fun l => isHex64 l.observedIdentityTxid },
  { name := "verus_identity_link_proof_digest_sha256", holds := fun l => isHex64 l.proofDigest },
  { name := "verus_identity_link_unlink_consistent"
    holds := fun l => l.state = .unlinked ↔ l.unlinkedAt ≠ none },
  versionPositive "verus_identity_link_version_positive" VerusIdentityLink.version]

namespace VerusLinkRepository

/-! ## Private functions -/

/-- `requireDigest`. -/
def requireDigest (value field : String) : DbTx Unit :=
  require (isHex64 value = true) (.conflict (field ++ " must be a lowercase SHA-256 digest"))

/-- `challengeSelect`: the selected challenge with the account that owns it. -/
def challengeSelect (predicate : WalletChallenge → AuthAccount → Bool) :
    DbTx (WalletChallenge × AuthAccount) := do
  let db ← get
  found (db.walletChallenges.flatMap fun wc =>
      (db.authAccounts.filter fun aa => wc.authAccountId = some aa.id && predicate wc aa).map
        fun aa => (wc, aa)).head?
    (.conflict "wallet challenge is unavailable")

/-- The joined `participant_reference` of a challenge. -/
def participantReference (db : Db) (wc : WalletChallenge) : Option String :=
  wc.participantId.bind fun id =>
    (db.participants.find? fun pa => pa.id = id).map ParticipantAccount.externalReference

/-- `mapChallenge`. -/
def mapChallenge (db : Db) (wc : WalletChallenge) (aa : AuthAccount) : WalletLinkChallengeRecord :=
  { externalReference := wc.externalReference
    accountReference := aa.externalReference
    participantReference := (participantReference db wc).filter fun s => s != ""
    trustDomain := wc.trustDomain
    purpose := wc.purpose
    state := wc.state
    nonceHash := wc.nonceHash
    requestId := wc.requestId
    requestDigest := wc.requestDigest
    audience := wc.audience
    callbackUrl := wc.callbackUrl
    applicationIdentityAddress := wc.applicationIdentityAddress
    consentedScopes := wc.consentedScopes
    issuedAt := wc.issuedAt
    expiresAt := wc.expiresAt
    responseDigest := wc.responseDigest.filter fun s => s != ""
    linkedIdentityAddress := wc.linkedIdentityAddress.filter fun s => s != ""
    version := wc.version }

/-- `account`. -/
def account (accountReference : String) (trustDomain : TrustDomain) : DbTx AuthAccount := do
  let db ← get
  let account ← found
    (db.authAccounts.find? fun a => a.externalReference = accountReference &&
      a.trustDomain = trustDomain && a.state = .active)
    (.conflict "account is unavailable")
  require (trustDomain = .participant → account.participantId.isSome = true)
    (.conflict "participant account binding is unavailable")
  return account

/-- `participantId`. -/
def participantId (reference : String) : DbTx Uuid := do
  let db ← get
  let participant ← found (db.participants.find? fun p => p.externalReference = reference)
    (.conflict "participant is unavailable")
  return participant.id

/-- The link of the account and the identity. -/
def isLinkOf (accountId : Uuid) (identityAddress : String) (link : VerusIdentityLink) : Bool :=
  link.authAccountId = accountId && link.identityAddress = identityAddress

/-- `linkForAccountAndIdentity`; the value is the `external_reference`. -/
def linkForAccountAndIdentity (accountId : Uuid) (identityAddress : String) : DbTx String := do
  let db ← get
  let link ← found (db.identityLinks.find? (isLinkOf accountId identityAddress))
    (.conflict "Verus identity link is unavailable")
  return link.externalReference

/-- `UPDATE "wallet_challenge" SET … WHERE "id" = $1`. -/
def updateChallenge (id : Uuid) (f : WalletChallenge → WalletChallenge) : DbTx Unit := do
  let db ← get
  let walletChallenges ← lift (fun e => e)
    (Table.update (fun w => w.id = id) f
      (fun _ new => enforceChecks LifecycleRepository.walletChallengeChecks new)
      db.walletChallenges)
  modify fun db => { db with walletChallenges }

/-- `UPDATE "verus_identity_link" SET … WHERE "id" = $1`. -/
def updateLink (id : Uuid) (f : VerusIdentityLink → VerusIdentityLink) : DbTx Unit := do
  let db ← get
  let identityLinks ← lift (fun e => e)
    (Table.update (fun l => l.id = id) f (fun _ new => enforceChecks identityLinkChecks new)
      db.identityLinks)
  modify fun db => { db with identityLinks }

/-- The target of an audit event of a challenge. -/
def challengeTarget (reference : String) (priorState : Option WalletChallengeState)
    (newState : WalletChallengeState) : AuditTarget :=
  { type := "wallet_challenge", reference, priorState := priorState.map WalletChallengeState.name
    newState := some newState.name }

/-- The target of an audit event of a link. -/
def linkTarget (reference : String) (priorState : Option IdentityLinkState)
    (newState : IdentityLinkState) : AuditTarget :=
  { type := "verus_identity_link", reference, priorState := priorState.map IdentityLinkState.name
    newState := some newState.name }

/-- The row of a challenge that ends without a link. -/
def closedRow (state : WalletChallengeState) (rejectionReason : Option String)
    (challenge : WalletChallenge) : WalletChallenge :=
  { challenge with
    state
    rejectionReason := rejectionReason.or challenge.rejectionReason
    version := challenge.version + 1 }

/-- What every operation does with a presented challenge at or after its expiry. -/
def expireChallenge (challenge : WalletChallenge) (context : CommandContext) : DbTx Unit := do
  updateChallenge challenge.id (closedRow .expired none)
  let _ ← appendAudit context none "expireWalletLinkChallenge"
    (challengeTarget challenge.externalReference (some .presented) .expired)

/-! ## Challenges -/

/-- The row that `createChallenge` inserts. -/
def presentedChallenge (id : Uuid) (account : AuthAccount)
    (input : CreateWalletLinkChallengeInput) : WalletChallenge :=
  { id
    externalReference := input.externalReference
    participantId := account.participantId
    state := .presented
    nonceHash := input.nonceHash
    audience := input.audience
    requestDigest := input.requestDigest
    expiresAt := input.expiresAt
    consumedAt := none
    version := 1
    authAccountId := some account.id
    trustDomain := input.trustDomain
    purpose := input.purpose.name
    requestId := some input.requestId
    pollingTokenDigest := some input.pollingTokenDigest
    callbackUrl := input.callbackUrl
    applicationIdentityAddress := input.applicationIdentityAddress
    consentedScopes := input.consentedScopes.insertionSort fun a b =>
      codeUnitsLt (utf16 b) (utf16 a) = false
    issuedAt := some input.issuedAt
    responseDigest := none
    linkedIdentityAddress := none
    rejectionReason := none }

/-- `createChallenge`. -/
def createChallenge (input : CreateWalletLinkChallengeInput) (context : CommandContext) :
    DbTx WalletLinkChallengeRecord := do
  requireOpaqueReference input.externalReference "wallet challenge reference"
  requireOpaqueReference input.accountReference "account reference"
  requireDigest input.nonceHash "nonce hash"
  requireDigest input.requestDigest "request digest"
  requireDigest input.pollingTokenDigest "polling token digest"
  require (input.issuedAt < input.expiresAt)
    (.conflict "wallet challenge expiry must follow issuance")
  require (input.network = "VRSCTEST") (.conflict "wallet challenge network is unsupported")
  let account ← account input.accountReference input.trustDomain
  let id ← newId
  let challenge := presentedChallenge id account input
  lift (fun e => e) (enforceChecks LifecycleRepository.walletChallengeChecks challenge)
  let db ← get
  requireUnique db.walletChallenges (fun w => w.id = id) "wallet_challenge_pkey"
  requireUnique db.walletChallenges (fun w => w.externalReference = input.externalReference)
    "wallet_challenge_external_reference_key"
  requireUnique db.walletChallenges (fun w => w.nonceHash = input.nonceHash)
    "wallet_challenge_nonce_hash_key"
  requireUnique db.walletChallenges (fun w => w.requestId = some input.requestId)
    "wallet_challenge_request_id_key"
  requireUnique db.walletChallenges
    (fun w => w.pollingTokenDigest = some input.pollingTokenDigest)
    "wallet_challenge_polling_token_digest_key"
  modify fun db => { db with walletChallenges := db.walletChallenges ++ [challenge] }
  let _ ← appendAudit context none "createWalletLinkChallenge"
    (challengeTarget input.externalReference none .presented)
  let (row, owner) ← challengeSelect fun w _ => w.id = id
  let db ← get
  return mapChallenge db row owner

/-- `challengeForPoll`. -/
def challengeForPoll (accountReference pollingTokenDigest : String) :
    DbTx WalletLinkChallengeRecord := do
  requireOpaqueReference accountReference "account reference"
  requireDigest pollingTokenDigest "polling token digest"
  let (row, owner) ← challengeSelect fun w a => a.externalReference = accountReference &&
    w.pollingTokenDigest = some pollingTokenDigest
  let db ← get
  return mapChallenge db row owner

/-- The columns of a link that a completion sets. -/
def proven (input : CompleteWalletLinkChallengeInput) (challenge : WalletChallenge)
    (link : VerusIdentityLink) : VerusIdentityLink :=
  { link with
    displayNameSnapshot := input.displayNameSnapshot
    proofMethod := input.proofMethod
    proofDigest := input.proofDigest
    requestSignerIdentity := input.requestSignerIdentity
    observedIdentityStatus := input.observedIdentityStatus
    observedIdentityBlockHeight := input.observedIdentityBlockHeight
    observedIdentityTxid := input.observedIdentityTxid
    consentedScopes := challenge.consentedScopes
    state := .active }

/-- The row that a completion writes in place of an existing link. -/
def revalidated (input : CompleteWalletLinkChallengeInput) (challenge : WalletChallenge)
    (link : VerusIdentityLink) : VerusIdentityLink :=
  { proven input challenge link with
    revalidatedAt := some input.completedAt
    revalidationReason := none
    unlinkedAt := none
    version := link.version + 1
    updatedAt := input.completedAt }

/-- The participant of a new link, by the joined reference of its challenge. -/
def linkParticipant (challenge : WalletChallenge) : DbTx (Option Uuid) := do
  let db ← get
  let reference := participantReference db challenge
  if truthy reference then
    let id ← participantId (reference.getD "")
    return some id
  else return none

/-- The INSERT statement of `verus_identity_link`. -/
def insertLink (id accountId : Uuid) (linkReference : String)
    (input : CompleteWalletLinkChallengeInput) (challenge : WalletChallenge) : DbTx Unit := do
  let participantId ← linkParticipant challenge
  let link : VerusIdentityLink :=
    { id
      externalReference := linkReference
      authAccountId := accountId
      participantId
      trustDomain := challenge.trustDomain
      identityAddress := input.identityAddress
      displayNameSnapshot := input.displayNameSnapshot
      proofMethod := input.proofMethod
      proofDigest := input.proofDigest
      requestSignerIdentity := input.requestSignerIdentity
      observedIdentityStatus := input.observedIdentityStatus
      observedIdentityBlockHeight := input.observedIdentityBlockHeight
      observedIdentityTxid := input.observedIdentityTxid
      consentedScopes := challenge.consentedScopes
      state := .active
      linkedAt := input.completedAt
      revalidatedAt := none
      revalidationReason := none
      unlinkedAt := none
      version := 1
      updatedAt := input.completedAt }
  lift (fun e => e) (enforceChecks identityLinkChecks link)
  let db ← get
  requireUnique db.identityLinks (fun l => l.id = id) "verus_identity_link_pkey"
  requireUnique db.identityLinks (fun l => l.externalReference = linkReference)
    "verus_identity_link_external_reference_key"
  requireUnique db.identityLinks (isLinkOf accountId input.identityAddress)
    "verus_identity_link_auth_account_id_network_identity_address_key"
  modify fun db => { db with identityLinks := db.identityLinks ++ [link] }

/-- The part of `completeChallenge` that writes the link; the value is its reference and its state
before. -/
def activateLink (accountId : Uuid) (input : CompleteWalletLinkChallengeInput)
    (challenge : WalletChallenge) : DbTx (String × Option IdentityLinkState) := do
  let db ← get
  match db.identityLinks.find? (isLinkOf accountId input.identityAddress) with
  | some link =>
    updateLink link.id (revalidated input challenge)
    return (link.externalReference, some link.state)
  | none =>
    let linkId ← newId
    let suffix ← newId
    let linkReference := "verus_link_" ++ toString suffix
    insertLink linkId accountId linkReference input challenge
    return (linkReference, none)

/-- The row of a challenge that is consumed. -/
def consumedRow (input : CompleteWalletLinkChallengeInput) (challenge : WalletChallenge) :
    WalletChallenge :=
  { challenge with
    state := .consumed
    responseDigest := some input.responseDigest
    linkedIdentityAddress := some input.identityAddress
    consumedAt := some input.completedAt
    version := challenge.version + 1 }

/-- The part of `completeChallenge` that consumes a presented challenge before its expiry. -/
def consumeChallenge (accountId : Uuid) (input : CompleteWalletLinkChallengeInput)
    (challenge : WalletChallenge) (context : CommandContext) : DbTx WalletLinkCompletion := do
  let (linkReference, priorState) ← activateLink accountId input challenge
  updateChallenge challenge.id (consumedRow input)
  let _ ← appendAudit context none "consumeWalletLinkChallenge"
    (challengeTarget challenge.externalReference (some .presented) .consumed)
  let _ ← appendAudit context none
    (if priorState.isSome then "revalidateVerusIdentityLink" else "createVerusIdentityLink")
    (linkTarget linkReference priorState .active)
  return .completed
    { replayed := false, linkReference, identityAddress := input.identityAddress, state := .active }

/-- `completeChallenge`. -/
def completeChallenge (input : CompleteWalletLinkChallengeInput) (context : CommandContext) :
    DbTx WalletLinkCompletion := do
  requireDigest input.responseDigest "response digest"
  requireDigest input.proofDigest "proof digest"
  requireDigest input.observedIdentityTxid "observed identity transaction identifier"
  let (challenge, owner) ← challengeSelect fun w _ => w.requestId = some input.requestId
  if challenge.state = .consumed then
    require (challenge.responseDigest = some input.responseDigest ∧
        challenge.linkedIdentityAddress = some input.identityAddress)
      (.conflict "wallet challenge was already consumed")
    let linkReference ← linkForAccountAndIdentity owner.id input.identityAddress
    return .completed
      { replayed := true, linkReference, identityAddress := input.identityAddress
        state := .active }
  else
    require (challenge.state = .presented) (.conflict "wallet challenge is unavailable")
    if challenge.expiresAt ≤ input.completedAt then
      expireChallenge challenge context
      return .expired
    else consumeChallenge owner.id input challenge context

/-- `pollChallenge`. -/
def pollChallenge (accountReference pollingTokenDigest : String) (now : ℤ)
    (context : CommandContext) : DbTx WalletLinkPollResult := do
  requireOpaqueReference accountReference "account reference"
  requireDigest pollingTokenDigest "polling token digest"
  let (challenge, owner) ← challengeSelect fun w a => a.externalReference = accountReference &&
    w.pollingTokenDigest = some pollingTokenDigest
  if challenge.state = .presented ∧ challenge.expiresAt ≤ now then
    expireChallenge challenge context
    return { challengeReference := challenge.externalReference, state := .expired
             expiresAt := challenge.expiresAt, linkReference := none, identityAddress := none }
  else if challenge.state = .consumed ∧ truthy challenge.linkedIdentityAddress = true then
    let linkReference ←
      linkForAccountAndIdentity owner.id (challenge.linkedIdentityAddress.getD "")
    return { challengeReference := challenge.externalReference, state := challenge.state
             expiresAt := challenge.expiresAt, linkReference := some linkReference
             identityAddress := challenge.linkedIdentityAddress }
  else
    return { challengeReference := challenge.externalReference, state := challenge.state
             expiresAt := challenge.expiresAt, linkReference := none, identityAddress := none }

/-- `cancelChallenge`. -/
def cancelChallenge (accountReference challengeReference : String) (cancelledAt : ℤ)
    (context : CommandContext) : DbTx Unit := do
  requireOpaqueReference accountReference "account reference"
  requireOpaqueReference challengeReference "wallet challenge reference"
  let (challenge, _) ← challengeSelect fun w a => a.externalReference = accountReference &&
    w.externalReference = challengeReference
  if challenge.state = .cancelled then return
  require (challenge.state = .presented) (.conflict "wallet challenge is unavailable")
  if challenge.expiresAt ≤ cancelledAt then
    expireChallenge challenge context
  else
    updateChallenge challenge.id (closedRow .cancelled (some "user_cancelled"))
    let _ ← appendAudit context none "cancelWalletLinkChallenge"
      (challengeTarget challenge.externalReference (some .presented) .cancelled)

/-! ## Links -/

/-- The row that `unlink` writes. -/
def unlinkedRow (unlinkedAt : ℤ) (link : VerusIdentityLink) : VerusIdentityLink :=
  { link with
    state := .unlinked
    unlinkedAt := some unlinkedAt
    version := link.version + 1
    updatedAt := unlinkedAt }

/-- `unlink`. -/
def unlink (accountReference linkReference : String) (unlinkedAt : ℤ)
    (context : CommandContext) : DbTx Unit := do
  requireOpaqueReference accountReference "account reference"
  requireOpaqueReference linkReference "Verus identity link reference"
  let db ← get
  let link ← found
    (db.identityLinks.find? fun l => l.externalReference = linkReference &&
      db.authAccounts.any fun a => a.id = l.authAccountId &&
        a.externalReference = accountReference)
    (.conflict "Verus identity link is unavailable")
  require (link.state ≠ .unlinked) (.conflict "Verus identity link is unavailable")
  updateLink link.id (unlinkedRow unlinkedAt)
  let _ ← appendAudit context none "unlinkVerusIdentity"
    (linkTarget linkReference (some link.state) .unlinked)

/-- The row that `requireRevalidation` writes. -/
def suspendedRow (reason : RevalidationReason) (observedAt : ℤ) (link : VerusIdentityLink) :
    VerusIdentityLink :=
  { link with
    state := .revalidationRequired
    revalidationReason := some reason.name
    version := link.version + 1
    updatedAt := observedAt }

/-- What `requireRevalidation` does with one of the links it read. -/
def suspendLink (reason : RevalidationReason) (observedAt : ℤ) (context : CommandContext)
    (link : VerusIdentityLink) : DbTx Unit := do
  updateLink link.id (suspendedRow reason observedAt)
  let _ ← appendAudit context none "requireVerusIdentityRevalidation"
    (linkTarget link.externalReference (some .active) .revalidationRequired)

/-- `requireRevalidation`. -/
def requireRevalidation (identityAddress : String) (reason : RevalidationReason)
    (observedAt : ℤ) (context : CommandContext) : DbTx ℕ := do
  let db ← get
  let links := db.identityLinks.filter fun l =>
    l.identityAddress = identityAddress && l.state = .active
  links.forM (suspendLink reason observedAt context)
  return links.length

end VerusLinkRepository

end ChecksAndBalances
