import ChecksAndBalances.Db.AuthRepository
import Mathlib.Data.List.Sort

/-!
# The passkey store

The part of `AuthRepository` that implements `PasskeyRepository`, over the constraints and triggers
of `passkey_metadata`.
-/

namespace ChecksAndBalances

open Lib Lib.Tx

/-- `StoredPasskeyCredential`. -/
structure StoredPasskeyCredential where
  credentialReference : String
  accountReference : String
  trustDomain : TrustDomain
  relyingPartyId : String
  publicKey : List UInt8
  counter : ℤ
  transports : List String
  deviceType : CredentialDeviceType
  backedUp : Bool
  deviceLabel : String
  state : CredentialState
  deriving DecidableEq, Repr

/-- The input of `updateUsage`. -/
structure PasskeyUsage where
  credentialReference : String
  counter : ℤ
  deviceType : CredentialDeviceType
  backedUp : Bool
  usedAt : ℤ

/-- `allowedTransports`. -/
def allowedTransports : List String :=
  ["ble", "cable", "hybrid", "internal", "nfc", "smart-card", "usb"]

/-- `enforce_auth_subject_match` on `passkey_metadata`, and its CHECK constraint. -/
def guardPasskey (accounts : List AuthAccount) (p : PasskeyMetadata) :
    Except RepositoryError Unit :=
  if (accounts.find? fun a => a.id = p.authAccountId).bind AuthAccount.participantId =
      p.participantId then
    if 0 ≤ p.signCount then .ok () else .error (.checkViolation "passkey_sign_count_nonnegative")
  else .error (.raised "authentication record crosses participant subjects")

namespace AuthRepository

/-- `mapPasskey`. -/
def mapPasskey (passkey : PasskeyMetadata) (account : AuthAccount) : StoredPasskeyCredential :=
  { credentialReference := passkey.credentialReference
    accountReference := account.externalReference
    trustDomain := account.trustDomain
    relyingPartyId := passkey.relyingPartyId
    publicKey := passkey.publicKey
    counter := passkey.signCount
    transports := passkey.transports.filter fun value => allowedTransports.contains value
    deviceType := passkey.credentialDeviceType
    backedUp := passkey.backedUp
    deviceLabel := passkey.deviceLabel
    state := passkey.state }

/-- The active passkeys of an account, with the account. -/
def activePasskeys (db : Db) (accountReference : String) (trustDomain : TrustDomain) :
    List (PasskeyMetadata × AuthAccount) :=
  db.passkeys.flatMap fun passkey =>
    (db.authAccounts.filter fun account => account.id = passkey.authAccountId &&
        account.externalReference = accountReference && account.trustDomain = trustDomain &&
        passkey.state = .active).map fun account => (passkey, account)

/-- `listActive`. -/
def listActive (accountReference : String) (trustDomain : TrustDomain) :
    DbTx (List StoredPasskeyCredential) := do
  let db ← get
  let rows := (activePasskeys db accountReference trustDomain).insertionSort
    fun a b => a.1.createdAt ≤ b.1.createdAt
  return rows.map fun row => mapPasskey row.1 row.2

/-- `findActive`. -/
def findActive (credentialReference : String) (trustDomain : TrustDomain) :
    DbTx (Option StoredPasskeyCredential) := do
  let db ← get
  let rows := db.passkeys.flatMap fun passkey =>
    (db.authAccounts.filter fun account => account.id = passkey.authAccountId &&
        passkey.credentialReference = credentialReference && account.trustDomain = trustDomain &&
        account.state = .active && passkey.state = .active).map (mapPasskey passkey)
  return rows.head?

/-- The row of a new passkey. -/
def passkeyRow (id : Uuid) (account : AuthAccount) (credential : StoredPasskeyCredential)
    (createdAt : ℤ) : PasskeyMetadata :=
  { id
    participantId := account.participantId
    authAccountId := account.id
    credentialReference := credential.credentialReference
    relyingPartyId := credential.relyingPartyId
    publicKey := credential.publicKey
    transports := credential.transports
    credentialDeviceType := credential.deviceType
    backedUp := credential.backedUp
    deviceLabel := credential.deviceLabel
    state := .active
    signCount := credential.counter
    createdAt
    lastUsedAt := none
    revokedAt := none }

/-- `save`. -/
def save (credential : StoredPasskeyCredential) (createdAt : ℤ) : DbTx Unit := do
  let account ← account credential.accountReference (some credential.trustDomain)
  require (account.state = .active) (.conflict "authentication account is not active")
  let id ← newId
  let row := passkeyRow id account credential createdAt
  let db ← get
  lift (fun e => e) (guardPasskey db.authAccounts row)
  requireUnique db.passkeys (fun p => p.id = id) "passkey_metadata_pkey"
  requireUnique db.passkeys (fun p => p.credentialReference = credential.credentialReference)
    "passkey_metadata_credential_reference_key"
  modify fun db => { db with passkeys := db.passkeys ++ [row] }

/-- The UPDATE statements of `passkey_metadata`, which have to update one row. -/
def updatePasskey (selected : PasskeyMetadata → Bool) (f : PasskeyMetadata → PasskeyMetadata)
    (message : String) : DbTx Unit := do
  let db ← get
  let passkeys ← lift (fun e => e)
    (Table.update selected f (fun _ new => guardPasskey db.authAccounts new) db.passkeys)
  require (db.passkeys.countP selected = 1) (.conflict message)
  modify fun db => { db with passkeys }

/-- `updateUsage`. -/
def updateUsage (input : PasskeyUsage) : DbTx Unit :=
  updatePasskey
    (fun p => p.credentialReference = input.credentialReference && p.state = .active &&
      p.signCount ≤ input.counter)
    (fun p => { p with
      signCount := input.counter
      credentialDeviceType := input.deviceType
      backedUp := input.backedUp
      lastUsedAt := some input.usedAt })
    "passkey counter update was rejected"

/-- `revokeCredential`. -/
def revokeCredential (credentialReference accountReference : String) (revokedAt : ℤ) :
    DbTx Unit := do
  let db ← get
  updatePasskey
    (fun p => p.credentialReference = credentialReference && p.state = .active &&
      db.authAccounts.any fun a => a.id = p.authAccountId && a.externalReference = accountReference)
    (fun p => { p with state := .revoked, revokedAt := some revokedAt })
    "passkey is unavailable"

end AuthRepository

end ChecksAndBalances
