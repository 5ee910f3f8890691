import ChecksAndBalances.Db.VerusLinkRepository
import ChecksAndBalances.Lib.History
import ChecksAndBalances.Lib.Reach

/-!
# The system of identity links

Every operation of `VerusLinkRepository` is one transaction, so a run is a sequence of operations;
what else happens to the database leaves challenges and links alone.  The log keeps the committed
operations, latest first, with the database before and after each.
-/

namespace ChecksAndBalances

open Lib Lib.Tx

/-- The operations of `VerusLinkRepository`. -/
inductive LinkCommand where
  | createChallenge (input : CreateWalletLinkChallengeInput) (context : CommandContext)
  | challengeForPoll (accountReference pollingTokenDigest : String)
  | completeChallenge (input : CompleteWalletLinkChallengeInput) (context : CommandContext)
  | pollChallenge (accountReference pollingTokenDigest : String) (now : ℤ)
      (context : CommandContext)
  | cancelChallenge (accountReference challengeReference : String) (cancelledAt : ℤ)
      (context : CommandContext)
  | unlink (accountReference linkReference : String) (unlinkedAt : ℤ) (context : CommandContext)
  | requireRevalidation (identityAddress : String) (reason : RevalidationReason) (observedAt : ℤ)
      (context : CommandContext)

namespace LinkCommand

/-- The type of the result. -/
def Result : LinkCommand → Type
  | createChallenge _ _ => WalletLinkChallengeRecord
  | challengeForPoll _ _ => WalletLinkChallengeRecord
  | completeChallenge _ _ => WalletLinkCompletion
  | pollChallenge _ _ _ _ => WalletLinkPollResult
  | cancelChallenge _ _ _ _ => Unit
  | unlink _ _ _ _ => Unit
  | requireRevalidation _ _ _ _ => ℕ

/-- The transaction of the operation. -/
def exec : (command : LinkCommand) → DbTx command.Result
  | createChallenge input context => VerusLinkRepository.createChallenge input context
  | challengeForPoll accountReference pollingTokenDigest =>
    VerusLinkRepository.challengeForPoll accountReference pollingTokenDigest
  | completeChallenge input context => VerusLinkRepository.completeChallenge input context
  | pollChallenge accountReference pollingTokenDigest now context =>
    VerusLinkRepository.pollChallenge accountReference pollingTokenDigest now context
  | cancelChallenge accountReference challengeReference cancelledAt context =>
    VerusLinkRepository.cancelChallenge accountReference challengeReference cancelledAt context
  | unlink accountReference linkReference unlinkedAt context =>
    VerusLinkRepository.unlink accountReference linkReference unlinkedAt context
  | requireRevalidation identityAddress reason observedAt context =>
    VerusLinkRepository.requireRevalidation identityAddress reason observedAt context

/-- The reported link of a completion, first time or replayed. -/
def reported : (command : LinkCommand) → command.Result → Option CompletedWalletLink
  | completeChallenge _ _, .completed link => some link
  | _, _ => none

/-- The reference of the link that a first completion leaves active. -/
def activated (command : LinkCommand) (result : command.Result) : Option String :=
  (command.reported result).bind fun link =>
    if link.replayed then none else some link.linkReference

/-- The time at which the operation moves the link of the reference out of `active`, or from
`revalidation_required` to `unlinked`. -/
def movedAt (db : Db) (reference : String) : LinkCommand → Option ℤ
  | unlink _ linkReference unlinkedAt _ =>
    if linkReference = reference then some unlinkedAt else none
  | requireRevalidation identityAddress _ observedAt _ =>
    if db.identityLinks.any fun l => l.externalReference = reference &&
        l.identityAddress = identityAddress && l.state = .active then some observedAt
    else none
  | _ => none

end LinkCommand

/-- A committed operation. -/
structure LinkEntry where
  command : LinkCommand
  result : command.Result
  before : Db
  after : Db

/-- The reference of the link that the operation left active as a first completion. -/
def LinkEntry.activated (e : LinkEntry) : Option String := e.command.activated e.result

/-- The time at which the operation moved the link. -/
def LinkEntry.movedAt (e : LinkEntry) (reference : String) : Option ℤ :=
  e.command.movedAt e.before reference

/-- The moves of the link since a completion left it active. -/
def movesSinceActive (reference : String) : List LinkEntry → List ℤ
  | [] => []
  | e :: earlier =>
    if e.activated = some reference then []
    else (e.movedAt reference).toList ++ movesSinceActive reference earlier

/-- The challenges and the links. -/
def Db.linkTables (db : Db) : List WalletChallenge × List VerusIdentityLink :=
  (db.walletChallenges, db.identityLinks)

/-- The database and the committed operations. -/
structure LinkSystem where
  db : Db
  log : List LinkEntry

/-- What can happen next. -/
inductive LinkAct where
  | execute (command : LinkCommand)
  /-- Everything else that happens to the database. -/
  | elsewhere (db : Db)

namespace LinkSystem

variable (s : LinkSystem)

/-- One step of the system. -/
def step : LinkAct → Option LinkSystem
  | .execute command =>
    match command.exec s.db with
    | .ok (result, db) =>
      some { db, log := { command, result, before := s.db, after := db } :: s.log }
    | .error _ => some s
  | .elsewhere db => if db.linkTables = s.db.linkTables then some { s with db } else none

/-- No challenge and no link exists yet. -/
structure Initial : Prop where
  challenges : s.db.walletChallenges = []
  links : s.db.identityLinks = []
  log : s.log = []

end LinkSystem

end ChecksAndBalances
