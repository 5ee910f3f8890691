import ChecksAndBalances.Auth.Services
import ChecksAndBalances.Lib.Reach
import Mathlib.Logic.Function.Basic

/-!
# The system of the email services

Any number of service methods run over one database.  A step commits or rejects a store call or
delivers an answer of the host, so the calls of different methods interleave freely; the tokens and
identifiers are arbitrary, and a method may end between any two of its steps, as it does when the
notification sink throws.  The log keeps, latest first, the changes of verified addresses and the
completed sign-ins and recoveries.
-/

namespace ChecksAndBalances

open Lib Lib.Tx

/-! ## Requests -/

/-- The methods of the services. -/
inductive EmailRequest where
  | begin (input : AuthServices.BeginInput)
  | completeEmailSignIn (input : AuthServices.SignInInput)
  | completeRecovery (input : AuthServices.RecoveryInput)
  | consumeRecoveryGrant (input : AuthServices.SignInInput)
  | lockAccount (input : AuthServices.LockAccountInput)
  | beginEmailChange (input : AuthServices.BeginEmailChangeInput)
  | confirmEmailChange (input : AuthServices.ConfirmEmailChangeInput)

namespace EmailRequest

/-- The type of the result. -/
def Result : EmailRequest → Type
  | begin _ => AuthServices.GenericChallengeResponse
  | completeEmailSignIn _ => String
  | completeRecovery _ => AuthServices.RecoveryResult
  | consumeRecoveryGrant _ => String
  | lockAccount _ => ℕ
  | beginEmailChange _ => Unit
  | confirmEmailChange _ => Unit

/-- The program of the method. -/
def program (services : AuthServices) : (request : EmailRequest) → AuthProgram request.Result
  | begin input => services.begin input
  | completeEmailSignIn input => services.completeEmailSignIn input
  | completeRecovery input => services.completeRecovery input
  | consumeRecoveryGrant input => services.consumeRecoveryGrant input
  | lockAccount input => AuthServices.lockAccount input
  | beginEmailChange input => services.beginEmailChange input
  | confirmEmailChange input => services.confirmEmailChange input

/-- The account that a completed sign-in or recovery is for. -/
def completedFor : (request : EmailRequest) → request.Result → Option String
  | completeEmailSignIn _, accountReference => some accountReference
  | completeRecovery _, result => some result.accountReference
  | _, _ => none

end EmailRequest

/-! ## States -/

/-- A running method, with the challenge that it consumed. -/
structure EmailThread where
  request : EmailRequest
  process : Program AuthCall AuthCall.Answer (Except AuthErrorCode request.Result)
  consumed : Option ConsumedAuthChallenge

/-- The reference of an account. -/
def Db.accountReference (db : Db) (accountId : Uuid) : Option String :=
  (db.authAccounts.find? fun a => a.id = accountId).map AuthAccount.externalReference

/-- The destinations of an account: those of its contacts that are not disabled. -/
def Db.destinations (db : Db) (accountReference : String) : List String :=
  (db.contactPreferences.filter fun c => c.disabledAt.isNone &&
    db.accountReference c.authAccountId = some accountReference).map
      ContactPreference.destinationReference

/-- What the log keeps. -/
inductive EmailEntry where
  /-- The verified address of the account changed, when these challenges existed. -/
  | emailChanged (accountReference : String) (existing : List Uuid)
  /-- A sign-in or a recovery of the account was completed with the challenge, when these were the
  destinations of the account. -/
  | completed (accountReference : String) (challenge : Option ConsumedAuthChallenge)
      (destinations : List String)

/-- The database, the running methods and the log. -/
structure EmailSystem (W : Type) where
  db : Db
  threads : W → Option EmailThread
  log : List EmailEntry

/-- What can happen next. -/
inductive EmailAct (W : Type) where
  | createAccount (input : CreateAuthAccountInput)
  | registerVerifiedEmail (input : RegisterVerifiedEmailInput)
  | timestamp (currentTimestamp : ℤ)
  | start (w : W) (request : EmailRequest)
  | store (w : W)
  | host (w : W) (answer : (call : AuthHostCall) → call.Answer)
  | crash (w : W)

/-! ## Steps -/

/-- The challenge of the thread after the answer to a call. -/
def consumedAfter (consumed : Option ConsumedAuthChallenge) :
    (call : AuthCall) → call.Answer → Option ConsumedAuthChallenge
  | .store (.consume _), challenge => challenge
  | _, _ => consumed

/-- The log entry of a committed store call. -/
def AuthStoreCall.entry (db : Db) : AuthStoreCall → List EmailEntry
  | changeVerifiedEmail input =>
    [.emailChanged input.accountReference (db.authChallenges.map AuthChallenge.id)]
  | _ => []

namespace EmailThread

/-- The thread goes on, unless its program is finished. -/
def running (thread : EmailThread) : Option EmailThread :=
  match thread.process with
  | .done _ => none
  | .call _ _ => some thread

/-- The log entry of a thread that completed a sign-in or a recovery. -/
def entry (db : Db) (thread : EmailThread) : List EmailEntry :=
  match thread.process with
  | .done (.ok result) =>
    match thread.request.completedFor result with
    | some accountReference =>
      [.completed accountReference thread.consumed (db.destinations accountReference)]
    | none => []
  | _ => []

end EmailThread

namespace EmailSystem

variable {W : Type} [DecidableEq W] (services : AuthServices) (s : EmailSystem W)

/-- The state after a thread took a step over the database `db`. -/
def advance (w : W) (db : Db) (entries : List EmailEntry) (thread : EmailThread) : EmailSystem W :=
  { db
    threads := Function.update s.threads w thread.running
    log := thread.entry db ++ entries ++ s.log }

/-- A store call of a thread: a rejected one ends the thread. -/
def storeStep (w : W) (thread : EmailThread) : Option (EmailSystem W) :=
  match thread.process with
  | .call (.store call) k =>
    match call.exec s.db with
    | .ok (result, db) => some (s.advance w db (call.entry s.db)
        { thread with
          process := k result
          consumed := consumedAfter thread.consumed (.store call) result })
    | .error _ => some { s with threads := Function.update s.threads w none }
  | _ => none

/-- An answer of the host arrives. -/
def hostStep (w : W) (answer : (call : AuthHostCall) → call.Answer) (thread : EmailThread) :
    Option (EmailSystem W) :=
  match thread.process with
  | .call (.host call) k => some (s.advance w s.db [] { thread with process := k (answer call) })
  | _ => none

/-- One step of the system. -/
def step : EmailAct W → Option (EmailSystem W)
  | .createAccount input =>
    some { s with db := commit (AuthRepository.createAccount input) s.db }
  | .registerVerifiedEmail input =>
    some { s with db := commit (AuthRepository.registerVerifiedEmail input) s.db }
  | .timestamp currentTimestamp => some { s with db := { s.db with currentTimestamp } }
  | .start w request =>
    match s.threads w with
    | none =>
      some (s.advance w s.db [] { request, process := request.program services, consumed := none })
    | some _ => none
  | .store w => (s.threads w).bind (s.storeStep w)
  | .host w answer => (s.threads w).bind (s.hostStep w answer)
  | .crash w => (s.threads w).map fun _ => { s with threads := Function.update s.threads w none }

/-- No method runs yet. -/
structure Initial : Prop where
  accounts : (s.db.authAccounts.map AuthAccount.id).Nodup
  threads : ∀ w, s.threads w = none
  log : s.log = []

end EmailSystem

end ChecksAndBalances
