import ChecksAndBalances.Auth.EmailSystem
import ChecksAndBalances.Auth.Passkeys
import ChecksAndBalances.Auth.Sessions
import ChecksAndBalances.Lib.Threads

/-!
# The system of the authentication services

Any number of methods of the email, session and passkey services run over one database, together with
the methods of the repository that are called outside the services.  Everything else that happens to
the database leaves accounts, sessions, challenges and passkeys alone.
-/

namespace ChecksAndBalances

open Lib

/-- The methods of the repository that no service calls, or that other code calls as well. -/
inductive DirectCall where
  | account (call : AccountStoreCall)
  | revoke (sessionId : Uuid) (reasonCategory : String) (atTime : ℤ)
  | revokeAll (accountReference : String) (trustDomain : TrustDomain) (reasonCategory : String)
      (atTime : ℤ)
  | recoverAndRevokeSessions (input : RecoverInput)
  | lockAndRevokeSessions (input : LockInput)
  | changeVerifiedEmail (input : ChangeEmailInput)

/-- The call. -/
def DirectCall.call : DirectCall → ServiceCall
  | account call => .account call
  | revoke sessionId reasonCategory atTime => .session (.revoke sessionId reasonCategory atTime)
  | revokeAll accountReference trustDomain reasonCategory atTime =>
    .session (.revokeAll accountReference trustDomain reasonCategory atTime)
  | recoverAndRevokeSessions input => .email (.store (.recoverAndRevokeSessions input))
  | lockAndRevokeSessions input => .email (.store (.lockAndRevokeSessions input))
  | changeVerifiedEmail input => .email (.store (.changeVerifiedEmail input))

/-- The methods that can be called. -/
inductive ServiceRequest where
  | email (request : EmailRequest)
  | issue (input : SessionService.IssueInput)
  | authenticate (input : SessionService.AuthenticateInput)
  | beginRegistration (input : PasskeyService.BeginRegistrationInput)
  | finishRegistration (input : PasskeyService.FinishRegistrationInput)
  | beginAuthentication (input : PasskeyService.BeginAuthenticationInput)
  | finishAuthentication (input : PasskeyService.FinishAuthenticationInput)
  | revokeCredential (input : PasskeyService.RevokeCredentialInput)
  | direct (call : DirectCall)

namespace ServiceRequest

/-- The type of the result. -/
def Value : ServiceRequest → Type
  | email request => request.Result
  | issue _ => SessionService.IssuedSession
  | authenticate _ => SessionRecord
  | beginRegistration _ => PasskeyService.CeremonyStart
  | finishRegistration _ => StoredPasskeyCredential
  | beginAuthentication _ => PasskeyService.CeremonyStart
  | finishAuthentication _ => PasskeyService.AuthenticatedPasskey
  | revokeCredential _ => Unit
  | direct call => call.call.Answer

/-- What the method returns or throws. -/
abbrev Result (request : ServiceRequest) : Type := Except AuthErrorCode request.Value

/-- The program of the method. -/
def program (config : AuthConfig) :
    (request : ServiceRequest) → Program ServiceCall ServiceCall.Answer request.Result
  | email request => Program.embed ServiceCall.email (request.program config.email).run
  | issue input => (SessionService.issue config input).run
  | authenticate input => (SessionService.authenticate config input).run
  | beginRegistration input => (PasskeyService.beginRegistration config input).run
  | finishRegistration input => (PasskeyService.finishRegistration config input).run
  | beginAuthentication input => (PasskeyService.beginAuthentication config input).run
  | finishAuthentication input => (PasskeyService.finishAuthentication config input).run
  | revokeCredential input => (PasskeyService.revokeCredential input).run
  | direct call => (ServiceCall.request call.call).run

end ServiceRequest

/-! ## The system -/

/-- The tables that only authentication writes. -/
def Db.authRows (db : Db) :
    List AuthAccount × List AuthSession × List AuthChallenge × List PasskeyMetadata :=
  (db.authAccounts, db.authSessions, db.authChallenges, db.passkeys)

/-- A running method. -/
abbrev AuthThread := Threads.Thread ServiceRequest.Result ServiceCall.Answer

/-- A committed store call. -/
abbrev AuthEntry (W : Type) := Threads.Entry Db W ServiceRequest ServiceCall.Answer

/-- The database, the running methods and the committed store calls. -/
abbrev AuthSystem (W : Type) := Threads.State Db W ServiceRequest.Result ServiceCall.Answer

/-- What can happen next. -/
abbrev AuthAct (W : Type) := Threads.Act Db W ServiceRequest ServiceCall.Answer

/-- One step of the system. -/
def AuthSystem.step {W : Type} [DecidableEq W] (config : AuthConfig) (s : AuthSystem W) :
    AuthAct W → Option (AuthSystem W) :=
  Threads.State.step (ServiceRequest.program config) (ServiceCall.exec config) Db.authRows s

end ChecksAndBalances
