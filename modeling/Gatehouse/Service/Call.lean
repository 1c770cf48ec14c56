import Gatehouse.Service.Profile
import Gatehouse.Service.Recovery
import Gatehouse.Service.Registration
import Gatehouse.Service.Session

/-!
# Calls of the service

Everything that the service can be asked for, as one type, and what it answers.  A run makes calls
one after the other, each at its own moment and on the database that the one before has left.
-/

namespace Gatehouse.Service

set_option autoImplicit false

/-- What the service can be asked for. -/
inductive Call where
  | register (username email password : String)
  | activate (token : String)
  | login (username password : String)
  | refresh (token : String)
  | logout (identity : Identity)
  | requestPasswordReset (email : String)
  | updatePassword (token password : String)
  | updateAccount (identity : Identity) (username : String) (email password : Option String)
  | getAccount (identity : Identity) (username : String)
  | authenticate (token : String)
  | requirePermissions (identity : Identity) (required : List Permission)
  | sessionExpiry (identity : Identity)
  deriving DecidableEq, Repr

/-- What the service answers. -/
inductive Reply where
  | registration (registration : Registration)
  | account (account : Account)
  | session (session : Session)
  | done
  | token (token : IssuedToken)
  | update (update : AccountUpdate)
  | expiry (expiry : Option Instant)
  deriving DecidableEq, Repr

/-- Makes a call amid disturbances of the store. -/
def performAmid (disturbances : Disturbances) (scheme : PasswordScheme) (moment : Moment)
    (database : Database) : Call → Outcome Reply
  | .register username email password =>
      (carriedOut moment (registering scheme username email password)).map .registration
  | .activate token => (carriedOut moment (activating token)).map .account
  | .login username password =>
      (carriedOut moment (loggingIn scheme username password)).map .session
  | .refresh token => (carriedOut moment (refreshing token)).map .session
  | .logout identity => (carriedOut .idle (loggingOut identity)).map fun _ => .done
  | .requestPasswordReset email => (carriedOut moment (requestingReset email)).map .token
  | .updatePassword token password =>
      (carriedOut moment (settingPassword scheme token password)).map .account
  | .updateAccount identity username email password =>
      (carriedOut moment (changingAccount scheme identity username email password)).map .update
  | .getAccount identity username =>
      (carriedOut moment (gettingAccount identity username)).map .account
  | .authenticate token => (carriedOut moment (authenticating token)).map .account
  | .requirePermissions identity required =>
      (carriedOut moment (requiringPermissions identity required)).map .account
  | .sessionExpiry identity => (carriedOut moment (readingExpiry identity)).map .expiry
where
  carriedOut {α : Type} (moment : Moment) (workflow : Workflow α) : Outcome α :=
    .ofWorkflowAmid disturbances moment database workflow

/-- Makes a call. -/
def perform (scheme : PasswordScheme) (moment : Moment) (database : Database) (call : Call) :
    Outcome Reply :=
  performAmid .calm scheme moment database call

/-- Makes calls one after the other, and gives what each led to. -/
def run (scheme : PasswordScheme) (database : Database) :
    List (Moment × Call) → List (Outcome Reply)
  | [] => []
  | (moment, call) :: rest =>
      let outcome := perform scheme moment database call
      outcome :: run scheme outcome.database rest

end Gatehouse.Service
