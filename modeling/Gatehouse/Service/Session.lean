import Gatehouse.Identity
import Gatehouse.Service.Workflow

/-!
# Sessions

A session is a pair of tokens: an access token to make calls with, and a refresh token to obtain
the next session with.  An account has one session at most, so logging in or refreshing ends the
one before.
-/

namespace Gatehouse.Service

set_option autoImplicit false

/-- The tokens of a session. -/
structure Session where
  access : IssuedToken
  refresh : IssuedToken
  deriving DecidableEq, Repr

/-! ## Changing sessions -/

/-- Replaces the session of an account. -/
def renewingSession (accountId : Int) : Workflow Session := do
  let _ ← Workflow.removeToken accountId .refresh
  let _ ← Workflow.removeToken accountId .access
  let access ← Workflow.mint accountId .access
  let refresh ← Workflow.mint accountId .refresh
  return ⟨access, refresh⟩

/-- Whether a password is that of an account.  A stored password that cannot be checked matches
nothing. -/
def passwordMatches (scheme : PasswordScheme) (account : Account) (password : String) : Bool :=
  match scheme.verify password account.passwordHash with
  | .ok isMatch => isMatch
  | .error _ => false

/-- Carries out a login.  An unknown username and a wrong password are the same fault. -/
def loggingIn (scheme : PasswordScheme) (username password : String) : Workflow Session := do
  accept (Validation.loginReport username password)
  Workflow.connect
  let tables ← Workflow.look
  let account ← found .notFound (tables.accountNamed? username)
  if passwordMatches scheme account password then
    Workflow.begin
    let session ← renewingSession account.id
    Workflow.commit
    return session
  else throw .notFound

/-- Begins a session with a username and a password. -/
def login (scheme : PasswordScheme) (moment : Moment) (database : Database)
    (username password : String) : Outcome Session :=
  .ofWorkflow moment database (loggingIn scheme username password)

/-- Carries out the exchange of a refresh token. -/
def refreshing (token : String) : Workflow Session := do
  accept (Validation.tokenReport token)
  Workflow.begin
  let account ← Workflow.holder .notFound .refresh token
  let session ← renewingSession account.id
  Workflow.commit
  return session

/-- Exchanges a refresh token for a new session. -/
def refresh (moment : Moment) (database : Database) (token : String) : Outcome Session :=
  .ofWorkflow moment database (refreshing token)

/-- Carries out the end of a caller's session. -/
def loggingOut (identity : Identity) : Workflow Unit := do
  let account ← identity.require
  Workflow.begin
  let _ ← Workflow.removeToken account.id .access
  let _ ← Workflow.removeToken account.id .refresh
  Workflow.commit

/-- Ends the session of a caller. -/
def logout (database : Database) (identity : Identity) : Outcome Unit :=
  .ofWorkflow .idle database (loggingOut identity)

/-! ## Using sessions -/

/-- Carries out the lookup of an access token.  Whatever is wrong with a token, its bearer is not
known. -/
def authenticating (token : String) : Workflow Account := do
  if (Validation.tokenReport token).isAcceptable then
    Workflow.connect
    Workflow.holder .unauthenticated .access token
  else throw .unauthenticated

/-- The account that an access token belongs to. -/
def authenticate (now : Instant) (database : Database) (token : String) : Except Fault Account :=
  (Outcome.ofWorkflow ⟨now, []⟩ database (authenticating token)).result

/-- Carries out the lookup of the access token of a caller. -/
def readingExpiry (identity : Identity) : Workflow (Option Instant) := do
  let account ← identity.require
  Workflow.connect
  let tables ← Workflow.look
  let token ← tables.token? account.id .access
  return token.map Token.expiry

/-- When the access token of a caller expires, if there is one. -/
def sessionExpiry (database : Database) (identity : Identity) : Except Fault (Option Instant) :=
  (Outcome.ofWorkflow .idle database (readingExpiry identity)).result

end Gatehouse.Service
