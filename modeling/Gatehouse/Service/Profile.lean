import Gatehouse.Identity
import Gatehouse.Service.Workflow

/-!
# Reading and changing one's account

Callers read and change their own account only.  A change is made from the copy of the account
that the caller's identity carries, so it fails if the account has been changed since.  A new email
address, unless it differs in case alone, must be confirmed anew: the account is no longer
activated and its holder is sent another activation token.
-/

namespace Gatehouse.Service

set_option autoImplicit false

/-- A changed account, with the token that activates it again if the address is new. -/
structure AccountUpdate where
  account : Account
  activationToken : Option IssuedToken
  deriving DecidableEq, Repr

/-! ## Permissions -/

/-- Carries out the check of what a caller may do. -/
def requiringPermissions (identity : Identity) (required : List Permission) :
    Workflow Account := do
  let account ← identity.require
  if account.isActivated then
    Workflow.connect
    let tables ← Workflow.look
    if required.all (tables.permissionsOf account.id).includes then return account
    else throw Identity.notPermitted
  else throw Identity.notActivated

/-- The account of a caller who must be activated and hold permissions. -/
def requirePermissions (database : Database) (identity : Identity)
    (required : List Permission) : Except Fault Account :=
  (Outcome.ofWorkflow .idle database (requiringPermissions identity required)).result

/-! ## Reading -/

/-- Carries out the lookup of a caller's account. -/
def gettingAccount (identity : Identity) (username : String) : Workflow Account := do
  let caller ← identity.owner username
  Workflow.connect
  let tables ← Workflow.look
  found .unauthenticated (tables.account? caller.id)

/-- The account of a caller as it is now. -/
def getAccount (database : Database) (identity : Identity) (username : String) :
    Except Fault Account :=
  (Outcome.ofWorkflow .idle database (gettingAccount identity username)).result

/-! ## Changing -/

/-- The report on a change, which must ask for something. -/
def updateReport (email password : Option String) : Validation.Report :=
  (Validation.changeReport email password).check (email.isSome || password.isSome)
    "account" "must provide an email or a password to update"

/-- Whether two addresses are equal up to the case of ASCII letters. -/
def sameUpToCase (former latter : String) : Bool :=
  former.map Char.toLower == latter.map Char.toLower

/-- Whether a change asks for an address that differs in more than case. -/
def isNewAddress (account : Account) : Option String → Bool
  | none => false
  | some email => !sameUpToCase email account.email

/-- An account with the address of a change. -/
def withAddress (account : Account) (email : Option String) : Account :=
  { account with
    email := email.getD account.email
    isActivated := account.isActivated && !isNewAddress account email }

/-- An account with the password of a change. -/
def withPassword (scheme : PasswordScheme) (account : Account) :
    Option String → Workflow Account
  | none => return account
  | some password => do
      let passwordHash ← Workflow.hashPassword scheme password
      return { account with passwordHash := passwordHash }

/-- Replaces the activation token of an account if its address is new. -/
def renewingActivation (accountId : Int) (isNew : Bool) : Workflow (Option IssuedToken) :=
  if isNew then do
    let _ ← Workflow.removeToken accountId .activation
    let token ← Workflow.mint accountId .activation
    return some token
  else return none

/-- Sends an activation token, if there is one, to the holder of an account. -/
def sendingActivation (account : Account) : Option IssuedToken → Workflow Unit
  | none => return ()
  | some token => Workflow.queue (activationLetter account token)

/-- Carries out a change. -/
def changingAccount (scheme : PasswordScheme) (identity : Identity) (username : String)
    (email password : Option String) : Workflow AccountUpdate := do
  let caller ← identity.owner username
  accept (updateReport email password)
  let changed ← withPassword scheme (withAddress caller email) password
  Workflow.begin
  let account ← Workflow.updateAccount changed
  let token ← renewingActivation account.id (isNewAddress caller email)
  Workflow.commit
  sendingActivation account token
  return ⟨account, token⟩

/-- Changes the address or the password of a caller's account, or both. -/
def updateAccount (scheme : PasswordScheme) (moment : Moment) (database : Database)
    (identity : Identity) (username : String) (email password : Option String) :
    Outcome AccountUpdate :=
  .ofWorkflow moment database (changingAccount scheme identity username email password)

end Gatehouse.Service
