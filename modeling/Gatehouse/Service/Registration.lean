import Gatehouse.Service.Workflow

/-!
# Registration and activation

A new account may read itself and is not activated; its holder is sent an activation token.  Who
presents the token shows that mail to the address arrives: the account is activated, may change
itself from then on, and the token is used up.
-/

namespace Gatehouse.Service

set_option autoImplicit false

/-- A new account, with the token that activates it. -/
structure Registration where
  account : Account
  activationToken : IssuedToken
  deriving DecidableEq, Repr

/-- Carries out a registration. -/
def registering (scheme : PasswordScheme) (username email password : String) :
    Workflow Registration := do
  accept (Validation.registrationReport username email password)
  let passwordHash ← Workflow.hashPassword scheme password
  Workflow.begin
  let account ← Workflow.createAccount ⟨username, email, passwordHash⟩
  Workflow.grant account.id [.readUser]
  let token ← Workflow.mint account.id .activation
  Workflow.commit
  Workflow.queue (activationLetter account token)
  return ⟨account, token⟩

/-- Registers a new account. -/
def register (scheme : PasswordScheme) (moment : Moment) (database : Database)
    (username email password : String) : Outcome Registration :=
  .ofWorkflow moment database (registering scheme username email password)

/-- Carries out an activation. -/
def activating (token : String) : Workflow Account := do
  accept (Validation.tokenReport token)
  Workflow.begin
  let account ← Workflow.holder .notFound .activation token
  let account ← Workflow.updateAccount { account with isActivated := true }
  Workflow.grant account.id [.writeUser]
  let _ ← Workflow.removeToken account.id .activation
  Workflow.commit
  return account

/-- Activates the account that an activation token was sent to. -/
def activate (moment : Moment) (database : Database) (token : String) : Outcome Account :=
  .ofWorkflow moment database (activating token)

end Gatehouse.Service
