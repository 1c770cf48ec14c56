import Gatehouse.Service.Workflow

/-!
# Password recovery

The holder of an account who has lost the password is sent a reset token, in place of one sent
before.  With it a new password can be set once.
-/

namespace Gatehouse.Service

set_option autoImplicit false

/-- Carries out the request for a reset token. -/
def requestingReset (email : String) : Workflow IssuedToken := do
  accept (Validation.emailReport email)
  Workflow.connect
  let tables ← Workflow.look
  let account ← found .notFound (tables.accountAt? email)
  Workflow.begin
  let _ ← Workflow.removeToken account.id .passwordReset
  let token ← Workflow.mint account.id .passwordReset
  Workflow.commit
  Workflow.queue (resetLetter account token)
  return token

/-- Sends a reset token to the holder of the account with an email address. -/
def requestPasswordReset (moment : Moment) (database : Database) (email : String) :
    Outcome IssuedToken :=
  .ofWorkflow moment database (requestingReset email)

/-- Carries out the setting of a new password.  The token is looked up before the password is
hashed, which takes long, and once more in the transaction. -/
def settingPassword (scheme : PasswordScheme) (token password : String) : Workflow Account := do
  accept (Validation.checkToken (Validation.passwordReport password) token)
  Workflow.connect
  let _ ← Workflow.holder .notFound .passwordReset token
  let passwordHash ← Workflow.hashPassword scheme password
  Workflow.begin
  let account ← Workflow.holder .notFound .passwordReset token
  let account ← Workflow.updateAccount { account with passwordHash := passwordHash }
  let _ ← Workflow.removeToken account.id .passwordReset
  Workflow.commit
  return account

/-- Sets a new password with a reset token, which is then used up. -/
def updatePassword (scheme : PasswordScheme) (moment : Moment) (database : Database)
    (token password : String) : Outcome Account :=
  .ofWorkflow moment database (settingPassword scheme token password)

end Gatehouse.Service
