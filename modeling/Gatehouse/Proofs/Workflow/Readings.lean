import Gatehouse.Proofs.Workflow.Steps
import Gatehouse.Service.Call

/-!
# Calls that look something up

The account of a caller, what it may do and the owner of an access token are looked up on a
connection, outside of any transaction.  What each of these calls gives is told by the tables of
the database alone (`Service.getAccount_eq` and the equations after it), and the call leaves the
database as it is and queues nothing (`Service.perform_getAccount`).
-/

namespace Gatehouse.Service

set_option autoImplicit false

variable (scheme : PasswordScheme) (moment : Moment) (database : Database)

/-- What is looked up on a connection. -/
theorem ofWorkflow_reading {α : Type} {next : Tables → Workflow α} {read : Tables → Except Fault α}
    (reads : ∀ tables progress, (next tables).runFrom progress = (read tables, progress)) :
    Outcome.ofWorkflow moment database (do
        Workflow.connect
        let tables ← Workflow.look
        next tables) =
      .ofReading database (database.connect >>= read) := by
  obtain ⟨tables, isOpen⟩ := database
  cases isOpen with
  | false => rfl
  | true =>
      have connected : (Progress.start moment ⟨tables, true⟩).database.connect = .ok tables := rfl
      simp only [Outcome.ofWorkflow, Workflow.runFrom_bind, Workflow.runFrom_connect, connected,
        Except.map, Workflow.runFrom_look, reads]
      rfl

/-! ## The account of a caller -/

theorem ofWorkflow_gettingAccount (identity : Identity) (username : String) :
    Outcome.ofWorkflow moment database (gettingAccount identity username) =
      .ofReading database (do
        let caller ← identity.owner username
        let tables ← database.connect
        found .unauthenticated (tables.account? caller.id)) := by
  unfold gettingAccount
  cases identity.owner username with
  | error fault => rfl
  | ok caller => exact ofWorkflow_reading moment database fun _ _ => rfl

theorem getAccount_eq (identity : Identity) (username : String) :
    getAccount database identity username = (do
      let caller ← identity.owner username
      let tables ← database.connect
      found .unauthenticated (tables.account? caller.id)) := by
  rw [getAccount, ofWorkflow_gettingAccount]
  rfl

theorem perform_getAccount (identity : Identity) (username : String) :
    perform scheme moment database (.getAccount identity username) =
      .ofReading database ((getAccount database identity username).map .account) := by
  rw [getAccount_eq]
  exact congrArg (Outcome.map _) (ofWorkflow_gettingAccount moment database identity username)

/-! ## What a caller may do -/

theorem ofWorkflow_requiringPermissions (identity : Identity) (required : List Permission) :
    Outcome.ofWorkflow moment database (requiringPermissions identity required) =
      .ofReading database (do
        let account ← identity.require
        if account.isActivated then
          let tables ← database.connect
          if required.all (tables.permissionsOf account.id).includes then return account
          else .error Identity.notPermitted
        else .error Identity.notActivated) := by
  unfold requiringPermissions
  cases identity.require with
  | error fault => rfl
  | ok account =>
      change Outcome.ofWorkflow moment database (if account.isActivated then _ else _) =
        .ofReading database (if account.isActivated then _ else _)
      split
      · refine ofWorkflow_reading moment database fun tables _ => ?_
        split <;> rfl
      · rfl

theorem requirePermissions_eq (identity : Identity) (required : List Permission) :
    requirePermissions database identity required = (do
      let account ← identity.require
      if account.isActivated then
        let tables ← database.connect
        if required.all (tables.permissionsOf account.id).includes then return account
        else .error Identity.notPermitted
      else .error Identity.notActivated) := by
  rw [requirePermissions, ofWorkflow_requiringPermissions]
  rfl

theorem perform_requirePermissions (identity : Identity) (required : List Permission) :
    perform scheme moment database (.requirePermissions identity required) =
      .ofReading database ((requirePermissions database identity required).map .account) := by
  rw [requirePermissions_eq]
  exact congrArg (Outcome.map _)
    (ofWorkflow_requiringPermissions moment database identity required)

/-! ## Sessions -/

theorem ofWorkflow_authenticating (token : String) :
    Outcome.ofWorkflow moment database (authenticating token) =
      .ofReading database (
        if (Validation.tokenReport token).isAcceptable then do
          let tables ← database.connect
          found .unauthenticated
            (tables.accountByToken? .access (Token.digestOf token) moment.now)
        else .error .unauthenticated) := by
  unfold authenticating
  split
  · obtain ⟨tables, isOpen⟩ := database
    cases isOpen <;> rfl
  · rfl

theorem authenticate_eq (now : Instant) (token : String) :
    authenticate now database token =
      if (Validation.tokenReport token).isAcceptable then do
        let tables ← database.connect
        found .unauthenticated (tables.accountByToken? .access (Token.digestOf token) now)
      else .error .unauthenticated := by
  rw [authenticate, ofWorkflow_authenticating]
  rfl

theorem perform_authenticate (token : String) :
    perform scheme moment database (.authenticate token) =
      .ofReading database ((authenticate moment.now database token).map .account) := by
  rw [authenticate_eq]
  exact congrArg (Outcome.map _) (ofWorkflow_authenticating moment database token)

end Gatehouse.Service
