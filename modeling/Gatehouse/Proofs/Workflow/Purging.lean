import Gatehouse.Proofs.Workflow.Overlooking
import Gatehouse.Proofs.Workflow.Readings

/-!
# Calls do not see tokens that are no longer good

A call gives the same result and queues the same letters whether or not the tokens that are no
longer good have been left out before, and the database after it differs in just these tokens
(`Service.perform_purged`).  Each workflow clears the place of a token before it stores one there,
or stores one for an account that has had none, so that all of its steps overlook them.
-/

namespace Gatehouse

set_option autoImplicit false

variable {purge : Instant}

namespace Service

open Progress (Ready)
open Workflow

/-! ## The workflows -/

variable {spares : TokenRow → Prop}

/-- What follows a commit sees no tokens at all. -/
theorem overlooks_commit_return {α : Type} {before : Progress → Prop} (value : α) :
    Overlooks purge before (commit >>= fun _ => pure value) fun _ _ => True :=
  overlooks_commit.bind fun _ => overlooks_pure value

theorem overlooks_commit_queue_return {α : Type} {before : Progress → Prop} (letter : Mail.Letter)
    (value : α) :
    Overlooks purge before (commit >>= fun _ => queue letter >>= fun _ => pure value)
      fun _ _ => True :=
  overlooks_commit.bind fun _ => (overlooks_queue letter).bind fun _ => overlooks_pure value

/-- Once the tokens are stored, no place need be clear any more. -/
theorem overlooks_return {α : Type} (value : α) :
    Overlooks purge (Ready purge true spares) (pure value)
      fun _ => Ready purge true fun _ => True :=
  fun progress ready => overlooks_pure value progress (ready.imp fun _ _ _ _ => trivial)

theorem overlooks_registering (scheme : PasswordScheme) (username email password : String) :
    Overlooks purge (Ready purge false spares) (registering scheme username email password)
      fun _ _ => True := by
  refine (overlooks_lift _).bind fun _ => ?_
  refine (overlooks_hashPassword scheme password).bind fun passwordHash => ?_
  refine overlooks_begin.bind fun _ => ?_
  refine (overlooks_createAccount _).bind fun account => ?_
  refine (overlooks_grant account.id _).bind fun _ => ?_
  refine (overlooks_mint account.id .activation fun row isSpared slot =>
    isSpared.2 slot.1).bind fun token => ?_
  exact overlooks_commit_queue_return _ _

theorem overlooks_activating (token : String) :
    Overlooks purge (Ready purge false spares) (activating token) fun _ _ => True := by
  refine (overlooks_lift _).bind fun _ => ?_
  refine overlooks_begin.bind fun _ => ?_
  refine (overlooks_holder _ .activation token).bind fun account => ?_
  refine (overlooks_updateAccount _).bind fun account => ?_
  refine (overlooks_grant account.id _).bind fun _ => ?_
  refine .removeToken_bind ?_
  exact overlooks_commit_return account

theorem overlooks_renewingSession (accountId : Int) :
    Overlooks purge (Ready purge true spares) (renewingSession accountId)
      fun _ => Ready purge true fun _ => True := by
  refine .removeToken_bind ?_
  refine .removeToken_bind ?_
  refine (overlooks_mint accountId .access fun row isSpared => isSpared.2).bind fun access => ?_
  refine (overlooks_mint accountId .refresh fun row isSpared => isSpared.1.2).bind
    fun refresh => ?_
  exact overlooks_return _

theorem overlooks_loggingIn (scheme : PasswordScheme) (username password : String) :
    Overlooks purge (Ready purge false spares) (loggingIn scheme username password)
      fun _ _ => True := by
  refine (overlooks_lift _).bind fun _ => ?_
  refine overlooks_connect.bind fun _ => ?_
  refine .look_bind (fun _ => rfl) fun tables => ?_
  refine (overlooks_lift _).bind fun account => ?_
  split
  · refine overlooks_begin.bind fun _ => ?_
    refine (overlooks_renewingSession account.id).bind fun session => ?_
    exact overlooks_commit_return session
  · exact overlooks_throw _

theorem overlooks_refreshing (token : String) :
    Overlooks purge (Ready purge false spares) (refreshing token) fun _ _ => True := by
  refine (overlooks_lift _).bind fun _ => ?_
  refine overlooks_begin.bind fun _ => ?_
  refine (overlooks_holder _ .refresh token).bind fun account => ?_
  refine (overlooks_renewingSession account.id).bind fun session => ?_
  exact overlooks_commit_return session

theorem overlooks_requestingReset (email : String) :
    Overlooks purge (Ready purge false spares) (requestingReset email) fun _ _ => True := by
  refine (overlooks_lift _).bind fun _ => ?_
  refine overlooks_connect.bind fun _ => ?_
  refine .look_bind (fun _ => rfl) fun tables => ?_
  refine (overlooks_lift _).bind fun account => ?_
  refine overlooks_begin.bind fun _ => ?_
  refine .removeToken_bind ?_
  refine (overlooks_mint account.id .passwordReset fun row isSpared => isSpared.2).bind
    fun token => ?_
  exact overlooks_commit_queue_return _ _

theorem overlooks_settingPassword (scheme : PasswordScheme) (token password : String) :
    Overlooks purge (Ready purge false spares) (settingPassword scheme token password)
      fun _ _ => True := by
  refine (overlooks_lift _).bind fun _ => ?_
  refine overlooks_connect.bind fun _ => ?_
  refine (overlooks_holder _ .passwordReset token).bind fun _ => ?_
  refine (overlooks_hashPassword scheme password).bind fun passwordHash => ?_
  refine overlooks_begin.bind fun _ => ?_
  refine (overlooks_holder _ .passwordReset token).bind fun account => ?_
  refine (overlooks_updateAccount _).bind fun account => ?_
  refine .removeToken_bind ?_
  exact overlooks_commit_return account

theorem overlooks_withPassword {inside : Bool} (scheme : PasswordScheme) (account : Account)
    (password : Option String) :
    Overlooks purge (Ready purge inside spares) (withPassword scheme account password)
      fun _ => Ready purge inside spares := by
  cases password with
  | none => exact overlooks_pure account
  | some password => exact (overlooks_hashPassword scheme password).bind fun _ => overlooks_pure _

theorem overlooks_renewingActivation (accountId : Int) (isNew : Bool) :
    Overlooks purge (Ready purge true spares) (renewingActivation accountId isNew)
      fun _ => Ready purge true fun _ => True := by
  unfold renewingActivation
  split
  · refine .removeToken_bind ?_
    exact (overlooks_mint accountId .activation fun row isSpared => isSpared.2).bind
      fun token => overlooks_return _
  · exact overlooks_return none

theorem overlooks_changingAccount (scheme : PasswordScheme) (identity : Identity)
    (username : String) (email password : Option String) :
    Overlooks purge (Ready purge false spares)
      (changingAccount scheme identity username email password) fun _ _ => True := by
  refine (overlooks_lift _).bind fun caller => ?_
  refine (overlooks_lift _).bind fun _ => ?_
  refine (overlooks_withPassword scheme _ password).bind fun changed => ?_
  refine overlooks_begin.bind fun _ => ?_
  refine (overlooks_updateAccount changed).bind fun account => ?_
  refine (overlooks_renewingActivation account.id _).bind fun token => ?_
  refine overlooks_commit.bind fun _ => ?_
  cases token with
  | none => exact (overlooks_pure ()).bind fun _ => overlooks_pure _
  | some token => exact (overlooks_queue _).bind fun _ => overlooks_pure _

end Service

/-! ## Calls -/

/-- An outcome with the tokens that are no longer good left out. -/
def Outcome.purged {α : Type} (purge : Instant) (outcome : Outcome α) : Outcome α :=
  { outcome with database := outcome.database.purged purge }

/-- Whether no draw of a moment makes a token that is stored. -/
def Moment.IsNew (moment : Moment) (tables : Tables) : Prop :=
  ∀ row ∈ tables.tokens, ∀ draw ∈ moment.draws,
    row.digest ≠ Token.digestOf (Token.plaintextOf draw)

variable {moment : Moment} {database : Database}

/-- A call is ready when it begins. -/
theorem Progress.ready_start (sound : database.tables.Sound)
    (isLater : purge.milliseconds ≤ moment.now.milliseconds)
    (isNew : moment.IsNew database.tables) :
    (Progress.start moment database).Ready purge false fun _ => True where
  stage := rfl
  isLater := isLater
  isNew := fun row isStored _ => isNew row isStored
  owners := by
    intro row isStored _
    obtain ⟨owner, isOwner, sameId⟩ := Tables.hasAccount_iff.1 (sound.owners row isStored)
    exact sameId ▸ sound.ids owner isOwner
  spares := fun _ _ _ => trivial

theorem Outcome.ofWorkflow_purged {α : Type} {workflow : Workflow α}
    (overlooks : workflow.Overlooks purge (Progress.Ready purge false fun _ => True)
      fun _ _ => True)
    (ready : (Progress.start moment database).Ready purge false fun _ => True) :
    Outcome.ofWorkflow moment (database.purged purge) workflow =
      (Outcome.ofWorkflow moment database workflow).purged purge := by
  obtain ⟨same, -⟩ := overlooks _ ready
  have start : Progress.start moment (database.purged purge) =
      (Progress.start moment database).purged purge := rfl
  rw [Outcome.ofWorkflow, start, same]
  rfl

namespace Service

/-- Logging out takes no time, and so is told apart from the calls that must not come too early. -/
theorem logout_purged (identity : Identity) :
    logout (database.purged purge) identity = (logout database identity).purged purge := by
  obtain ⟨tables, isOpen⟩ := database
  cases identity with
  | anonymous => rfl
  | known caller =>
      cases isOpen with
      | false => rfl
      | true =>
          have cleared : ((tables.purged purge).withoutToken caller.id .access).withoutToken
              caller.id .refresh = ((tables.withoutToken caller.id .access).withoutToken
                caller.id .refresh).purged purge := by
            rw [Tables.withoutToken_purged, Tables.withoutToken_purged]
          exact congrArg (fun tables => (⟨.ok (), ⟨tables, true⟩, []⟩ : Outcome Unit)) cleared

theorem getAccount_purged (identity : Identity) (username : String) :
    getAccount (database.purged purge) identity username =
      getAccount database identity username := by
  rw [getAccount_eq, getAccount_eq]
  obtain ⟨tables, isOpen⟩ := database
  cases isOpen <;> rfl

theorem requirePermissions_purged (identity : Identity) (required : List Permission) :
    requirePermissions (database.purged purge) identity required =
      requirePermissions database identity required := by
  rw [requirePermissions_eq, requirePermissions_eq]
  obtain ⟨tables, isOpen⟩ := database
  cases isOpen <;> rfl

theorem authenticate_purged {now : Instant}
    (isLater : purge.milliseconds ≤ now.milliseconds) (token : String) :
    authenticate now (database.purged purge) token = authenticate now database token := by
  rw [authenticate_eq, authenticate_eq]
  obtain ⟨tables, isOpen⟩ := database
  cases isOpen with
  | false => rfl
  | true =>
      have same : (tables.purged purge).accountByToken? .access (Token.digestOf token) now =
          tables.accountByToken? .access (Token.digestOf token) now :=
        Tables.accountByToken?_purged isLater _ _
      simp only [Database.purged, Database.connect, if_true, bind, Except.bind, same]

/-- **A call does not see the tokens that are no longer good**: without them it gives the same
result and the same letters, and leaves the same database without them.  Only the expiry of a
session, which is told of a stored token good or not, is not among these calls. -/
theorem perform_purged {scheme : PasswordScheme} {call : Call} (sound : database.tables.Sound)
    (isLater : purge.milliseconds ≤ moment.now.milliseconds)
    (isNew : moment.IsNew database.tables)
    (notExpiry : ∀ identity, call ≠ .sessionExpiry identity) :
    perform scheme moment (database.purged purge) call =
      (perform scheme moment database call).purged purge := by
  have ready := Progress.ready_start sound isLater isNew
  cases call with
  | register username email password =>
      exact congrArg (Outcome.map _) (Outcome.ofWorkflow_purged
        (overlooks_registering scheme username email password) ready)
  | activate token =>
      exact congrArg (Outcome.map _) (Outcome.ofWorkflow_purged (overlooks_activating token) ready)
  | login username password =>
      exact congrArg (Outcome.map _) (Outcome.ofWorkflow_purged
        (overlooks_loggingIn scheme username password) ready)
  | refresh token =>
      exact congrArg (Outcome.map _) (Outcome.ofWorkflow_purged (overlooks_refreshing token) ready)
  | logout identity => exact congrArg (Outcome.map _) (logout_purged identity)
  | requestPasswordReset email =>
      exact congrArg (Outcome.map _) (Outcome.ofWorkflow_purged (overlooks_requestingReset email)
        ready)
  | updatePassword token password =>
      exact congrArg (Outcome.map _) (Outcome.ofWorkflow_purged
        (overlooks_settingPassword scheme token password) ready)
  | updateAccount identity username email password =>
      exact congrArg (Outcome.map _) (Outcome.ofWorkflow_purged
        (overlooks_changingAccount scheme identity username email password) ready)
  | getAccount identity username =>
      rw [perform_getAccount, perform_getAccount, getAccount_purged]
      rfl
  | authenticate token =>
      rw [perform_authenticate, perform_authenticate, authenticate_purged isLater]
      rfl
  | requirePermissions identity required =>
      rw [perform_requirePermissions, perform_requirePermissions, requirePermissions_purged]
      rfl
  | sessionExpiry identity => exact absurd rfl (notExpiry identity)

end Service

end Gatehouse
