import Gatehouse.Proofs.Workflow.Rollback

/-!
# Calls amid disturbances

Either none of the uses of the store that a call makes is disturbed, and it leads to what it leads
to if nothing goes wrong, or it fails with a fault of the store and has no effect
(`performAmid_cases`).  So it makes no difference to what is stored and mailed whether disturbed
calls are made or left out (`disturbed_calls_leave_no_trace`), and histories do without them.

A workflow *withstands* disturbances if it ends as it does without any, or with a fault of the
store.  Sequences of such workflows withstand disturbances, and so does trying one and doing another
if it fails, as long as a fault of the store is not taken for anything else.
-/

namespace Gatehouse

set_option autoImplicit false

namespace Workflow

variable {α β : Type}

/-- Whether a workflow, whatever is disturbed, ends as it does if nothing is, or with a fault of the
store. -/
def Withstands (workflow : Workflow α) : Prop :=
  ∀ disturbances progress,
    runAmid disturbances workflow progress = runFrom workflow progress ∨
      ∃ detail, (runAmid disturbances workflow progress).1 = .error (.storage detail)

/-! ## Composition -/

theorem Withstands.bind {workflow : Workflow α} {next : α → Workflow β}
    (first : Withstands workflow) (rest : ∀ value, Withstands (next value)) :
    Withstands (workflow >>= next) := by
  intro disturbances progress
  rw [runAmid_bind, runFrom_bind]
  rcases first disturbances progress with same | ⟨detail, failed⟩
  · rw [same]
    cases runFrom workflow progress with
    | mk result later =>
        cases result with
        | ok value => exact rest value disturbances later
        | error fault => exact .inl rfl
  · refine .inr ⟨detail, ?_⟩
    cases step : runAmid disturbances workflow progress with
    | mk result later =>
        rw [step] at failed
        cases failed
        rfl

/-- What is done if a workflow fails must pass a fault of the store on. -/
theorem Withstands.tryCatch {workflow : Workflow α} {handle : Fault → Workflow α}
    (first : Withstands workflow) (rest : ∀ fault, Withstands (handle fault))
    (passes : ∀ detail, handle (.storage detail) = throw (.storage detail)) :
    Withstands (tryCatch workflow handle) := by
  intro disturbances progress
  rw [runAmid_tryCatch, runFrom_tryCatch]
  rcases first disturbances progress with same | ⟨detail, failed⟩
  · rw [same]
    cases runFrom workflow progress with
    | mk result later =>
        cases result with
        | ok value => exact .inl rfl
        | error fault => exact rest fault disturbances later
  · refine .inr ⟨detail, ?_⟩
    cases step : runAmid disturbances workflow progress with
    | mk result later =>
        rw [step] at failed
        cases failed
        simp only [passes, runAmid_throw]

/-- A use of the store that is disturbed ends with a fault of the store. -/
theorem Withstands.bounded {use : Workflow α} (withstands : Withstands use) :
    Withstands (bounded use) := by
  intro disturbances progress
  rw [runAmid_bounded, runFrom_bounded]
  cases disturbances progress.uses with
  | none => exact withstands disturbances progress.used
  | some disturbance => exact .inr ⟨disturbance.detail, rfl⟩

/-! ## Single steps -/

theorem withstands_pure (value : α) : Withstands (pure value) := fun _ _ => .inl rfl

theorem withstands_throw (fault : Fault) : Withstands (throw fault : Workflow α) :=
  fun _ _ => .inl rfl

theorem withstands_lift (result : Except Fault α) : Withstands (liftM result : Workflow α) :=
  fun _ _ => .inl rfl

theorem withstands_get : Withstands get := fun _ _ => .inl rfl

theorem withstands_now : Withstands now := fun _ _ => .inl rfl

theorem withstands_queue (letter : Mail.Letter) : Withstands (queue letter) := fun _ _ => .inl rfl

theorem withstands_connect : Withstands connect :=
  .bounded (withstands_get.bind fun _ => (withstands_lift _).bind fun _ => withstands_pure ())

theorem withstands_begin : Withstands begin := by
  refine .bounded fun disturbances progress => .inl ?_
  rw [runFrom, runAmid_opening, runAmid_opening]

theorem withstands_commit : Withstands commit := by
  intro disturbances progress
  rw [runAmid_commit, runFrom_commit]
  cases disturbances progress.uses with
  | none => exact .inl rfl
  | some disturbance => exact .inr ⟨disturbance.detail, rfl⟩

theorem withstands_look : Withstands look :=
  .bounded (withstands_get.bind fun _ => withstands_pure _)

theorem withstands_holder (fault : Fault) (scope : Scope) (plaintext : String) :
    Withstands (holder fault scope plaintext) :=
  withstands_now.bind fun _ => withstands_look.bind fun _ => withstands_lift _

theorem withstands_change (statement : Tables → Except Fault (α × Tables)) :
    Withstands (change statement) := by
  refine .bounded fun disturbances progress => .inl ?_
  rw [runFrom, runAmid_apply, runAmid_apply]

theorem withstands_createAccount (new : NewAccount) : Withstands (createAccount new) :=
  withstands_now.bind fun _ => withstands_change _

theorem withstands_updateAccount (changed : Account) : Withstands (updateAccount changed) :=
  withstands_change _

theorem withstands_removeToken (accountId : Int) (scope : Scope) :
    Withstands (removeToken accountId scope) :=
  withstands_change _

theorem withstands_grant (accountId : Int) (permissions : List Permission) :
    Withstands (grant accountId permissions) := by
  induction permissions with
  | nil => exact withstands_pure ()
  | cons permission rest ih => exact (withstands_change _).bind fun _ => ih

theorem withstands_drawToken : Withstands drawToken := by
  intro disturbances progress
  rw [runAmid_drawToken, runFrom_drawToken]
  exact .inl rfl

theorem withstands_issue (accountId : Int) (lifetime : Duration) (scope : Scope) :
    Withstands (issue accountId lifetime scope) :=
  withstands_drawToken.bind fun _ => withstands_now.bind fun _ => withstands_change _

/-- A fault of the store is no conflict between tokens, so no second draw is tried after it. -/
theorem withstands_mint (accountId : Int) (scope : Scope) : Withstands (mint accountId scope) := by
  refine (withstands_issue accountId scope.lifetime scope).tryCatch (fun fault => ?_) fun _ => rfl
  split
  · exact (withstands_removeToken accountId scope).bind fun _ =>
      withstands_issue accountId scope.lifetime scope
  · exact withstands_throw fault

theorem withstands_hashPassword (scheme : PasswordScheme) (password : String) :
    Withstands (hashPassword scheme password) := by
  intro disturbances progress
  rw [runAmid_hashPassword, runFrom_hashPassword]
  exact .inl rfl

end Workflow

namespace Service

open Workflow

/-! ## The workflows -/

theorem withstands_registering (scheme : PasswordScheme) (username email password : String) :
    Withstands (registering scheme username email password) := by
  refine (withstands_lift _).bind fun _ => ?_
  refine (withstands_hashPassword scheme password).bind fun passwordHash => ?_
  refine withstands_begin.bind fun _ => ?_
  refine (withstands_createAccount _).bind fun account => ?_
  refine (withstands_grant account.id _).bind fun _ => ?_
  refine (withstands_mint account.id .activation).bind fun token => ?_
  refine withstands_commit.bind fun _ => ?_
  exact (withstands_queue _).bind fun _ => withstands_pure _

theorem withstands_activating (token : String) : Withstands (activating token) := by
  refine (withstands_lift _).bind fun _ => ?_
  refine withstands_begin.bind fun _ => ?_
  refine (withstands_holder _ .activation token).bind fun account => ?_
  refine (withstands_updateAccount _).bind fun account => ?_
  refine (withstands_grant account.id _).bind fun _ => ?_
  refine (withstands_removeToken account.id .activation).bind fun _ => ?_
  exact withstands_commit.bind fun _ => withstands_pure account

theorem withstands_renewingSession (accountId : Int) : Withstands (renewingSession accountId) := by
  refine (withstands_removeToken accountId .refresh).bind fun _ => ?_
  refine (withstands_removeToken accountId .access).bind fun _ => ?_
  refine (withstands_mint accountId .access).bind fun access => ?_
  refine (withstands_mint accountId .refresh).bind fun refresh => ?_
  exact withstands_pure _

theorem withstands_loggingIn (scheme : PasswordScheme) (username password : String) :
    Withstands (loggingIn scheme username password) := by
  refine (withstands_lift _).bind fun _ => ?_
  refine withstands_connect.bind fun _ => ?_
  refine withstands_look.bind fun tables => ?_
  refine (withstands_lift _).bind fun account => ?_
  split
  · refine withstands_begin.bind fun _ => ?_
    refine (withstands_renewingSession account.id).bind fun session => ?_
    exact withstands_commit.bind fun _ => withstands_pure session
  · exact withstands_throw _

theorem withstands_refreshing (token : String) : Withstands (refreshing token) := by
  refine (withstands_lift _).bind fun _ => ?_
  refine withstands_begin.bind fun _ => ?_
  refine (withstands_holder _ .refresh token).bind fun account => ?_
  refine (withstands_renewingSession account.id).bind fun session => ?_
  exact withstands_commit.bind fun _ => withstands_pure session

theorem withstands_loggingOut (identity : Identity) : Withstands (loggingOut identity) := by
  refine (withstands_lift _).bind fun account => ?_
  refine withstands_begin.bind fun _ => ?_
  refine (withstands_removeToken account.id .access).bind fun _ => ?_
  refine (withstands_removeToken account.id .refresh).bind fun _ => ?_
  exact withstands_commit

theorem withstands_requestingReset (email : String) : Withstands (requestingReset email) := by
  refine (withstands_lift _).bind fun _ => ?_
  refine withstands_connect.bind fun _ => ?_
  refine withstands_look.bind fun tables => ?_
  refine (withstands_lift _).bind fun account => ?_
  refine withstands_begin.bind fun _ => ?_
  refine (withstands_removeToken account.id .passwordReset).bind fun _ => ?_
  refine (withstands_mint account.id .passwordReset).bind fun token => ?_
  refine withstands_commit.bind fun _ => ?_
  exact (withstands_queue _).bind fun _ => withstands_pure token

theorem withstands_settingPassword (scheme : PasswordScheme) (token password : String) :
    Withstands (settingPassword scheme token password) := by
  refine (withstands_lift _).bind fun _ => ?_
  refine withstands_connect.bind fun _ => ?_
  refine (withstands_holder _ .passwordReset token).bind fun _ => ?_
  refine (withstands_hashPassword scheme password).bind fun passwordHash => ?_
  refine withstands_begin.bind fun _ => ?_
  refine (withstands_holder _ .passwordReset token).bind fun account => ?_
  refine (withstands_updateAccount _).bind fun account => ?_
  refine (withstands_removeToken account.id .passwordReset).bind fun _ => ?_
  exact withstands_commit.bind fun _ => withstands_pure account

theorem withstands_withPassword (scheme : PasswordScheme) (account : Account)
    (password : Option String) : Withstands (withPassword scheme account password) := by
  cases password with
  | none => exact withstands_pure account
  | some password =>
      exact (withstands_hashPassword scheme password).bind fun _ => withstands_pure _

theorem withstands_renewingActivation (accountId : Int) (isNew : Bool) :
    Withstands (renewingActivation accountId isNew) := by
  unfold renewingActivation
  split
  · refine (withstands_removeToken accountId .activation).bind fun _ => ?_
    exact (withstands_mint accountId .activation).bind fun _ => withstands_pure _
  · exact withstands_pure none

theorem withstands_changingAccount (scheme : PasswordScheme) (identity : Identity)
    (username : String) (email password : Option String) :
    Withstands (changingAccount scheme identity username email password) := by
  refine (withstands_lift _).bind fun caller => ?_
  refine (withstands_lift _).bind fun _ => ?_
  refine (withstands_withPassword scheme _ password).bind fun changed => ?_
  refine withstands_begin.bind fun _ => ?_
  refine (withstands_updateAccount changed).bind fun account => ?_
  refine (withstands_renewingActivation account.id _).bind fun token => ?_
  refine withstands_commit.bind fun _ => ?_
  cases token with
  | none => exact (withstands_pure ()).bind fun _ => withstands_pure _
  | some token => exact (withstands_queue _).bind fun _ => withstands_pure _

theorem withstands_gettingAccount (identity : Identity) (username : String) :
    Withstands (gettingAccount identity username) := by
  refine (withstands_lift _).bind fun caller => ?_
  refine withstands_connect.bind fun _ => ?_
  exact withstands_look.bind fun _ => withstands_lift _

theorem withstands_authenticating (token : String) : Withstands (authenticating token) := by
  unfold authenticating
  split
  · exact withstands_connect.bind fun _ => withstands_holder _ _ _
  · exact withstands_throw _

theorem withstands_requiringPermissions (identity : Identity) (required : List Permission) :
    Withstands (requiringPermissions identity required) := by
  refine (withstands_lift _).bind fun account => ?_
  split
  · refine withstands_connect.bind fun _ => ?_
    refine withstands_look.bind fun tables => ?_
    split
    · exact withstands_pure account
    · exact withstands_throw _
  · exact withstands_throw _

theorem withstands_readingExpiry (identity : Identity) : Withstands (readingExpiry identity) := by
  refine (withstands_lift _).bind fun account => ?_
  refine withstands_connect.bind fun _ => ?_
  refine withstands_look.bind fun tables => ?_
  exact (withstands_lift _).bind fun _ => withstands_pure _

/-! ## Calls -/

variable {disturbances : Disturbances} {moment : Moment} {database : Database}

/-- The outcome of a workflow that withstands disturbances, in whatever form. -/
theorem map_ofWorkflowAmid {α β : Type} {workflow : Workflow α} {form : α → β}
    (withstands : workflow.Withstands) :
    (Outcome.ofWorkflowAmid disturbances moment database workflow).map form =
        (Outcome.ofWorkflowAmid .calm moment database workflow).map form ∨
      ∃ detail, ((Outcome.ofWorkflowAmid disturbances moment database workflow).map form).result =
        .error (.storage detail) := by
  rcases withstands disturbances (.start moment database) with same | ⟨detail, failed⟩
  · refine .inl ?_
    rw [Outcome.ofWorkflowAmid, same]
    rfl
  · refine .inr ⟨detail, ?_⟩
    simp only [Outcome.map, Outcome.ofWorkflowAmid, failed, Except.map]

/-- **A call amid disturbances** leads to what it leads to if nothing goes wrong, or it fails with a
fault of the store and has no effect: the database is as before and no letter is queued. -/
theorem performAmid_cases (disturbances : Disturbances) (scheme : PasswordScheme)
    (moment : Moment) (database : Database) (call : Call) :
    performAmid disturbances scheme moment database call = perform scheme moment database call ∨
      ∃ detail, performAmid disturbances scheme moment database call =
        ⟨.error (.storage detail), database, []⟩ := by
  have ends : performAmid disturbances scheme moment database call =
        perform scheme moment database call ∨
      ∃ detail, (performAmid disturbances scheme moment database call).result =
        .error (.storage detail) := by
    cases call with
    | register => exact map_ofWorkflowAmid (withstands_registering _ _ _ _)
    | activate => exact map_ofWorkflowAmid (withstands_activating _)
    | login => exact map_ofWorkflowAmid (withstands_loggingIn _ _ _)
    | refresh => exact map_ofWorkflowAmid (withstands_refreshing _)
    | logout => exact map_ofWorkflowAmid (withstands_loggingOut _)
    | requestPasswordReset => exact map_ofWorkflowAmid (withstands_requestingReset _)
    | updatePassword => exact map_ofWorkflowAmid (withstands_settingPassword _ _ _)
    | updateAccount => exact map_ofWorkflowAmid (withstands_changingAccount _ _ _ _ _)
    | getAccount => exact map_ofWorkflowAmid (withstands_gettingAccount _ _)
    | authenticate => exact map_ofWorkflowAmid (withstands_authenticating _)
    | requirePermissions => exact map_ofWorkflowAmid (withstands_requiringPermissions _ _)
    | sessionExpiry => exact map_ofWorkflowAmid (withstands_readingExpiry _)
  refine ends.imp_right fun ⟨detail, failed⟩ => ⟨detail, ?_⟩
  obtain ⟨sameDatabase, noLetters⟩ := performAmid_of_error failed
  cases outcome : performAmid disturbances scheme moment database call with
  | mk result after letters =>
      rw [outcome] at failed sameDatabase noLetters
      cases failed
      cases sameDatabase
      cases noLetters
      rfl

/-! ## Sequences of calls -/

/-- Makes calls one after the other, each amid disturbances of its own, and gives what each led
to. -/
def runAmid (scheme : PasswordScheme) (database : Database) :
    List (Disturbances × Moment × Call) → List (Outcome Reply)
  | [] => []
  | (disturbances, moment, call) :: rest =>
      let outcome := performAmid disturbances scheme moment database call
      outcome :: runAmid scheme outcome.database rest

/-- The database as the last of some calls has left it. -/
def databaseAfter (database : Database) (outcomes : List (Outcome Reply)) : Database :=
  outcomes.foldl (fun _ outcome => outcome.database) database

/-- **Disturbed calls leave no trace.**  Of calls that are made one after the other, each amid
disturbances of its own, some are served.  If these are made alone and nothing goes wrong, they have
the same outcomes, they mail what has been mailed, and they leave the database that has been
left. -/
theorem disturbed_calls_leave_no_trace (scheme : PasswordScheme) (database : Database)
    (asked : List (Disturbances × Moment × Call)) :
    ∃ served, served.Sublist (asked.map Prod.snd) ∧
      (run scheme database served).Sublist (runAmid scheme database asked) ∧
      (runAmid scheme database asked).flatMap Outcome.letters =
        (run scheme database served).flatMap Outcome.letters ∧
      databaseAfter database (runAmid scheme database asked) =
        databaseAfter database (run scheme database served) := by
  induction asked generalizing database with
  | nil => exact ⟨[], .slnil, .slnil, rfl, rfl⟩
  | cons first rest ih =>
      obtain ⟨disturbances, moment, call⟩ := first
      rw [runAmid]
      rcases performAmid_cases disturbances scheme moment database call with
        same | ⟨detail, failed⟩
      · -- the call is served, and the others find the database as it has left it
        rw [same]
        obtain ⟨served, areAsked, outcomes, letters, last⟩ :=
          ih (perform scheme moment database call).database
        refine ⟨(moment, call) :: served, areAsked.cons_cons _, outcomes.cons_cons _, ?_, last⟩
        rw [run, List.flatMap_cons, List.flatMap_cons, letters]
      · -- the call is not served, and the others find the database as it was
        rw [failed]
        obtain ⟨served, areAsked, outcomes, letters, last⟩ := ih database
        exact ⟨served, areAsked.cons _, outcomes.cons _, letters, last⟩

end Service

end Gatehouse
