import Gatehouse.Proofs.Workflow.Steps
import Gatehouse.Service.Call

/-!
# A call that fails changes nothing

A call writes accounts, grants and tokens one statement after the other, and any of its steps may
fail when others have written already: because of what it finds, because the random source is dry,
or because the store does not serve it, be it at a statement, when a transaction is opened or when
it is committed.  Still a call that fails leaves the database as it was, and queues no letter
(`performAmid_of_error`).

Two properties of workflows carry this, whatever the disturbances are.  A workflow *keeps to itself*
when it changes nothing but the tables of the transaction that it is carried out in.  It *fails
cleanly* when, should it fail, nothing has been committed and no letter has been queued on the way.
Steps that keep to themselves may stand in front of steps that fail cleanly; opening a transaction
leads from the outside to the inside; and what follows a commit must not fail at all.
-/

namespace Gatehouse

set_option autoImplicit false

/-- Two stages of a call with the same database and the same letters. -/
structure Progress.AgreeOutside (former latter : Progress) : Prop where
  database : latter.database = former.database
  letters : latter.letters = former.letters

theorem Progress.AgreeOutside.refl (progress : Progress) : progress.AgreeOutside progress :=
  ⟨rfl, rfl⟩

theorem Progress.AgreeOutside.trans {first second third : Progress}
    (former : first.AgreeOutside second) (latter : second.AgreeOutside third) :
    first.AgreeOutside third :=
  ⟨latter.database.trans former.database, latter.letters.trans former.letters⟩

namespace Workflow

variable {α β : Type}

/-- A workflow that, inside a transaction or outside of one, changes at most the tables of the
transaction, and leaves it open. -/
def KeepsToItself (inside : Bool) (workflow : Workflow α) : Prop :=
  ∀ (disturbances : Disturbances) (progress : Progress), progress.work.isSome = inside →
    (runAmid disturbances workflow progress).2.work.isSome = inside ∧
      progress.AgreeOutside (runAmid disturbances workflow progress).2

/-- A workflow that, inside a transaction or outside of one, commits nothing and queues nothing if
it fails. -/
def FailsCleanly (inside : Bool) (workflow : Workflow α) : Prop :=
  ∀ (disturbances : Disturbances) (progress : Progress) (fault : Fault),
    progress.work.isSome = inside →
      (runAmid disturbances workflow progress).1 = .error fault →
        progress.AgreeOutside (runAmid disturbances workflow progress).2

variable {inside : Bool}

/-! ## Composition -/

theorem KeepsToItself.bind {workflow : Workflow α} {next : α → Workflow β}
    (first : KeepsToItself inside workflow) (rest : ∀ value, KeepsToItself inside (next value)) :
    KeepsToItself inside (workflow >>= next) := by
  intro disturbances progress stage
  have start := first disturbances progress stage
  rw [runAmid_bind]
  cases step : runAmid disturbances workflow progress with
  | mk result later =>
      rw [step] at start
      cases result with
      | ok value =>
          have onward := rest value disturbances later start.1
          exact ⟨onward.1, start.2.trans onward.2⟩
      | error fault => exact start

theorem KeepsToItself.tryCatch {workflow : Workflow α} {handle : Fault → Workflow α}
    (first : KeepsToItself inside workflow) (rest : ∀ fault, KeepsToItself inside (handle fault)) :
    KeepsToItself inside (tryCatch workflow handle) := by
  intro disturbances progress stage
  have start := first disturbances progress stage
  rw [runAmid_tryCatch]
  cases step : runAmid disturbances workflow progress with
  | mk result later =>
      rw [step] at start
      cases result with
      | ok value => exact start
      | error fault =>
          -- the handler starts where the first try ends, with all that it has used up
          have onward := rest fault disturbances later start.1
          exact ⟨onward.1, start.2.trans onward.2⟩

/-- A use of the store keeps to itself whether it is served, refused, or carried out without an
answer. -/
theorem KeepsToItself.bounded {use : Workflow α} (keeps : KeepsToItself inside use) :
    KeepsToItself inside (bounded use) := by
  intro disturbances progress stage
  obtain ⟨sameStage, outside⟩ := keeps disturbances progress.used stage
  rw [runAmid_bounded]
  cases disturbances progress.uses with
  | none => exact ⟨sameStage, outside.database, outside.letters⟩
  | some disturbance =>
      cases isCarriedOut : disturbance.isCarriedOut with
      | false => simpa [isCarriedOut] using ⟨stage, ⟨rfl, rfl⟩⟩
      | true => simpa [isCarriedOut] using ⟨sameStage, ⟨outside.database, outside.letters⟩⟩

theorem KeepsToItself.failsCleanly {workflow : Workflow α} {next : α → Workflow β}
    (first : KeepsToItself inside workflow) (rest : ∀ value, FailsCleanly inside (next value)) :
    FailsCleanly inside (workflow >>= next) := by
  intro disturbances progress fault stage failed
  have start := first disturbances progress stage
  rw [runAmid_bind] at failed ⊢
  cases step : runAmid disturbances workflow progress with
  | mk result later =>
      rw [step] at start failed
      cases result with
      | ok value => exact start.2.trans (rest value disturbances later fault start.1 failed)
      | error _ => exact start.2

theorem KeepsToItself.failsCleanly_self {workflow : Workflow α}
    (keeps : KeepsToItself inside workflow) : FailsCleanly inside workflow :=
  fun disturbances progress _ stage _ => (keeps disturbances progress stage).2

/-- Opening a transaction changes nothing outside of it, and leads inside unless it fails. -/
theorem runAmid_begin (disturbances : Disturbances) (progress : Progress) :
    progress.AgreeOutside (runAmid disturbances begin progress).2 ∧
      ((runAmid disturbances begin progress).1 = .ok () →
        (runAmid disturbances begin progress).2.work.isSome = true) := by
  have opened : progress.AgreeOutside (runAmid disturbances opening progress.used).2 := by
    rw [runAmid_opening]
    cases progress.used.database.connect <;> exact ⟨rfl, rfl⟩
  rw [begin, runAmid_bounded]
  cases disturbances progress.uses with
  | none =>
      refine ⟨opened, ?_⟩
      rw [runAmid_opening]
      cases progress.used.database.connect with
      | ok tables => exact fun _ => rfl
      | error fault => exact fun impossible => nomatch impossible
  | some disturbance =>
      refine ⟨?_, fun impossible => nomatch impossible⟩
      cases isCarriedOut : disturbance.isCarriedOut with
      | false => simpa [isCarriedOut] using ⟨rfl, rfl⟩
      | true => simpa [isCarriedOut] using opened

/-- A workflow that opens a transaction first fails cleanly if the rest does so inside of it. -/
theorem FailsCleanly.begin_bind {next : Unit → Workflow β} (rest : FailsCleanly true (next ())) :
    FailsCleanly false (begin >>= next) := by
  intro disturbances progress fault _ failed
  obtain ⟨outside, isOpen⟩ := runAmid_begin disturbances progress
  rw [runAmid_bind] at failed ⊢
  cases step : runAmid disturbances begin progress with
  | mk result later =>
      rw [step] at outside isOpen failed
      cases result with
      | ok _ => exact outside.trans (rest disturbances later fault (isOpen rfl) failed)
      | error _ => exact outside

/-- A commit that fails has kept nothing, and what follows one that succeeds must not fail. -/
theorem FailsCleanly.commit_bind {next : Unit → Workflow β}
    (succeeds : ∀ disturbances progress, ∃ value last,
      runAmid disturbances (next ()) progress = (.ok value, last)) :
    FailsCleanly inside (commit >>= next) := by
  intro disturbances progress fault _ failed
  rw [runAmid_bind, runAmid_commit] at failed ⊢
  cases disturbed : disturbances progress.uses with
  | none =>
      obtain ⟨value, last, succeeded⟩ := succeeds disturbances progress.used.committed
      rw [disturbed] at failed
      dsimp only at failed
      rw [succeeded] at failed
      cases failed
  | some disturbance => exact ⟨rfl, rfl⟩

/-! ## Single steps -/

theorem keepsToItself_pure (value : α) : KeepsToItself inside (pure value) :=
  fun _ progress stage => ⟨stage, .refl progress⟩

theorem keepsToItself_throw (fault : Fault) : KeepsToItself inside (throw fault : Workflow α) :=
  fun _ progress stage => ⟨stage, .refl progress⟩

theorem keepsToItself_lift (result : Except Fault α) :
    KeepsToItself inside (liftM result : Workflow α) :=
  fun _ progress stage => ⟨stage, .refl progress⟩

theorem keepsToItself_get : KeepsToItself inside get :=
  fun _ progress stage => ⟨stage, .refl progress⟩

theorem keepsToItself_now : KeepsToItself inside now :=
  keepsToItself_get.bind fun _ => keepsToItself_pure _

theorem keepsToItself_connect : KeepsToItself inside connect :=
  .bounded (keepsToItself_get.bind fun _ => (keepsToItself_lift _).bind fun _ =>
    keepsToItself_pure ())

theorem keepsToItself_look : KeepsToItself inside look :=
  .bounded (keepsToItself_get.bind fun _ => keepsToItself_pure _)

theorem keepsToItself_holder (fault : Fault) (scope : Scope) (plaintext : String) :
    KeepsToItself inside (holder fault scope plaintext) :=
  keepsToItself_now.bind fun _ => keepsToItself_look.bind fun _ => keepsToItself_lift _

theorem keepsToItself_hashPassword (scheme : PasswordScheme) (password : String) :
    KeepsToItself inside (hashPassword scheme password) := by
  intro disturbances progress stage
  rw [runAmid_hashPassword]
  cases Service.hashPassword scheme progress.moment password with
  | ok hashed => exact ⟨stage, rfl, rfl⟩
  | error _ => exact ⟨stage, .refl progress⟩

theorem keepsToItself_drawToken : KeepsToItself inside drawToken := by
  intro disturbances progress stage
  rw [runAmid_drawToken]
  cases progress.moment.draws with
  | nil => exact ⟨stage, .refl progress⟩
  | cons draw rest => exact ⟨stage, rfl, rfl⟩

/-- Inside a transaction a statement keeps to itself, whether it writes or fails. -/
theorem keepsToItself_change (statement : Tables → Except Fault (α × Tables)) :
    KeepsToItself true (change statement) := by
  apply KeepsToItself.bounded
  intro disturbances progress isOpen
  rw [runAmid_apply]
  cases statement progress.tables with
  | ok written =>
      exact ⟨(progress.isSome_work_write written.2).trans isOpen,
        Progress.database_write isOpen written.2, progress.letters_write written.2⟩
  | error _ => exact ⟨isOpen, .refl progress⟩

theorem keepsToItself_createAccount (new : NewAccount) :
    KeepsToItself true (createAccount new) :=
  keepsToItself_now.bind fun _ => keepsToItself_change _

theorem keepsToItself_updateAccount (changed : Account) :
    KeepsToItself true (updateAccount changed) :=
  keepsToItself_change _

theorem keepsToItself_removeToken (accountId : Int) (scope : Scope) :
    KeepsToItself true (removeToken accountId scope) :=
  keepsToItself_change _

theorem keepsToItself_grant (accountId : Int) (permissions : List Permission) :
    KeepsToItself true (grant accountId permissions) := by
  induction permissions with
  | nil => exact keepsToItself_pure ()
  | cons permission rest ih => exact (keepsToItself_change _).bind fun _ => ih

theorem keepsToItself_issue (accountId : Int) (lifetime : Duration) (scope : Scope) :
    KeepsToItself true (issue accountId lifetime scope) :=
  keepsToItself_drawToken.bind fun _ => keepsToItself_now.bind fun _ => keepsToItself_change _

/-- Minting keeps to itself on both ways: when the first draw can be stored, and when the token of
the account gives way to a second one. -/
theorem keepsToItself_mint (accountId : Int) (scope : Scope) :
    KeepsToItself true (mint accountId scope) := by
  refine (keepsToItself_issue accountId scope.lifetime scope).tryCatch fun fault => ?_
  split
  · exact (keepsToItself_removeToken accountId scope).bind fun _ =>
      keepsToItself_issue accountId scope.lifetime scope
  · exact keepsToItself_throw fault

/-! ## Endings -/

theorem failsCleanly_commit : FailsCleanly inside commit := by
  intro disturbances progress fault _ failed
  rw [runAmid_commit] at failed ⊢
  cases disturbed : disturbances progress.uses with
  | none =>
      rw [disturbed] at failed
      cases failed
  | some disturbance => exact ⟨rfl, rfl⟩

theorem failsCleanly_commit_return (value : α) :
    FailsCleanly inside (commit >>= fun _ => pure value) :=
  .commit_bind fun _ progress => ⟨value, progress, rfl⟩

theorem failsCleanly_commit_queue_return (letter : Mail.Letter) (value : α) :
    FailsCleanly inside (commit >>= fun _ => queue letter >>= fun _ => pure value) :=
  .commit_bind fun _ progress => ⟨value, progress.queued letter, rfl⟩

end Workflow

/-- The outcome of a workflow that fails cleanly. -/
theorem Outcome.ofWorkflowAmid_of_error {α : Type} {disturbances : Disturbances} {moment : Moment}
    {database : Database} {workflow : Workflow α} {fault : Fault}
    (clean : workflow.FailsCleanly false)
    (failed : (Outcome.ofWorkflowAmid disturbances moment database workflow).result =
      .error fault) :
    (Outcome.ofWorkflowAmid disturbances moment database workflow).database = database ∧
      (Outcome.ofWorkflowAmid disturbances moment database workflow).letters = [] := by
  have outside := clean disturbances (.start moment database) fault rfl failed
  exact ⟨outside.database, outside.letters⟩

theorem Outcome.error_of_map {α β : Type} {outcome : Outcome α} {change : α → β} {fault : Fault}
    (failed : (outcome.map change).result = .error fault) : outcome.result = .error fault := by
  unfold Outcome.map at failed
  cases result : outcome.result with
  | ok value =>
      rw [result] at failed
      cases failed
  | error other =>
      rw [result] at failed
      cases failed
      rfl

namespace Service

open Workflow

/-! ## The workflows -/

theorem failsCleanly_registering (scheme : PasswordScheme) (username email password : String) :
    FailsCleanly false (registering scheme username email password) := by
  refine (keepsToItself_lift _).failsCleanly fun _ => ?_
  refine (keepsToItself_hashPassword scheme password).failsCleanly fun passwordHash => ?_
  refine .begin_bind ?_
  refine (keepsToItself_createAccount _).failsCleanly fun account => ?_
  refine (keepsToItself_grant account.id _).failsCleanly fun _ => ?_
  refine (keepsToItself_mint account.id .activation).failsCleanly fun token => ?_
  exact failsCleanly_commit_queue_return _ _

theorem failsCleanly_activating (token : String) : FailsCleanly false (activating token) := by
  refine (keepsToItself_lift _).failsCleanly fun _ => ?_
  refine .begin_bind ?_
  refine (keepsToItself_holder _ .activation token).failsCleanly fun account => ?_
  refine (keepsToItself_updateAccount _).failsCleanly fun account => ?_
  refine (keepsToItself_grant account.id _).failsCleanly fun _ => ?_
  refine (keepsToItself_removeToken account.id .activation).failsCleanly fun _ => ?_
  exact failsCleanly_commit_return account

theorem keepsToItself_renewingSession (accountId : Int) :
    KeepsToItself true (renewingSession accountId) := by
  refine (keepsToItself_removeToken accountId .refresh).bind fun _ => ?_
  refine (keepsToItself_removeToken accountId .access).bind fun _ => ?_
  refine (keepsToItself_mint accountId .access).bind fun access => ?_
  refine (keepsToItself_mint accountId .refresh).bind fun refresh => ?_
  exact keepsToItself_pure _

theorem failsCleanly_loggingIn (scheme : PasswordScheme) (username password : String) :
    FailsCleanly false (loggingIn scheme username password) := by
  refine (keepsToItself_lift _).failsCleanly fun _ => ?_
  refine keepsToItself_connect.failsCleanly fun _ => ?_
  refine keepsToItself_look.failsCleanly fun tables => ?_
  refine (keepsToItself_lift _).failsCleanly fun account => ?_
  split
  · refine .begin_bind ?_
    refine (keepsToItself_renewingSession account.id).failsCleanly fun session => ?_
    exact failsCleanly_commit_return session
  · exact (keepsToItself_throw _).failsCleanly_self

theorem failsCleanly_refreshing (token : String) : FailsCleanly false (refreshing token) := by
  refine (keepsToItself_lift _).failsCleanly fun _ => ?_
  refine .begin_bind ?_
  refine (keepsToItself_holder _ .refresh token).failsCleanly fun account => ?_
  refine (keepsToItself_renewingSession account.id).failsCleanly fun session => ?_
  exact failsCleanly_commit_return session

theorem failsCleanly_loggingOut (identity : Identity) :
    FailsCleanly false (loggingOut identity) := by
  refine (keepsToItself_lift _).failsCleanly fun account => ?_
  refine .begin_bind ?_
  refine (keepsToItself_removeToken account.id .access).failsCleanly fun _ => ?_
  refine (keepsToItself_removeToken account.id .refresh).failsCleanly fun _ => ?_
  exact failsCleanly_commit

theorem failsCleanly_requestingReset (email : String) :
    FailsCleanly false (requestingReset email) := by
  refine (keepsToItself_lift _).failsCleanly fun _ => ?_
  refine keepsToItself_connect.failsCleanly fun _ => ?_
  refine keepsToItself_look.failsCleanly fun tables => ?_
  refine (keepsToItself_lift _).failsCleanly fun account => ?_
  refine .begin_bind ?_
  refine (keepsToItself_removeToken account.id .passwordReset).failsCleanly fun _ => ?_
  refine (keepsToItself_mint account.id .passwordReset).failsCleanly fun token => ?_
  exact failsCleanly_commit_queue_return _ _

theorem failsCleanly_settingPassword (scheme : PasswordScheme) (token password : String) :
    FailsCleanly false (settingPassword scheme token password) := by
  refine (keepsToItself_lift _).failsCleanly fun _ => ?_
  refine keepsToItself_connect.failsCleanly fun _ => ?_
  refine (keepsToItself_holder _ .passwordReset token).failsCleanly fun _ => ?_
  refine (keepsToItself_hashPassword scheme password).failsCleanly fun passwordHash => ?_
  refine .begin_bind ?_
  refine (keepsToItself_holder _ .passwordReset token).failsCleanly fun account => ?_
  refine (keepsToItself_updateAccount _).failsCleanly fun account => ?_
  refine (keepsToItself_removeToken account.id .passwordReset).failsCleanly fun _ => ?_
  exact failsCleanly_commit_return account

theorem keepsToItself_withPassword {inside : Bool} (scheme : PasswordScheme) (account : Account)
    (password : Option String) : KeepsToItself inside (withPassword scheme account password) := by
  cases password with
  | none => exact keepsToItself_pure account
  | some password =>
      exact (keepsToItself_hashPassword scheme password).bind fun _ => keepsToItself_pure _

theorem keepsToItself_renewingActivation (accountId : Int) (isNew : Bool) :
    KeepsToItself true (renewingActivation accountId isNew) := by
  unfold renewingActivation
  split
  · refine (keepsToItself_removeToken accountId .activation).bind fun _ => ?_
    exact (keepsToItself_mint accountId .activation).bind fun _ => keepsToItself_pure _
  · exact keepsToItself_pure none

theorem failsCleanly_changingAccount (scheme : PasswordScheme) (identity : Identity)
    (username : String) (email password : Option String) :
    FailsCleanly false (changingAccount scheme identity username email password) := by
  refine (keepsToItself_lift _).failsCleanly fun caller => ?_
  refine (keepsToItself_lift _).failsCleanly fun _ => ?_
  refine (keepsToItself_withPassword scheme _ password).failsCleanly fun changed => ?_
  refine .begin_bind ?_
  refine (keepsToItself_updateAccount changed).failsCleanly fun account => ?_
  refine (keepsToItself_renewingActivation account.id _).failsCleanly fun token => ?_
  cases token with
  | none => exact failsCleanly_commit_return _
  | some token => exact failsCleanly_commit_queue_return _ _

theorem keepsToItself_gettingAccount (identity : Identity) (username : String) :
    KeepsToItself false (gettingAccount identity username) := by
  refine (keepsToItself_lift _).bind fun caller => ?_
  refine keepsToItself_connect.bind fun _ => ?_
  exact keepsToItself_look.bind fun _ => keepsToItself_lift _

theorem keepsToItself_authenticating (token : String) :
    KeepsToItself false (authenticating token) := by
  unfold authenticating
  split
  · exact keepsToItself_connect.bind fun _ => keepsToItself_holder _ _ _
  · exact keepsToItself_throw _

theorem keepsToItself_requiringPermissions (identity : Identity) (required : List Permission) :
    KeepsToItself false (requiringPermissions identity required) := by
  refine (keepsToItself_lift _).bind fun account => ?_
  split
  · refine keepsToItself_connect.bind fun _ => ?_
    refine keepsToItself_look.bind fun tables => ?_
    split
    · exact keepsToItself_pure account
    · exact keepsToItself_throw _
  · exact keepsToItself_throw _

theorem keepsToItself_readingExpiry (identity : Identity) :
    KeepsToItself false (readingExpiry identity) := by
  refine (keepsToItself_lift _).bind fun account => ?_
  refine keepsToItself_connect.bind fun _ => ?_
  refine keepsToItself_look.bind fun tables => ?_
  exact (keepsToItself_lift _).bind fun _ => keepsToItself_pure _

/-! ## Calls -/

/-- A call that fails leaves the database as it was and queues no letter. -/
theorem performAmid_of_error {disturbances : Disturbances} {scheme : PasswordScheme}
    {moment : Moment} {database : Database} {call : Call} {fault : Fault}
    (failed : (performAmid disturbances scheme moment database call).result = .error fault) :
    (performAmid disturbances scheme moment database call).database = database ∧
      (performAmid disturbances scheme moment database call).letters = [] := by
  cases call with
  | register username email password =>
      exact Outcome.ofWorkflowAmid_of_error
        (failsCleanly_registering scheme username email password) (Outcome.error_of_map failed)
  | activate token =>
      exact Outcome.ofWorkflowAmid_of_error (failsCleanly_activating token)
        (Outcome.error_of_map failed)
  | login username password =>
      exact Outcome.ofWorkflowAmid_of_error (failsCleanly_loggingIn scheme username password)
        (Outcome.error_of_map failed)
  | refresh token =>
      exact Outcome.ofWorkflowAmid_of_error (failsCleanly_refreshing token)
        (Outcome.error_of_map failed)
  | logout identity =>
      exact Outcome.ofWorkflowAmid_of_error (failsCleanly_loggingOut identity)
        (Outcome.error_of_map failed)
  | requestPasswordReset email =>
      exact Outcome.ofWorkflowAmid_of_error (failsCleanly_requestingReset email)
        (Outcome.error_of_map failed)
  | updatePassword token password =>
      exact Outcome.ofWorkflowAmid_of_error (failsCleanly_settingPassword scheme token password)
        (Outcome.error_of_map failed)
  | updateAccount identity username email password =>
      exact Outcome.ofWorkflowAmid_of_error
        (failsCleanly_changingAccount scheme identity username email password)
        (Outcome.error_of_map failed)
  | getAccount identity username =>
      exact Outcome.ofWorkflowAmid_of_error
        (keepsToItself_gettingAccount identity username).failsCleanly_self
        (Outcome.error_of_map failed)
  | authenticate token =>
      exact Outcome.ofWorkflowAmid_of_error (keepsToItself_authenticating token).failsCleanly_self
        (Outcome.error_of_map failed)
  | requirePermissions identity required =>
      exact Outcome.ofWorkflowAmid_of_error
        (keepsToItself_requiringPermissions identity required).failsCleanly_self
        (Outcome.error_of_map failed)
  | sessionExpiry identity =>
      exact Outcome.ofWorkflowAmid_of_error (keepsToItself_readingExpiry identity).failsCleanly_self
        (Outcome.error_of_map failed)

theorem perform_of_error {scheme : PasswordScheme} {moment : Moment} {database : Database}
    {call : Call} {fault : Fault}
    (failed : (perform scheme moment database call).result = .error fault) :
    (perform scheme moment database call).database = database ∧
      (perform scheme moment database call).letters = [] :=
  performAmid_of_error failed

/-- **A call that fails has no effect**: accounts, tokens and grants, the id that the next account
gets and whether the database is open are as before, and no letter is queued.  This holds for every
call by anybody, for every fault, and in every state of the database, closed ones included.  It does
not matter where the call fails: a connection, the opening of a transaction, any statement and the
commit may each be disturbed, and a statement may have been carried out all the same. -/
theorem failed_call_has_no_effect (disturbances : Disturbances) (scheme : PasswordScheme)
    (moment : Moment) (database : Database) (call : Call) (fault : Fault)
    (failed : (performAmid disturbances scheme moment database call).result = .error fault) :
    let outcome := performAmid disturbances scheme moment database call
    outcome.database.tables.accounts = database.tables.accounts ∧
      outcome.database.tables.tokens = database.tables.tokens ∧
      outcome.database.tables.grants = database.tables.grants ∧
      outcome.database.tables.lastAccountId = database.tables.lastAccountId ∧
      outcome.database.isOpen = database.isOpen ∧ outcome.letters = [] := by
  obtain ⟨sameDatabase, noLetters⟩ := performAmid_of_error failed
  intro outcome
  have same : outcome.database = database := sameDatabase
  rw [same]
  exact ⟨rfl, rfl, rfl, rfl, rfl, noLetters⟩

/-- An activated account. -/
def sampleAccount : Account :=
  ⟨1, ⟨0⟩, "alice", "alice@example.com", "stored", true, 2⟩

/-- A database with one activated account that has an activation token left. -/
def sampleDatabase : Database :=
  ⟨(Tables.fresh.withAccount sampleAccount).withTokenRow ⟨[1, 2, 3], 1, 5, Scope.activation.tag⟩,
    true⟩

/-- A store that carries out the third thing it is asked for, but answers too late. -/
def lateThirdAnswer : Disturbances := fun uses =>
  if uses = 2 then some ⟨"query timed out", true⟩ else none

/-- A store that cannot commit after two statements. -/
def fullAtCommit : Disturbances := fun uses =>
  if uses = 3 then some ⟨"database or disk is full", false⟩ else none

/-- Three calls that fail when they have written already: a change of address for which no random
bytes are left, one for which the old token is removed too late, and a logout that cannot be
committed.  Nothing that they have written is kept. -/
theorem interrupted_calls_have_no_effect :
    let dry := performAmid .calm .argon2id ⟨⟨0⟩, []⟩ sampleDatabase
      (.updateAccount (.known sampleAccount) "alice" (some "new@example.com") none)
    let late := performAmid lateThirdAnswer .argon2id ⟨⟨0⟩, []⟩ sampleDatabase
      (.updateAccount (.known sampleAccount) "alice" (some "new@example.com") none)
    let full := performAmid fullAtCommit .argon2id ⟨⟨0⟩, []⟩ sampleDatabase
      (.logout (.known sampleAccount))
    (dry.result = .error (.entropy "no random bytes") ∧
      dry.database.tables.accounts = [sampleAccount] ∧
      dry.database.tables.tokens = sampleDatabase.tables.tokens ∧ dry.letters = []) ∧
    (late.result = .error (.storage "query timed out") ∧
      late.database.tables.accounts = [sampleAccount] ∧
      late.database.tables.tokens = sampleDatabase.tables.tokens ∧ late.letters = []) ∧
    (full.result = .error (.storage "database or disk is full") ∧
      full.database.tables.accounts = [sampleAccount] ∧
      full.database.tables.tokens = sampleDatabase.tables.tokens ∧ full.letters = []) := by
  intro dry late full
  have isDry : dry.result = .error (.entropy "no random bytes") := by with_unfolding_all rfl
  have isLate : late.result = .error (.storage "query timed out") := by with_unfolding_all rfl
  have isFull : full.result = .error (.storage "database or disk is full") := by
    with_unfolding_all rfl
  obtain ⟨accounts, tokens, -, -, -, letters⟩ := failed_call_has_no_effect _ _ _ _ _ _ isDry
  obtain ⟨accounts', tokens', -, -, -, letters'⟩ := failed_call_has_no_effect _ _ _ _ _ _ isLate
  obtain ⟨accounts'', tokens'', -, -, -, letters''⟩ := failed_call_has_no_effect _ _ _ _ _ _ isFull
  exact ⟨⟨isDry, accounts, tokens, letters⟩, ⟨isLate, accounts', tokens', letters'⟩,
    isFull, accounts'', tokens'', letters''⟩

end Service

end Gatehouse
