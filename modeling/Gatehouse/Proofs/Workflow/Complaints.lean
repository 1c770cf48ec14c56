import Gatehouse.Proofs.Validation.Reports
import Gatehouse.Service.History

/-!
# What a call complains about

A call refuses what is handed in with a report, and a report may name several fields.  Only the
check that a call begins with, and the hashing of a password, make reports at all; a statement that
fails does so for another reason.  A call that is handed a token of the right length therefore never
complains about the token (`Service.noComplaint_of_presented`), whatever else is wrong with it or
with the rest of the call.

As with calls that fail cleanly, the steps are gone through one by one, and a sequence of steps
complains about a field only if one of them does (`NeverComplains.bind`).
-/

namespace Gatehouse

set_option autoImplicit false

/-- Whether a fault is a report on a field. -/
def Fault.ComplainsOf (field : String) : Fault → Prop
  | .validation report => field ∈ report.fields
  | _ => False

/-- Whether a result, if it is a fault, is no report on a field. -/
def NoComplaint {α : Type} (field : String) (result : Except Fault α) : Prop :=
  ∀ fault, result = .error fault → ¬fault.ComplainsOf field

variable {α β : Type} {field : String}

theorem noComplaint_ok (value : α) : NoComplaint field (.ok value) := nofun

theorem noComplaint_error {fault : Fault} (noReport : ¬fault.ComplainsOf field) :
    NoComplaint field (.error fault : Except Fault α) := by
  rintro _ ⟨⟩
  exact noReport

theorem NoComplaint.map {result : Except Fault α} (spares : NoComplaint field result)
    (form : α → β) : NoComplaint field (result.map form) :=
  fun fault failed => spares fault (Service.except_map_eq_error.1 failed)

theorem NoComplaint.bind {result : Except Fault α} {next : α → Except Fault β}
    (first : NoComplaint field result) (rest : ∀ value, NoComplaint field (next value)) :
    NoComplaint field (result >>= next) := by
  cases result with
  | ok value => exact rest value
  | error fault => exact noComplaint_error (first fault rfl)

/-! ## Statements -/

namespace Tables

theorem noComplaint_updateAccount (tables : Tables) (changed : Account) :
    NoComplaint field (tables.updateAccount changed) := by
  have taken : ∀ fault ∈ takenFault? (tables.othersThan changed.id) changed.username changed.email,
      ¬fault.ComplainsOf field := by
    intro fault isTaken
    unfold takenFault? at isTaken
    split at isTaken
    · cases isTaken
      exact id
    · split at isTaken
      · cases isTaken
        exact id
      · cases isTaken
  unfold updateAccount writeBack updateRow
  cases tables.accounts.find? (isSource changed) with
  | none => exact noComplaint_error id
  | some stored =>
      cases isTaken : takenFault? (tables.othersThan changed.id) changed.username changed.email with
      | none => exact noComplaint_ok _
      | some fault => exact noComplaint_error (taken fault isTaken)

theorem noComplaint_insertToken (tables : Tables) (token : Token) :
    NoComplaint field (tables.insertToken token) := by
  unfold insertToken insertTokenRow
  dsimp only
  split
  · exact noComplaint_error id
  · split
    · exact noComplaint_error id
    · exact noComplaint_ok _

theorem noComplaint_grantOne (tables : Tables) (accountId : Int) (permission : Permission) :
    NoComplaint field (tables.grantOne accountId permission) := by
  rw [grantOne_eq]
  split
  · exact noComplaint_ok _
  · exact noComplaint_error id

end Tables

theorem Database.noComplaint_connect (database : Database) :
    NoComplaint field database.connect := by
  unfold connect
  split
  · exact noComplaint_ok _
  · exact noComplaint_error id

namespace Service

theorem noComplaint_found {fault : Fault} (noReport : ¬fault.ComplainsOf field)
    (search : Option α) : NoComplaint field (found fault search) := by
  cases search with
  | none => exact noComplaint_error noReport
  | some value => exact noComplaint_ok value

theorem noComplaint_storeToken (draw : Draw) (now : Instant) (tables : Tables) (accountId : Int)
    (lifetime : Duration) (scope : Scope) :
    NoComplaint field (storeToken draw now tables accountId lifetime scope) :=
  (tables.noComplaint_insertToken _).map _

/-- The report that a password cannot be hashed with is on the password. -/
theorem noComplaint_hashPassword (other : field ≠ "password") (scheme : PasswordScheme)
    (moment : Moment) (password : String) :
    NoComplaint field (hashPassword scheme moment password) := by
  have noReport (fault : PasswordFault) : ¬(Fault.ofPasswordFault fault).ComplainsOf field := by
    cases fault with
    | policy =>
        intro isReported
        have isNamed : field ∈ (Validation.Report.empty.check false "password"
          PasswordFault.policy.message).fields := isReported
        rcases Validation.Report.mem_fields_check.1 isNamed with isEmpty | ⟨-, same⟩
        · exact Validation.notMem_fields_empty isEmpty
        · exact other same
    | _ => exact id
  obtain ⟨now, draws⟩ := moment
  cases draws with
  | nil => exact noComplaint_error id
  | cons salt rest =>
      simp only [hashPassword, Moment.drawSalt, bind, Except.bind]
      cases scheme.hash password salt with
      | ok stored => exact noComplaint_ok _
      | error fault => exact noComplaint_error (noReport fault)

end Service

/-! ## Steps -/

namespace Workflow

/-- A workflow that fails with no report on a field, from wherever it is carried on. -/
def NeverComplains (field : String) (workflow : Workflow α) : Prop :=
  ∀ progress, NoComplaint field (runFrom workflow progress).1

theorem NeverComplains.bind {workflow : Workflow α} {next : α → Workflow β}
    (first : NeverComplains field workflow) (rest : ∀ value, NeverComplains field (next value)) :
    NeverComplains field (workflow >>= next) := by
  intro progress
  have start := first progress
  rw [runFrom_bind]
  cases step : runFrom workflow progress with
  | mk result later =>
      rw [step] at start
      cases result with
      | ok value => exact rest value later
      | error fault => exact noComplaint_error (start fault rfl)

theorem neverComplains_lift {result : Except Fault α} (spares : NoComplaint field result) :
    NeverComplains field (liftM result : Workflow α) :=
  fun _ => spares

theorem neverComplains_pure (value : α) : NeverComplains field (pure value : Workflow α) :=
  fun _ => noComplaint_ok value

theorem neverComplains_throw {fault : Fault} (noReport : ¬fault.ComplainsOf field) :
    NeverComplains field (throw fault : Workflow α) :=
  fun _ => noComplaint_error noReport

theorem neverComplains_connect : NeverComplains field connect := by
  intro progress
  rw [runFrom_connect]
  exact progress.database.noComplaint_connect.map _

theorem neverComplains_begin : NeverComplains field begin := by
  intro progress
  rw [runFrom_begin]
  have spares : NoComplaint field progress.database.connect := progress.database.noComplaint_connect
  cases opened : progress.database.connect with
  | ok tables => exact noComplaint_ok ()
  | error fault => exact noComplaint_error (spares fault opened)

theorem neverComplains_commit : NeverComplains field commit :=
  fun _ => noComplaint_ok ()

theorem neverComplains_holder {fault : Fault} (noReport : ¬fault.ComplainsOf field)
    (scope : Scope) (plaintext : String) :
    NeverComplains field (holder fault scope plaintext) := by
  intro progress
  rw [runFrom_holder]
  exact Service.noComplaint_found noReport _

theorem noComplaint_settled {progress : Progress} {result : Except Fault (α × Tables)}
    (spares : NoComplaint field result) : NoComplaint field (progress.settled result).1 := by
  cases result with
  | ok written => exact noComplaint_ok _
  | error fault => exact noComplaint_error (spares fault rfl)

theorem neverComplains_change {statement : Tables → Except Fault (α × Tables)}
    (spares : ∀ tables, NoComplaint field (statement tables)) :
    NeverComplains field (change statement) := by
  intro progress
  rw [runFrom_change]
  exact noComplaint_settled (spares progress.tables)

theorem neverComplains_updateAccount (changed : Account) :
    NeverComplains field (updateAccount changed) :=
  neverComplains_change fun tables => tables.noComplaint_updateAccount changed

theorem neverComplains_removeToken (accountId : Int) (scope : Scope) :
    NeverComplains field (removeToken accountId scope) :=
  neverComplains_change fun _ => noComplaint_ok _

theorem neverComplains_grant (accountId : Int) (permissions : List Permission) :
    NeverComplains field (grant accountId permissions) := by
  induction permissions with
  | nil => exact neverComplains_pure ()
  | cons permission rest ih =>
      refine (neverComplains_change fun tables => ?_).bind fun _ => ih
      exact (tables.noComplaint_grantOne accountId permission).map _

theorem neverComplains_issue (accountId : Int) (lifetime : Duration) (scope : Scope) :
    NeverComplains field (issue accountId lifetime scope) := by
  intro progress
  rw [runFrom_issue]
  cases progress.moment.draws with
  | nil => exact noComplaint_error id
  | cons draw rest => exact noComplaint_settled (Service.noComplaint_storeToken _ _ _ _ _ _)

theorem neverComplains_mint (accountId : Int) (scope : Scope) :
    NeverComplains field (mint accountId scope) := by
  intro progress
  have first : NeverComplains field (issue accountId scope.lifetime scope) :=
    neverComplains_issue accountId scope.lifetime scope
  have spares := first progress
  rw [mint, runFrom_tryCatch]
  cases step : runFrom (issue accountId scope.lifetime scope) progress with
  | mk result later =>
      rw [step] at spares
      cases result with
      | ok issued => exact noComplaint_ok issued
      | error fault =>
          have again : NeverComplains field (if Service.isTokenConflict fault = true then do
              let _ ← removeToken accountId scope
              issue accountId scope.lifetime scope
            else throw fault) := by
            split
            · exact (neverComplains_removeToken accountId scope).bind fun _ => first
            · exact neverComplains_throw (spares fault rfl)
          exact again later

theorem neverComplains_hashPassword (other : field ≠ "password") (scheme : PasswordScheme)
    (password : String) : NeverComplains field (hashPassword scheme password) := by
  intro progress
  have spares := Service.noComplaint_hashPassword other scheme progress.moment password
  rw [runFrom_hashPassword]
  cases hashed : Service.hashPassword scheme progress.moment password with
  | ok stored => exact noComplaint_ok _
  | error fault => exact noComplaint_error (spares fault hashed)

end Workflow

/-! ## Calls that present a token -/

namespace Service

open Workflow

variable {token : String}

theorem noComplaint_accept {report : Validation.Report} (notNamed : field ∉ report.fields) :
    NoComplaint field (accept report) := by
  unfold accept
  split
  · exact noComplaint_ok ()
  · exact noComplaint_error notNamed

/-- A token of the right length adds nothing to a report. -/
theorem notMem_fields_checkToken {report : Validation.Report} (notNamed : field ∉ report.fields)
    (isLong : token.utf8ByteSize = Validation.tokenLength) :
    field ∉ (Validation.checkToken report token).fields := by
  have notEmpty : token.isEmpty = false := by
    rw [String.isEmpty_eq_false_iff]
    rintro rfl
    cases isLong
  rw [Validation.checkToken, Validation.Report.mem_fields_check_check]
  simp [notNamed, notEmpty, isLong]

theorem neverComplains_accept_tokenReport
    (isLong : token.utf8ByteSize = Validation.tokenLength) :
    NeverComplains field (liftM (accept (Validation.tokenReport token)) : Workflow Unit) :=
  neverComplains_lift (noComplaint_accept
    (notMem_fields_checkToken Validation.notMem_fields_empty isLong))

theorem neverComplains_activating (isLong : token.utf8ByteSize = Validation.tokenLength) :
    NeverComplains field (activating token) := by
  refine (neverComplains_accept_tokenReport isLong).bind fun _ => ?_
  refine neverComplains_begin.bind fun _ => ?_
  refine (neverComplains_holder id .activation token).bind fun account => ?_
  refine (neverComplains_updateAccount _).bind fun account => ?_
  refine (neverComplains_grant account.id _).bind fun _ => ?_
  refine (neverComplains_removeToken account.id .activation).bind fun _ => ?_
  exact neverComplains_commit.bind fun _ => neverComplains_pure account

theorem neverComplains_renewingSession (accountId : Int) :
    NeverComplains field (renewingSession accountId) := by
  refine (neverComplains_removeToken accountId .refresh).bind fun _ => ?_
  refine (neverComplains_removeToken accountId .access).bind fun _ => ?_
  refine (neverComplains_mint accountId .access).bind fun access => ?_
  exact (neverComplains_mint accountId .refresh).bind fun refresh => neverComplains_pure _

theorem neverComplains_refreshing (isLong : token.utf8ByteSize = Validation.tokenLength) :
    NeverComplains field (refreshing token) := by
  refine (neverComplains_accept_tokenReport isLong).bind fun _ => ?_
  refine neverComplains_begin.bind fun _ => ?_
  refine (neverComplains_holder id .refresh token).bind fun account => ?_
  refine (neverComplains_renewingSession account.id).bind fun session => ?_
  exact neverComplains_commit.bind fun _ => neverComplains_pure session

theorem neverComplains_settingPassword (scheme : PasswordScheme) (password : String)
    (isLong : token.utf8ByteSize = Validation.tokenLength) :
    NeverComplains "token" (settingPassword scheme token password) := by
  have notNamed : "token" ∉ (Validation.passwordReport password).fields := by
    rw [Validation.passwordReport, Validation.mem_fields_checkPassword]
    simp [Validation.notMem_fields_empty]
  refine (neverComplains_lift (noComplaint_accept
    (notMem_fields_checkToken notNamed isLong))).bind fun _ => ?_
  refine neverComplains_connect.bind fun _ => ?_
  refine (neverComplains_holder id .passwordReset token).bind fun _ => ?_
  refine (neverComplains_hashPassword (by decide) scheme password).bind fun passwordHash => ?_
  refine neverComplains_begin.bind fun _ => ?_
  refine (neverComplains_holder id .passwordReset token).bind fun account => ?_
  refine (neverComplains_updateAccount _).bind fun account => ?_
  refine (neverComplains_removeToken account.id .passwordReset).bind fun _ => ?_
  exact neverComplains_commit.bind fun _ => neverComplains_pure account

/-- Looking up the bearer of a token makes no reports at all. -/
theorem neverComplains_authenticating : NeverComplains field (authenticating token) := by
  unfold authenticating
  split
  · exact neverComplains_connect.bind fun _ => neverComplains_holder id .access token
  · exact neverComplains_throw id

/-- A call that presents a token of the right length does not complain about the token. -/
theorem noComplaint_of_presented {scheme : PasswordScheme} {moment : Moment} {database : Database}
    {call : Call} (isPresented : call.presented? = some token)
    (isLong : token.utf8ByteSize = Validation.tokenLength) :
    NoComplaint "token" (perform scheme moment database call).result := by
  cases call with
  | activate =>
      obtain rfl := Option.some.inj isPresented
      exact (neverComplains_activating isLong _).map _
  | refresh =>
      obtain rfl := Option.some.inj isPresented
      exact (neverComplains_refreshing isLong _).map _
  | updatePassword _ password =>
      obtain rfl := Option.some.inj isPresented
      exact (neverComplains_settingPassword scheme password isLong _).map _
  | authenticate => exact (neverComplains_authenticating _).map _
  | _ => cases isPresented

end Service

end Gatehouse
