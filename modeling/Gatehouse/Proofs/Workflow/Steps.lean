import Gatehouse.Service.Workflow

/-!
# Carrying a workflow on

What each step of a workflow leads to, from wherever the call is: its result, and how far the call
has come after it.  A sequence of steps goes on from where the first one ends, or stops there with
its fault (`runFrom_bind`).

The equations for single steps make a workflow compute.  From a workflow that succeeded,
`runFrom_bind_eq_ok` gives back what each of its steps led to.

Amid disturbances sequences go on in the same way (`runAmid_bind`), and a use of the store either is
what it would be otherwise, or fails (`runAmid_bounded`).
-/

namespace Gatehouse

set_option autoImplicit false

namespace Progress

@[simp] theorem tables_start (moment : Moment) (database : Database) :
    (start moment database).tables = database.tables := rfl

@[simp] theorem letters_write (progress : Progress) (tables : Tables) :
    (progress.write tables).letters = progress.letters := by
  unfold write
  cases progress.work <;> rfl

@[simp] theorem tables_write (progress : Progress) (tables : Tables) :
    (progress.write tables).tables = tables := by
  unfold write Progress.tables
  cases progress.work <;> rfl

@[simp] theorem moment_used (progress : Progress) : progress.used.moment = progress.moment := rfl

@[simp] theorem database_used (progress : Progress) :
    progress.used.database = progress.database := rfl

@[simp] theorem tables_used (progress : Progress) : progress.used.tables = progress.tables := rfl

@[simp] theorem now_spent (progress : Progress) :
    progress.spent.moment.now = progress.moment.now := rfl

@[simp] theorem tables_spent (progress : Progress) : progress.spent.tables = progress.tables := rfl

@[simp] theorem isSome_work_write (progress : Progress) (tables : Tables) :
    (progress.write tables).work.isSome = progress.work.isSome := by
  obtain ⟨_, _, work, _, _⟩ := progress
  cases work <;> rfl

@[simp] theorem write_write (progress : Progress) (former latter : Tables) :
    (progress.write former).write latter = progress.write latter := by
  obtain ⟨_, _, work, _, _⟩ := progress
  cases work <;> rfl

@[simp] theorem write_self (progress : Progress) : progress.write progress.tables = progress := by
  obtain ⟨_, _, work, _, _⟩ := progress
  cases work <;> rfl

/-- What a transaction writes stays in it. -/
theorem database_write {progress : Progress} (isOpen : progress.work.isSome = true)
    (tables : Tables) : (progress.write tables).database = progress.database := by
  unfold write
  cases stage : progress.work with
  | none => simp [stage] at isOpen
  | some _ => rfl

/-- What a statement leads to: tables that it gives are written, and a fault leaves all as it is. -/
def settled {α : Type} (progress : Progress) :
    Except Fault (α × Tables) → Except Fault α × Progress
  | .ok (value, tables) => (.ok value, progress.write tables)
  | .error fault => (.error fault, progress)

end Progress

namespace Workflow

variable {α β : Type}

/-! ## Results and sequences -/

variable (disturbances : Disturbances)

@[simp] theorem runAmid_pure (value : α) (progress : Progress) :
    runAmid disturbances (pure value) progress = (.ok value, progress) := rfl

@[simp] theorem runAmid_throw (fault : Fault) (progress : Progress) :
    runAmid disturbances (throw fault : Workflow α) progress = (.error fault, progress) := rfl

@[simp] theorem runAmid_lift (result : Except Fault α) (progress : Progress) :
    runAmid disturbances (liftM result : Workflow α) progress = (result, progress) := rfl

@[simp] theorem runAmid_get (progress : Progress) :
    runAmid disturbances get progress = (.ok progress, progress) := rfl

@[simp] theorem runAmid_set (former latter : Progress) :
    runAmid disturbances (set latter) former = (.ok ⟨⟩, latter) := rfl

@[simp] theorem runAmid_read (progress : Progress) :
    runAmid disturbances read progress = (.ok disturbances, progress) := rfl

theorem runAmid_bind (workflow : Workflow α) (next : α → Workflow β) (progress : Progress) :
    runAmid disturbances (workflow >>= next) progress =
      match runAmid disturbances workflow progress with
      | (.ok value, later) => runAmid disturbances (next value) later
      | (.error fault, later) => (.error fault, later) := by
  simp only [runAmid, ReaderT.run, ReaderT.bind, ExceptT.run, bind, ExceptT.bind, ExceptT.mk,
    StateT.run, StateT.bind]
  cases (workflow disturbances progress : Except Fault α × Progress) with
  | mk result later =>
      cases result <;> rfl

theorem runAmid_tryCatch (workflow : Workflow α) (handle : Fault → Workflow α)
    (progress : Progress) :
    runAmid disturbances (tryCatch workflow handle) progress =
      match runAmid disturbances workflow progress with
      | (.ok value, later) => (.ok value, later)
      | (.error fault, later) => runAmid disturbances (handle fault) later := by
  simp only [runAmid, ReaderT.run, ExceptT.run, tryCatch, tryCatchThe, MonadExceptOf.tryCatch,
    ExceptT.tryCatch, ExceptT.mk, bind, StateT.run, StateT.bind]
  cases (workflow disturbances progress : Except Fault α × Progress) with
  | mk result later =>
      cases result <;> rfl

theorem runAmid_attempt (workflow : Workflow α) (progress : Progress) :
    runAmid disturbances (attempt workflow) progress =
      (.ok (), (runAmid disturbances workflow progress).2) := by
  rw [attempt, runAmid_tryCatch, runAmid_bind]
  cases runAmid disturbances workflow progress with
  | mk result later =>
      cases result <;> rfl

/-- A use of the store that is disturbed fails.  What it would have led to is there all the same if
the store has carried it out. -/
theorem runAmid_bounded (use : Workflow α) (progress : Progress) :
    runAmid disturbances (bounded use) progress =
      match disturbances progress.uses with
      | none => runAmid disturbances use progress.used
      | some disturbance =>
          (.error disturbance.fault,
            if disturbance.isCarriedOut then (runAmid disturbances use progress.used).2
            else progress.used) := by
  simp only [bounded, runAmid_bind, runAmid_get, runAmid_set, runAmid_read]
  cases disturbances progress.uses with
  | none => rfl
  | some disturbance =>
      cases isCarriedOut : disturbance.isCarriedOut with
      | false => simp [isCarriedOut]
      | true => simp [isCarriedOut, runAmid_bind, runAmid_attempt]

variable {disturbances}

@[simp] theorem runFrom_pure (value : α) (progress : Progress) :
    runFrom (pure value) progress = (.ok value, progress) := rfl

@[simp] theorem runFrom_throw (fault : Fault) (progress : Progress) :
    runFrom (throw fault : Workflow α) progress = (.error fault, progress) := rfl

@[simp] theorem runFrom_lift (result : Except Fault α) (progress : Progress) :
    runFrom (liftM result : Workflow α) progress = (result, progress) := rfl

@[simp] theorem runFrom_get (progress : Progress) :
    runFrom get progress = (.ok progress, progress) := rfl

@[simp] theorem runFrom_set (former latter : Progress) :
    runFrom (set latter) former = (.ok ⟨⟩, latter) := rfl

theorem runFrom_bind (workflow : Workflow α) (next : α → Workflow β) (progress : Progress) :
    runFrom (workflow >>= next) progress =
      match runFrom workflow progress with
      | (.ok value, later) => runFrom (next value) later
      | (.error fault, later) => (.error fault, later) :=
  runAmid_bind .calm workflow next progress

/-- A result in another form. -/
theorem runFrom_bind_pure (workflow : Workflow α) (form : α → β) (progress : Progress) :
    runFrom (workflow >>= fun value => pure (form value)) progress =
      ((runFrom workflow progress).1.map form, (runFrom workflow progress).2) := by
  rw [runFrom_bind]
  cases runFrom workflow progress with
  | mk result later =>
      cases result <;> rfl

theorem runFrom_bind_pure_of_eq {workflow : Workflow α} {form : α → β} {progress : Progress}
    {last : Except Fault α × Progress} (runs : runFrom workflow progress = last) :
    runFrom (workflow >>= fun value => pure (form value)) progress =
      (last.1.map form, last.2) := by
  rw [runFrom_bind_pure, runs]

theorem runFrom_tryCatch (workflow : Workflow α) (handle : Fault → Workflow α)
    (progress : Progress) :
    runFrom (tryCatch workflow handle) progress =
      match runFrom workflow progress with
      | (.ok value, later) => (.ok value, later)
      | (.error fault, later) => runFrom (handle fault) later :=
  runAmid_tryCatch .calm workflow handle progress

/-- If nothing goes wrong, using the store only counts as a use of it. -/
theorem runFrom_bounded (use : Workflow α) (progress : Progress) :
    runFrom (bounded use) progress = runFrom use progress.used := rfl

/-- A sequence of steps succeeds exactly when the first one does and the others succeed from where
it ends. -/
theorem runFrom_bind_eq_ok {workflow : Workflow α} {next : α → Workflow β}
    {progress last : Progress} {value : β} :
    runFrom (workflow >>= next) progress = (.ok value, last) ↔
      ∃ first between, runFrom workflow progress = (.ok first, between) ∧
        runFrom (next first) between = (.ok value, last) := by
  rw [runFrom_bind]
  cases step : runFrom workflow progress with
  | mk result later =>
      cases result with
      | ok first =>
          constructor
          · intro rest
            exact ⟨first, later, rfl, rest⟩
          · rintro ⟨_, _, same, rest⟩
            cases same
            exact rest
      | error fault =>
          constructor
          · intro impossible
            cases impossible
          · rintro ⟨_, _, impossible, _⟩
            cases impossible

/-- A result that a sequence of steps begins with leaves the call where it is. -/
theorem runFrom_lift_bind_eq_ok {result : Except Fault α} {next : α → Workflow β}
    {progress last : Progress} {value : β} :
    runFrom (liftM result >>= next) progress = (.ok value, last) ↔
      ∃ first, result = .ok first ∧ runFrom (next first) progress = (.ok value, last) := by
  rw [runFrom_bind, runFrom_lift]
  cases result with
  | ok first =>
      constructor
      · intro rest
        exact ⟨first, rfl, rest⟩
      · rintro ⟨_, same, rest⟩
        cases same
        exact rest
  | error fault =>
      constructor
      · intro impossible
        cases impossible
      · rintro ⟨_, impossible, _⟩
        cases impossible

/-! ## Transactions -/

theorem runFrom_connect (progress : Progress) :
    runFrom connect progress = (progress.database.connect.map fun _ => (), progress.used) := by
  simp only [connect, runFrom_bounded, runFrom_bind, runFrom_get, runFrom_lift,
    Progress.database_used]
  cases progress.database.connect <;> rfl

theorem runAmid_opening (disturbances : Disturbances) (progress : Progress) :
    runAmid disturbances opening progress =
      match progress.database.connect with
      | .ok tables => (.ok (), { progress with work := some tables })
      | .error fault => (.error fault, progress) := by
  simp only [opening, runAmid_bind, runAmid_get, runAmid_lift]
  cases progress.database.connect <;> rfl

theorem runFrom_begin (progress : Progress) :
    runFrom begin progress =
      match progress.database.connect with
      | .ok tables => (.ok (), { progress.used with work := some tables })
      | .error fault => (.error fault, progress.used) :=
  runAmid_opening .calm progress.used

theorem runAmid_commit (disturbances : Disturbances) (progress : Progress) :
    runAmid disturbances commit progress =
      match disturbances progress.uses with
      | none => (.ok (), progress.used.committed)
      | some disturbance => (.error disturbance.fault, progress.used) := by
  simp only [commit, runAmid_bind, runAmid_get, runAmid_read]
  cases disturbances progress.uses <;> rfl

@[simp] theorem runFrom_commit (progress : Progress) :
    runFrom commit progress = (.ok (), progress.used.committed) := rfl

@[simp] theorem runFrom_queue (letter : Mail.Letter) (progress : Progress) :
    runFrom (queue letter) progress = (.ok (), progress.queued letter) := rfl

/-! ## Statements -/

@[simp] theorem runFrom_look (progress : Progress) :
    runFrom look progress = (.ok progress.tables, progress.used) := rfl

@[simp] theorem runFrom_now (progress : Progress) :
    runFrom now progress = (.ok progress.moment.now, progress) := rfl

theorem runAmid_apply (disturbances : Disturbances) (statement : Tables → Except Fault (α × Tables))
    (progress : Progress) :
    runAmid disturbances (apply statement) progress =
      progress.settled (statement progress.tables) := by
  simp only [apply, runAmid_bind, runAmid_get, runAmid_lift]
  cases statement progress.tables <;> rfl

theorem runFrom_change (statement : Tables → Except Fault (α × Tables)) (progress : Progress) :
    runFrom (change statement) progress =
      progress.used.settled (statement progress.tables) :=
  runAmid_apply .calm statement progress.used

theorem runFrom_holder (fault : Fault) (scope : Scope) (plaintext : String)
    (progress : Progress) :
    runFrom (holder fault scope plaintext) progress =
      (Service.found fault (progress.tables.accountByToken? scope (Token.digestOf plaintext)
        progress.moment.now), progress.used) := by
  simp only [holder, runFrom_bind, runFrom_now, runFrom_look, runFrom_lift]

theorem runFrom_createAccount (new : NewAccount) (progress : Progress) :
    runFrom (createAccount new) progress =
      progress.used.settled (progress.tables.createAccount progress.moment.now new) := by
  simp only [createAccount, runFrom_bind, runFrom_now, runFrom_change]

theorem runFrom_updateAccount (changed : Account) (progress : Progress) :
    runFrom (updateAccount changed) progress =
      progress.used.settled (progress.tables.updateAccount changed) :=
  runFrom_change _ progress

theorem runFrom_removeToken (accountId : Int) (scope : Scope) (progress : Progress) :
    runFrom (removeToken accountId scope) progress =
      (.ok (progress.tables.removeToken accountId scope).1,
        progress.used.write (progress.tables.withoutToken accountId scope)) :=
  runFrom_change _ progress

theorem runFrom_purgeExpired (progress : Progress) :
    runFrom purgeExpired progress =
      progress.used.settled (.ok (progress.tables.purgeExpired progress.moment.now)) := by
  simp only [purgeExpired, runFrom_bind, runFrom_now, runFrom_change]

theorem runAmid_drawToken (disturbances : Disturbances) (progress : Progress) :
    runAmid disturbances drawToken progress =
      match progress.moment.draws with
      | [] => (.error (.entropy "no random bytes"), progress)
      | draw :: _ => (.ok draw, progress.spent) := by
  obtain ⟨⟨now, draws⟩, _, _, _, _⟩ := progress
  cases draws <;> rfl

theorem runFrom_drawToken (progress : Progress) :
    runFrom drawToken progress =
      match progress.moment.draws with
      | [] => (.error (.entropy "no random bytes"), progress)
      | draw :: _ => (.ok draw, progress.spent) :=
  runAmid_drawToken .calm progress

theorem runFrom_issue (accountId : Int) (lifetime : Duration) (scope : Scope)
    (progress : Progress) :
    runFrom (issue accountId lifetime scope) progress =
      match progress.moment.draws with
      | [] => (.error (.entropy "no random bytes"), progress)
      | draw :: _ =>
          progress.spent.used.settled (Service.storeToken draw progress.moment.now
            progress.tables accountId lifetime scope) := by
  simp only [issue, runFrom_bind, runFrom_drawToken, runFrom_now, runFrom_change]
  cases progress.moment.draws <;> rfl

theorem runAmid_hashPassword (disturbances : Disturbances) (scheme : PasswordScheme)
    (password : String) (progress : Progress) :
    runAmid disturbances (hashPassword scheme password) progress =
      match Service.hashPassword scheme progress.moment password with
      | .ok (stored, later) => (.ok stored, { progress with moment := later })
      | .error fault => (.error fault, progress) := by
  simp only [hashPassword, runAmid_bind, runAmid_get, runAmid_lift]
  cases Service.hashPassword scheme progress.moment password <;> rfl

theorem runFrom_hashPassword (scheme : PasswordScheme) (password : String)
    (progress : Progress) :
    runFrom (hashPassword scheme password) progress =
      match Service.hashPassword scheme progress.moment password with
      | .ok (stored, later) => (.ok stored, { progress with moment := later })
      | .error fault => (.error fault, progress) :=
  runAmid_hashPassword .calm scheme password progress

end Workflow

end Gatehouse
