import Gatehouse.Proofs.Store.Integrity
import Gatehouse.Proofs.Store.Purging
import Gatehouse.Proofs.Workflow.Logins

/-!
# Steps that overlook tokens that are no longer good

A workflow *overlooks* the tokens that are no longer good at a time (`Workflow.Overlooks`) when,
carried out from where they have been left out, it comes to where it would have come otherwise with
them left out.  Every step does so from a stage that is *ready* (`Progress.Ready`): the time of the
call is not before the time at which they were left out, none of them has the digest of a token to
come, and none of them is in the place of a token that is about to be stored.

The last of these is not so from the start.  Removing a token clears its place, and an account that
is created has had no tokens (`Overlooks.removeToken_bind`, `overlooks_createAccount`).
-/

namespace Gatehouse

set_option autoImplicit false

theorem Scope.lifetime_bound (scope : Scope) : 1000000 ≤ scope.lifetime.nanoseconds := by
  cases scope <;> decide

/-- No token has expired when it is made. -/
theorem Instant.milliseconds_lt_plus_lifetime (instant : Instant) (scope : Scope) :
    instant.milliseconds < (instant.plus scope.lifetime).milliseconds := by
  have bound := scope.lifetime_bound
  simp only [milliseconds, plus]
  omega

variable {purge : Instant}

theorem Database.connect_purged (database : Database) :
    (database.purged purge).connect = database.connect.map (Tables.purged purge) := by
  obtain ⟨tables, isOpen⟩ := database
  cases isOpen <;> rfl

namespace Progress

/-! ## Stages -/

/-- A call as it would have come if the tokens that are no longer good had been left out. -/
def purged (purge : Instant) (progress : Progress) : Progress :=
  { progress with
    database := progress.database.purged purge
    work := progress.work.map (Tables.purged purge) }

variable {progress : Progress}

@[simp] theorem moment_purged : (progress.purged purge).moment = progress.moment := rfl

@[simp] theorem database_purged :
    (progress.purged purge).database = progress.database.purged purge := rfl

@[simp] theorem used_purged : (progress.purged purge).used = progress.used.purged purge := rfl

@[simp] theorem spent_purged : (progress.purged purge).spent = progress.spent.purged purge := rfl

@[simp] theorem tables_purged : (progress.purged purge).tables = progress.tables.purged purge := by
  unfold Progress.tables purged
  cases progress.work <;> rfl

theorem purged_write (tables : Tables) :
    (progress.purged purge).write (tables.purged purge) = (progress.write tables).purged purge := by
  unfold write purged
  cases progress.work <;> rfl

theorem purged_committed :
    (progress.purged purge).committed = progress.committed.purged purge := by
  simp only [committed, tables_purged]
  rfl

/-- A stage at which the tokens that are no longer good at a time cannot matter to a step.  What is
spared are the places of tokens that are about to be stored. -/
structure Ready (purge : Instant) (inside : Bool) (spares : TokenRow → Prop)
    (progress : Progress) : Prop where
  stage : progress.work.isSome = inside
  isLater : purge.milliseconds ≤ progress.moment.now.milliseconds
  /-- No token to come has the digest of one of them. -/
  isNew : ∀ row ∈ progress.tables.tokens, Tables.isPast purge row = true →
    ∀ draw ∈ progress.moment.draws, row.digest ≠ Token.digestOf (Token.plaintextOf draw)
  /-- None of them belongs to an account that is still to come. -/
  owners : ∀ row ∈ progress.tables.tokens, Tables.isPast purge row = true →
    row.accountId ≤ progress.tables.lastAccountId
  spares : ∀ row ∈ progress.tables.tokens, Tables.isPast purge row = true → spares row

variable {inside : Bool} {spares : TokenRow → Prop}

namespace Ready

theorem imp {spares' : TokenRow → Prop} (ready : progress.Ready purge inside spares)
    (weaker : ∀ row ∈ progress.tables.tokens, Tables.isPast purge row = true → spares row →
      spares' row) : progress.Ready purge inside spares' where
  stage := ready.stage
  isLater := ready.isLater
  isNew := ready.isNew
  owners := ready.owners
  spares := fun row isStored isPast => weaker row isStored isPast (ready.spares row isStored isPast)

theorem write {after : Tables} (ready : progress.Ready purge inside spares)
    (recedes : progress.tables.Recedes purge after) :
    (progress.write after).Ready purge inside spares where
  stage := (progress.isSome_work_write after).trans ready.stage
  isLater := by
    rw [moment_write]
    exact ready.isLater
  isNew := by
    rw [moment_write, tables_write]
    exact fun row isKept isPast => ready.isNew row (recedes.tokens row isKept isPast) isPast
  owners := by
    rw [tables_write]
    intro row isKept isPast
    have bound := ready.owners row (recedes.tokens row isKept isPast) isPast
    exact Int.le_trans bound recedes.lastAccountId
  spares := by
    rw [tables_write]
    exact fun row isKept isPast => ready.spares row (recedes.tokens row isKept isPast) isPast

theorem used (ready : progress.Ready purge inside spares) :
    progress.used.Ready purge inside spares :=
  ⟨ready.stage, ready.isLater, ready.isNew, ready.owners, ready.spares⟩

/-- Using up draws keeps a call ready. -/
theorem withMoment {later : Moment} (ready : progress.Ready purge inside spares)
    (sameTime : later.now = progress.moment.now)
    (fewer : ∀ draw ∈ later.draws, draw ∈ progress.moment.draws) :
    ({ progress with moment := later } : Progress).Ready purge inside spares where
  stage := ready.stage
  isLater := sameTime ▸ ready.isLater
  isNew := fun row isStored isPast draw isLeft =>
    ready.isNew row isStored isPast draw (fewer draw isLeft)
  owners := ready.owners
  spares := ready.spares

theorem spent (ready : progress.Ready purge inside spares) :
    progress.spent.Ready purge inside spares :=
  ready.withMoment rfl fun _ isLeft => List.mem_of_mem_drop isLeft

end Ready

end Progress

namespace Workflow

open Progress (Ready)

variable {α β : Type}

/-! ## Overlooking -/

/-- A workflow that, from any stage of a kind, comes to the same result and the same stage whether
or not the tokens that are no longer good have been left out, and comes to a stage of another kind
if it succeeds. -/
def Overlooks (purge : Instant) (before : Progress → Prop) (workflow : Workflow α)
    (after : α → Progress → Prop) : Prop :=
  ∀ progress, before progress →
    runFrom workflow (progress.purged purge) =
        ((runFrom workflow progress).1, (runFrom workflow progress).2.purged purge) ∧
      ∀ value last, runFrom workflow progress = (.ok value, last) → after value last

variable {before : Progress → Prop} {inside : Bool} {spares : TokenRow → Prop}

theorem Overlooks.bind {workflow : Workflow α} {next : α → Workflow β}
    {between : α → Progress → Prop} {after : β → Progress → Prop}
    (first : Overlooks purge before workflow between)
    (rest : ∀ value, Overlooks purge (between value) (next value) after) :
    Overlooks purge before (workflow >>= next) after := by
  intro progress isBefore
  obtain ⟨sameStep, isBetween⟩ := first progress isBefore
  rw [runFrom_bind, runFrom_bind, sameStep]
  cases step : runFrom workflow progress with
  | mk result later =>
      cases result with
      | ok value => exact rest value later (isBetween value later step)
      | error fault => exact ⟨rfl, fun _ _ impossible => nomatch impossible⟩

/-- A result leaves a call where it is. -/
theorem overlooks_lift (result : Except Fault α) :
    Overlooks purge before (liftM result) fun _ => before := by
  intro progress isBefore
  refine ⟨rfl, fun value last done => ?_⟩
  cases done
  exact isBefore

theorem overlooks_pure (value : α) : Overlooks purge before (pure value) fun _ => before :=
  overlooks_lift (.ok value)

theorem overlooks_throw {after : α → Progress → Prop} (fault : Fault) :
    Overlooks purge before (throw fault : Workflow α) after :=
  fun _ _ => ⟨rfl, fun _ _ impossible => nomatch impossible⟩

theorem overlooks_connect :
    Overlooks purge (Ready purge inside spares) connect fun _ => Ready purge inside spares := by
  intro progress ready
  rw [runFrom_connect, runFrom_connect, Progress.database_purged, Database.connect_purged]
  cases progress.database.connect with
  | error fault => exact ⟨rfl, fun _ _ impossible => nomatch impossible⟩
  | ok tables =>
      refine ⟨rfl, fun _ _ done => ?_⟩
      cases done
      exact ready.used

/-- What is seen of the tables may hold the tokens, so what follows must not look at them. -/
theorem Overlooks.look_bind {next : Tables → Workflow β} {after : β → Progress → Prop}
    (isBlind : ∀ tables : Tables, next (tables.purged purge) = next tables)
    (rest : ∀ tables, Overlooks purge (Ready purge inside spares) (next tables) after) :
    Overlooks purge (Ready purge inside spares) (look >>= next) after := by
  intro progress ready
  rw [runFrom_bind, runFrom_bind, runFrom_look, runFrom_look, Progress.tables_purged,
    Progress.used_purged]
  simp only [isBlind]
  exact rest progress.tables progress.used ready.used

theorem overlooks_begin :
    Overlooks purge (Ready purge false spares) begin fun _ => Ready purge true spares := by
  intro progress ready
  rw [runFrom_begin, runFrom_begin, Progress.database_purged, Database.connect_purged]
  cases isRead : progress.database.connect with
  | error fault => exact ⟨rfl, fun _ _ impossible => nomatch impossible⟩
  | ok tables =>
      refine ⟨rfl, fun _ _ done => ?_⟩
      cases done
      obtain ⟨-, rfl⟩ := Database.connect_eq_ok.1 isRead
      have outside : progress.tables = progress.database.tables := by
        obtain ⟨_, _, work, _⟩ := progress
        cases work with
        | none => rfl
        | some _ => cases ready.stage
      exact ⟨rfl, ready.isLater, outside ▸ ready.isNew, outside ▸ ready.owners,
        outside ▸ ready.spares⟩

theorem overlooks_commit : Overlooks purge before commit fun _ _ => True := by
  intro progress _
  refine ⟨?_, fun _ _ _ => trivial⟩
  rw [runFrom_commit, runFrom_commit, Progress.used_purged, Progress.purged_committed]

theorem overlooks_queue (letter : Mail.Letter) :
    Overlooks purge before (queue letter) fun _ _ => True :=
  fun _ _ => ⟨rfl, fun _ _ _ => trivial⟩

/-! ## Statements -/

/-- A statement that neither sees the tokens nor adds any of them. -/
theorem overlooks_change {statement : Tables → Except Fault (α × Tables)}
    (isBlind : ∀ tables : Tables, statement (tables.purged purge) =
      (statement tables).map (Prod.map id (Tables.purged purge)))
    (recedes : ∀ tables value after, statement tables = .ok (value, after) →
      tables.Recedes purge after) :
    Overlooks purge (Ready purge inside spares) (change statement)
      fun _ => Ready purge inside spares := by
  intro progress ready
  rw [runFrom_change, runFrom_change, Progress.tables_purged, Progress.used_purged, isBlind]
  cases done : statement progress.tables with
  | error fault => exact ⟨rfl, fun _ _ impossible => nomatch impossible⟩
  | ok written =>
      obtain ⟨value, after⟩ := written
      refine ⟨?_, fun _ _ same => ?_⟩
      · simp only [Except.map, Prod.map, id, Progress.settled, Progress.purged_write]
      · cases same
        exact ready.used.write (recedes _ _ _ done)

theorem overlooks_holder (fault : Fault) (scope : Scope) (plaintext : String) :
    Overlooks purge (Ready purge inside spares) (holder fault scope plaintext)
      fun _ => Ready purge inside spares := by
  intro progress ready
  rw [runFrom_holder, runFrom_holder, Progress.tables_purged, Progress.moment_purged,
    Tables.accountByToken?_purged ready.isLater]
  refine ⟨rfl, fun _ _ done => ?_⟩
  obtain ⟨-, same⟩ := Prod.mk.injEq .. ▸ done
  exact same ▸ ready.used

/-- No token that could be left out belongs to the account that is created. -/
theorem overlooks_createAccount (new : NewAccount) :
    Overlooks purge (Ready purge inside spares) (createAccount new)
      fun account => Ready purge inside fun row => spares row ∧ row.accountId ≠ account.id := by
  intro progress ready
  rw [runFrom_createAccount, runFrom_createAccount, Progress.tables_purged,
    Progress.moment_purged, Progress.used_purged, Tables.createAccount_purged]
  cases done : progress.tables.createAccount progress.moment.now new with
  | error fault => exact ⟨rfl, fun _ _ impossible => nomatch impossible⟩
  | ok written =>
      obtain ⟨account, after⟩ := written
      refine ⟨?_, fun _ _ same => ?_⟩
      · simp only [Except.map, Prod.map, id, Progress.settled, Progress.purged_write]
      · cases same
        obtain ⟨-, rfl, rfl⟩ := Tables.createAccount_eq_ok.1 done
        have isOther : progress.Ready purge inside fun row =>
            spares row ∧ row.accountId ≠ progress.tables.lastAccountId + 1 := by
          refine ⟨ready.stage, ready.isLater, ready.isNew, ready.owners, ?_⟩
          intro row isStored isPast
          refine ⟨ready.spares row isStored isPast, ?_⟩
          have bound := ready.owners row isStored isPast
          omega
        exact isOther.used.write (.of_tokens rfl (Int.le_of_lt (Int.lt_succ _)))

theorem overlooks_updateAccount (changed : Account) :
    Overlooks purge (Ready purge inside spares) (updateAccount changed)
      fun _ => Ready purge inside spares := by
  refine overlooks_change (fun tables => tables.updateAccount_purged changed) ?_
  intro tables written after done
  obtain ⟨-, -, rfl⟩ := Tables.updateAccount_eq_ok.1 done
  exact .of_tokens rfl (Int.le_refl _)

theorem overlooks_grant (accountId : Int) (permissions : List Permission) :
    Overlooks purge (Ready purge inside spares) (grant accountId permissions)
      fun _ => Ready purge inside spares := by
  induction permissions with
  | nil => exact overlooks_pure ()
  | cons permission rest ih =>
      refine .bind (overlooks_change (fun tables => ?_) fun tables value after done => ?_)
        fun _ => ih
      · rw [Tables.grantOne_purged]
        cases tables.grantOne accountId permission <;> rfl
      · obtain ⟨granted, isGranted, same⟩ := Service.except_map_eq_ok.1 done
        cases same
        rw [Tables.eq_granted_of_grantOne isGranted]
        exact .of_tokens (Tables.tokens_granted _ _)
          (Int.le_of_eq (Tables.lastAccountId_granted _ _).symm)

/-- The removal of a token tells how many rows were removed, which may be one that could have been
left out.  Behind it the place of the token is clear. -/
theorem Overlooks.removeToken_bind {accountId : Int} {scope : Scope} {rest : Workflow β}
    {after : β → Progress → Prop}
    (onward : Overlooks purge (Ready purge true fun row =>
      spares row ∧ ¬(row.accountId = accountId ∧ row.scope = scope.tag)) rest after) :
    Overlooks purge (Ready purge true spares) (removeToken accountId scope >>= fun _ => rest)
      after := by
  intro progress ready
  rw [runFrom_bind, runFrom_bind, runFrom_removeToken, runFrom_removeToken,
    Progress.tables_purged, Progress.used_purged, Tables.withoutToken_purged,
    Progress.purged_write]
  have recedes : progress.tables.Recedes purge (progress.tables.withoutToken accountId scope) :=
    ⟨fun row isKept _ => (Tables.mem_withoutToken.1 isKept).1, Int.le_refl _⟩
  refine onward _ ((ready.used.write recedes).imp ?_)
  rw [Progress.tables_write]
  exact fun row isKept _ isSpared => ⟨isSpared, (Tables.mem_withoutToken.1 isKept).2⟩

/-! ## Tokens -/

/-- A token is stored, or cannot be stored, whether or not others have been left out. -/
theorem issue_purged {progress : Progress} {accountId : Int} {scope : Scope}
    (ready : progress.Ready purge inside spares)
    (isClear : ∀ row, spares row → ¬(row.accountId = accountId ∧ row.scope = scope.tag)) :
    runFrom (issue accountId scope.lifetime scope) (progress.purged purge) =
        ((runFrom (issue accountId scope.lifetime scope) progress).1,
          (runFrom (issue accountId scope.lifetime scope) progress).2.purged purge) ∧
      (runFrom (issue accountId scope.lifetime scope) progress).2.Ready purge inside spares := by
  rw [runFrom_issue, runFrom_issue, Progress.moment_purged, Progress.tables_purged,
    Progress.spent_purged, Progress.used_purged]
  cases draws : progress.moment.draws with
  | nil => exact ⟨rfl, ready⟩
  | cons draw rest =>
      obtain ⟨token, isMade⟩ : ∃ token, token = (IssuedToken.ofDraw draw progress.moment.now
        accountId scope.lifetime scope).token := ⟨_, rfl⟩
      have isGood : Tables.isPast purge (Tables.rowOfToken token) = false := by
        rw [← Bool.not_eq_true, Tables.isPast_iff, isMade]
        change ¬(progress.moment.now.plus scope.lifetime).milliseconds ≤ purge.milliseconds
        have bound := ready.isLater
        have isLater := progress.moment.now.milliseconds_lt_plus_lifetime scope
        omega
      have inserted : (progress.tables.purged purge).insertToken token =
          (progress.tables.insertToken token).map (Tables.purged purge) := by
        refine Tables.insertToken_purged isGood fun row isStored isPast => ⟨?_, ?_⟩
        · rw [isMade]
          exact ready.isNew row isStored isPast draw (draws ▸ .head _)
        · rw [isMade]
          exact isClear row (ready.spares row isStored isPast)
      simp only [Service.storeToken, ← isMade, inserted]
      cases done : progress.tables.insertToken token with
      | error fault => exact ⟨rfl, ready.spent.used⟩
      | ok after =>
          refine ⟨?_, ready.spent.used.write ?_⟩
          · simp only [Except.map, Progress.settled, Progress.purged_write]
          · obtain ⟨-, -, rfl⟩ := Tables.insertToken_eq_ok.1 done
            refine ⟨fun row isKept isPast => ?_, Int.le_refl _⟩
            rcases List.mem_append.1 isKept with isStored | isAdded
            · exact isStored
            · rw [List.mem_singleton.1 isAdded, isGood] at isPast
              cases isPast

/-- A token that cannot be stored because of another one is in the way of the same one whether or
not those that are no longer good have been left out, so that the second try is the same too. -/
theorem overlooks_mint (accountId : Int) (scope : Scope)
    (isClear : ∀ row, spares row → ¬(row.accountId = accountId ∧ row.scope = scope.tag)) :
    Overlooks purge (Ready purge true spares) (mint accountId scope)
      fun _ => Ready purge true spares := by
  have again : Overlooks purge (Ready purge true spares)
      (removeToken accountId scope >>= fun _ => issue accountId scope.lifetime scope)
      fun _ => Ready purge true spares := by
    refine .removeToken_bind fun progress ready => ?_
    obtain ⟨same, onward⟩ := issue_purged ready fun row isSpared => isSpared.2
    refine ⟨same, fun value last done => ?_⟩
    rw [done] at onward
    exact onward.imp fun _ _ _ isSpared => isSpared.1
  intro progress ready
  obtain ⟨same, onward⟩ := issue_purged ready isClear
  rw [mint, runFrom_tryCatch, runFrom_tryCatch, same]
  cases step : runFrom (issue accountId scope.lifetime scope) progress with
  | mk result later =>
      rw [step] at onward
      cases result with
      | ok issued =>
          refine ⟨rfl, fun _ _ done => ?_⟩
          cases done
          exact onward
      | error fault =>
          dsimp only
          split
          · exact again later onward
          · exact overlooks_throw fault later onward

theorem overlooks_hashPassword (scheme : PasswordScheme) (password : String) :
    Overlooks purge (Ready purge inside spares) (hashPassword scheme password)
      fun _ => Ready purge inside spares := by
  intro progress ready
  rw [runFrom_hashPassword, runFrom_hashPassword, Progress.moment_purged]
  cases hashed : Service.hashPassword scheme progress.moment password with
  | error fault => exact ⟨rfl, fun _ _ impossible => nomatch impossible⟩
  | ok made =>
      obtain ⟨stored, later⟩ := made
      refine ⟨rfl, fun _ _ done => ?_⟩
      cases done
      obtain ⟨-, rfl⟩ := Service.hashPassword_eq_ok hashed
      exact ready.withMoment rfl fun _ isLeft => List.mem_of_mem_drop isLeft

end Workflow

end Gatehouse
