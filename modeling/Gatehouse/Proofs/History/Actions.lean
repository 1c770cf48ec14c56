import Gatehouse.Proofs.Workflow.Effects
import Gatehouse.Proofs.Workflow.Rollback
import Gatehouse.Service.History

/-!
# What actions lead to

An action either fails, and then leaves the database as it is and queues nothing, or it succeeds
with its effect (`Action.leads`).  The effects of calls are those of the service, and the other
actions have the effect of the one statement that they are.  Granting is several statements, but
none of them writes anything if one fails.
-/

namespace Gatehouse

set_option autoImplicit false

/-- On an open database a use of the store on a connection of its own is what it does. -/
theorem Workflow.ofWorkflow_connected_of_isOpen {α : Type} {moment : Moment} {database : Database}
    {statements : Workflow α} {result : Except Fault α} {last : Progress}
    (isOpen : database.isOpen = true)
    (runs : statements.runFrom (Progress.start moment database).used = (result, last)) :
    Outcome.ofWorkflow moment database (connected statements) =
      ⟨result, last.database, last.letters⟩ := by
  have isConnected : connect.runFrom (.start moment database) =
      (.ok (), (Progress.start moment database).used) := by
    rw [runFrom_connect, (Progress.at_start moment database).database,
      Database.connect_eq_ok.2 ⟨isOpen, rfl⟩]
    rfl
  unfold Outcome.ofWorkflow
  rw [connected, runFrom_bind, isConnected]
  simp only [runs]

namespace Action

/-- What an action that succeeds at a time and on tables is answered, which letters it queues and
what the tables are after it. -/
inductive Effect (scheme : PasswordScheme) (now : Instant) (tables : Tables) :
    Action → Answer → List Mail.Letter → Tables → Prop
  | call {asked : Service.Call} {given : Service.Reply} {letters : List Mail.Letter}
      {after : Tables} (effect : Service.Effect scheme now tables asked given letters after) :
      Effect scheme now tables (.call asked) (.reply given) letters after
  | createAccount {new : NewAccount}
      (isFree : Tables.takenFault? tables.accounts new.username new.email = none) :
      Effect scheme now tables (.createAccount new) (.account (tables.nextAccount now new)) []
        (tables.withAccount (tables.nextAccount now new))
  | accountById {id : Int} :
      Effect scheme now tables (.accountById id) (.lookup (tables.account? id)) [] tables
  | accountNamed {username : String} :
      Effect scheme now tables (.accountNamed username) (.lookup (tables.accountNamed? username))
        [] tables
  | accountAt {email : String} :
      Effect scheme now tables (.accountAt email) (.lookup (tables.accountAt? email)) [] tables
  | accountByToken {scope : Scope} {digest : List UInt8} :
      Effect scheme now tables (.accountByToken scope digest)
        (.lookup (tables.accountByToken? scope digest now)) [] tables
  | updateAccount {changed : Account} (accepts : tables.Accepts changed) :
      Effect scheme now tables (.updateAccount changed) (.account (Tables.advanced changed)) []
        (tables.withChange changed)
  | createToken {accountId : Int} {lifetime : Duration} {scope : Scope} {made : IssuedToken}
      (draw : ∃ draw, made = .ofDraw draw now accountId lifetime scope)
      (isFree : tables.tokenIsTaken (Tables.rowOfToken made.token) = false)
      (hasAccount : tables.hasAccount made.token.accountId = true)
      (hasDate : (now.plus lifetime).HasDate) :
      Effect scheme now tables (.createToken accountId lifetime scope) (.issued made) []
        (tables.withTokenRow (Tables.rowOfToken made.token))
  | breakOff {accountId : Int} {lifetime : Duration} {scope : Scope}
      (noDate : ¬(now.plus lifetime).HasDate) :
      Effect scheme now tables (.createToken accountId lifetime scope) .brokenOff [] tables
  | insertToken {made : Token} (isFree : tables.tokenIsTaken (Tables.rowOfToken made) = false)
      (hasAccount : tables.hasAccount made.accountId = true) :
      Effect scheme now tables (.insertToken made) .done []
        (tables.withTokenRow (Tables.rowOfToken made))
  | token {accountId : Int} {scope : Scope} {found : Option Token}
      (isRead : tables.token? accountId scope = .ok found) :
      Effect scheme now tables (.token accountId scope) (.token found) [] tables
  | removeToken {accountId : Int} {scope : Scope} :
      Effect scheme now tables (.removeToken accountId scope)
        (.removed (tables.removeToken accountId scope).1) [] (tables.withoutToken accountId scope)
  | purgeExpired :
      Effect scheme now tables .purgeExpired (.removed (tables.purgeExpired now).1) []
        (tables.purgeExpired now).2
  | grant {accountId : Int} {permissions : List Permission} {after : Tables}
      (isGranted : tables.grant accountId permissions = .ok after) :
      Effect scheme now tables (.grant accountId permissions) .done [] after
  | permissions {accountId : Int} :
      Effect scheme now tables (.permissions accountId)
        (.permissions (tables.permissionsOf accountId)) [] tables

/-- What an action leads to on a database. -/
inductive Leads (scheme : PasswordScheme) (now : Instant) (database : Database) (action : Action) :
    Outcome Answer → Prop
  /-- It fails and changes nothing. -/
  | failed {fault : Fault} : Leads scheme now database action ⟨.error fault, database, []⟩
  /-- It succeeds with its effect. -/
  | done {answer : Answer} {letters : List Mail.Letter} {after : Tables}
      (effect : Effect scheme now database.tables action answer letters after) :
      Leads scheme now database action ⟨.ok answer, { database with tables := after }, letters⟩
  /-- It closes the database. -/
  | closed (isClose : action = .close) :
      Leads scheme now database action ⟨.ok .done, database.close, []⟩

variable {scheme : PasswordScheme} {moment : Moment} {database : Database} {action : Action}

/-! ## Uses of the store -/

/-- On a connection of its own a use of the store leads to what it does on an open database. -/
theorem leads_connected {workflow : Workflow Answer} {result : Except Fault Answer}
    {last : Progress}
    (runs : workflow.runFrom (Progress.start moment database).used = (result, last))
    (leads : Leads scheme moment.now database action ⟨result, last.database, last.letters⟩) :
    Leads scheme moment.now database action
      (.ofWorkflow moment database (Workflow.connected workflow)) := by
  cases isOpen : database.isOpen with
  | true =>
      rw [Workflow.ofWorkflow_connected_of_isOpen isOpen runs]
      exact leads
  | false =>
      obtain ⟨tables, _⟩ := database
      cases isOpen
      exact .failed

/-- A use of the store that only looks leads to what it finds. -/
theorem leads_of_reading {workflow : Workflow Answer} {result : Except Fault Answer}
    {last : Progress} (stage : last.At database moment.now none)
    (runs : workflow.runFrom (Progress.start moment database).used = (result, last))
    (effect : ∀ answer, result = .ok answer →
      Effect scheme moment.now database.tables action answer [] database.tables) :
    Leads scheme moment.now database action
      (.ofWorkflow moment database (Workflow.connected workflow)) := by
  apply leads_connected runs
  rw [stage.database, stage.letters]
  cases result with
  | error fault => exact .failed
  | ok answer => exact .done (effect answer rfl)

/-- A use of the store that ends in what a statement makes of the tables leads to that. -/
theorem leads_of_settled {α : Type} {workflow : Workflow Answer} {form : α → Answer}
    {progress : Progress} {result : Except Fault (α × Tables)}
    (stage : progress.At database moment.now none)
    (runs : workflow.runFrom (Progress.start moment database).used =
      ((progress.settled result).1.map form, (progress.settled result).2))
    (effect : ∀ value after, result = .ok (value, after) →
      Effect scheme moment.now database.tables action (form value) [] after) :
    Leads scheme moment.now database action
      (.ofWorkflow moment database (Workflow.connected workflow)) := by
  apply leads_connected runs
  cases result with
  | error fault =>
      simp only [Progress.settled, stage.database, stage.letters]
      exact .failed
  | ok written =>
      simp only [Progress.settled, Progress.write, stage.work, stage.database, stage.letters]
      exact .done (effect written.1 written.2 rfl)

/-- Granting is one statement for each permission, and yet leads to what they write together: none
of them writes anything if one fails. -/
theorem runFrom_grant (accountId : Int) (permissions : List Permission) (progress : Progress) :
    ∃ uses, (Workflow.grant accountId permissions).runFrom progress =
      ({ progress with uses := uses } : Progress).settled
        ((progress.tables.grant accountId permissions).map fun after => ((), after)) := by
  induction permissions generalizing progress with
  | nil =>
      refine ⟨progress.uses, ?_⟩
      simp only [Workflow.grant, Workflow.runFrom_pure, Tables.grant, Except.map, Progress.settled]
      rw [progress.write_self]
  | cons permission rest ih =>
      simp only [Workflow.grant, Workflow.runFrom_bind, Workflow.runFrom_change, Tables.grant]
      cases first : progress.tables.grantOne accountId permission with
      | error fault => exact ⟨_, rfl⟩
      | ok granted =>
          obtain ⟨uses, onward⟩ := ih (progress.used.write granted)
          refine ⟨uses, ?_⟩
          have sameUses : ({ progress.used.write granted with uses := uses } : Progress) =
              ({ progress with uses := uses } : Progress).write granted := by
            unfold Progress.write Progress.used
            cases progress.work <;> rfl
          simp only [Except.map, Progress.settled, onward, Progress.tables_write, sameUses]
          cases later : granted.grant accountId rest with
          | ok after => simp only [Progress.write_write]
          | error fault =>
              have isAbsent := Tables.hasAccount_of_grant_error later
              rw [Tables.eq_granted_of_grantOne first, Tables.hasAccount_granted] at isAbsent
              rw [Tables.eq_of_grantOne_of_absent isAbsent first]
              have unwritten := Progress.write_self { progress with uses := uses }
              exact congrArg (_, ·) unwritten

/-- Writing a copy back to an open database is answered with the copy that it leaves. -/
theorem perform_updateAccount (changed : Account) (isOpen : database.isOpen = true) :
    (updateAccount changed).perform scheme moment database =
      let (result, left, after) := database.tables.writeBack changed
      ⟨result.map fun _ => .account left, { database with tables := after }, []⟩ := by
  let settled := (Progress.start moment database).used.used.settled
    (database.tables.updateAccount changed)
  have runs : (updateAccount changed).statements.runFrom (Progress.start moment database).used =
      (settled.1.map .account, settled.2) := by
    rw [statements, Workflow.runFrom_bind_pure, Workflow.runFrom_updateAccount]
    rfl
  refine (Workflow.ofWorkflow_connected_of_isOpen isOpen runs).trans ?_
  simp only [settled, Tables.updateAccount]
  rcases database.tables.writeBack_cases changed with ⟨-, same⟩ | ⟨_, _, same⟩ | ⟨-, same⟩
  all_goals
    rw [same]
    rfl

/-! ## Actions -/

/-- What a call of the service leads to. -/
theorem leads_call (asked : Service.Call) :
    Leads scheme moment.now database (.call asked)
      ((Service.perform scheme moment database asked).map .reply) := by
  cases done : (Service.perform scheme moment database asked).result with
  | error fault =>
      obtain ⟨sameDatabase, noLetters⟩ := Service.perform_of_error done
      simp only [Outcome.map, done, sameDatabase, noLetters]
      exact .failed
  | ok given =>
      obtain ⟨-, after, effect, isAfter⟩ := Service.effect_of_perform done
      simp only [Outcome.map, done, isAfter]
      exact .done (.call effect)

/-- A token is made and stored if its expiry has a date.  Otherwise nothing is stored, although the
draw is used up. -/
theorem runFrom_createToken (accountId : Int) (lifetime : Duration) (scope : Scope)
    (progress : Progress) :
    (createToken accountId lifetime scope).statements.runFrom progress =
      match progress.moment.draws with
      | [] => (.error (.entropy "no random bytes"), progress)
      | draw :: _ =>
          if (progress.moment.now.plus lifetime).HasDate then
            let settled := progress.spent.used.settled (Service.storeToken draw progress.moment.now
              progress.tables accountId lifetime scope)
            (settled.1.map .issued, settled.2)
          else (.ok .brokenOff, progress.spent) := by
  simp only [statements, Workflow.createToken, Workflow.runFrom_bind, Workflow.runFrom_drawToken]
  cases progress.moment.draws with
  | nil => rfl
  | cons draw rest =>
      simp only [Workflow.runFrom_now, Progress.now_spent]
      by_cases hasDate : (progress.moment.now.plus lifetime).HasDate
      · simp only [if_pos hasDate, Workflow.runFrom_bind, Workflow.runFrom_change,
          Progress.tables_spent]
        cases Service.storeToken draw progress.moment.now progress.tables accountId lifetime
          scope <;> rfl
      · simp only [if_neg hasDate, Workflow.runFrom_pure]

/-- Creating a token leads to the storing of the one that is made.  It breaks off, and nothing is
stored, if the expiry has no date. -/
theorem leads_createToken (accountId : Int) (lifetime : Duration) (scope : Scope) :
    Leads scheme moment.now database (.createToken accountId lifetime scope)
      ((Action.createToken accountId lifetime scope).perform scheme moment database) := by
  have stage := (Progress.at_start moment database).used
  have runs := runFrom_createToken accountId lifetime scope (Progress.start moment database).used
  obtain ⟨now, draws⟩ := moment
  cases draws with
  | nil => exact leads_connected runs .failed
  | cons draw rest =>
      by_cases hasDate : (now.plus lifetime).HasDate
      · refine leads_of_settled stage.spent.used (runs.trans (if_pos hasDate)) ?_
        intro made after stored
        obtain ⟨isDrawn, inserted⟩ := Service.storeToken_eq_ok.1 stored
        obtain ⟨isFree, hasAccount, rfl⟩ := Tables.insertToken_eq_ok.1 inserted
        exact .createToken ⟨draw, isDrawn⟩ isFree hasAccount hasDate
      · exact leads_connected (runs.trans (if_neg hasDate)) (.done (.breakOff hasDate))

/-- **What an action leads to**: it fails and changes nothing, it succeeds with its effect, or it
closes the database. -/
theorem leads (scheme : PasswordScheme) (moment : Moment) (database : Database)
    (action : Action) :
    Leads scheme moment.now database action (action.perform scheme moment database) := by
  have stage := (Progress.at_start moment database).used
  cases action with
  | call asked => exact leads_call asked
  | close => exact .closed rfl
  | createAccount new =>
      refine leads_of_settled stage.used
        (Workflow.runFrom_bind_pure_of_eq (Workflow.runFrom_createAccount new _)) ?_
      intro account after created
      obtain ⟨isFree, rfl, rfl⟩ := Tables.createAccount_eq_ok.1 created
      exact .createAccount isFree
  | updateAccount changed =>
      refine leads_of_settled stage.used
        (Workflow.runFrom_bind_pure_of_eq (Workflow.runFrom_updateAccount changed _)) ?_
      intro written after updated
      obtain ⟨accepts, rfl, rfl⟩ := Tables.updateAccount_eq_ok.1 updated
      exact .updateAccount accepts
  | createToken accountId lifetime scope => exact leads_createToken accountId lifetime scope
  | insertToken made =>
      refine leads_of_settled stage.used
        (Workflow.runFrom_bind_pure_of_eq (Workflow.runFrom_change _ _)) ?_
      intro _ after stored
      obtain ⟨kept, inserted, same⟩ := Service.except_map_eq_ok.1 stored
      cases same
      obtain ⟨isFree, hasAccount, rfl⟩ := Tables.insertToken_eq_ok.1 inserted
      exact .insertToken isFree hasAccount
  | removeToken accountId scope =>
      refine leads_of_settled stage.used
        (Workflow.runFrom_bind_pure_of_eq (Workflow.runFrom_change _ _)) ?_
      intro count after removed
      cases removed
      exact .removeToken
  | purgeExpired =>
      refine leads_of_settled stage.used
        (Workflow.runFrom_bind_pure_of_eq (Workflow.runFrom_purgeExpired _)) ?_
      intro count after removed
      cases removed
      exact .purgeExpired
  | grant accountId permissions =>
      obtain ⟨uses, runs⟩ := runFrom_grant accountId permissions
        (Progress.start moment database).used
      have granting : ({ (Progress.start moment database).used with uses := uses } : Progress).At
          database moment.now none := ⟨rfl, rfl, rfl, rfl⟩
      refine leads_of_settled granting (Workflow.runFrom_bind_pure_of_eq runs) ?_
      intro _ after granted
      obtain ⟨kept, isGranted, same⟩ := Service.except_map_eq_ok.1 granted
      cases same
      exact .grant isGranted
  | accountById id =>
      refine leads_of_reading stage.used rfl ?_
      rintro answer ⟨⟩
      exact .accountById
  | accountNamed username =>
      refine leads_of_reading stage.used rfl ?_
      rintro answer ⟨⟩
      exact .accountNamed
  | accountAt email =>
      refine leads_of_reading stage.used rfl ?_
      rintro answer ⟨⟩
      exact .accountAt
  | accountByToken scope digest =>
      refine leads_of_reading stage.used rfl ?_
      rintro answer ⟨⟩
      exact .accountByToken
  | permissions accountId =>
      refine leads_of_reading stage.used rfl ?_
      rintro answer ⟨⟩
      exact .permissions
  | token accountId scope =>
      have runs : (Action.token accountId scope).statements.runFrom
          (Progress.start moment database).used =
          ((database.tables.token? accountId scope).map .token,
            (Progress.start moment database).used.used) := by
        simp only [statements, Workflow.runFrom_bind, Workflow.runFrom_look, Workflow.runFrom_lift,
          Progress.tables_used, Progress.tables_start]
        cases database.tables.token? accountId scope <;> rfl
      refine leads_of_reading stage.used runs ?_
      intro answer read
      obtain ⟨found, isRead, rfl⟩ := Service.except_map_eq_ok.1 read
      exact .token isRead

end Action

end Gatehouse
