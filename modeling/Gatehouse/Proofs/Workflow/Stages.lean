import Gatehouse.Proofs.Store.Writes
import Gatehouse.Proofs.Workflow.Steps
import Gatehouse.Service.Call

/-!
# Stages of a call

What a step that succeeds tells about the stage that a call has come to.  `Progress.At` keeps track
of what is committed, of the tables of the transaction that is open, and of the time, for as long as
no letter is queued.  Each step of a workflow takes a stage to the next one, so that a workflow that
succeeds is read as a chain of stages.
-/

namespace Gatehouse

set_option autoImplicit false

/-! ## Results that are there -/

theorem Service.except_bind_eq_ok {ε α β : Type} {result : Except ε α} {next : α → Except ε β}
    {value : β} :
    (result >>= next) = .ok value ↔ ∃ first, result = .ok first ∧ next first = .ok value := by
  cases result <;> simp [bind, Except.bind]

theorem Service.except_map_eq_ok {α β : Type} {result : Except Fault α} {form : α → β} {value : β} :
    result.map form = .ok value ↔ ∃ first, result = .ok first ∧ form first = value := by
  cases result <;> simp [Except.map]

theorem Service.except_map_eq_error {α β : Type} {result : Except Fault α} {form : α → β}
    {fault : Fault} : result.map form = .error fault ↔ result = .error fault := by
  cases result <;> simp [Except.map]

theorem Service.accept_eq_ok {report : Validation.Report} :
    Service.accept report = .ok () ↔ report.isAcceptable = true := by
  unfold Service.accept
  cases report.isAcceptable <;> simp

theorem Service.found_eq_ok {α : Type} {fault : Fault} {value : α} {search : Option α} :
    Service.found fault search = .ok value ↔ search = some value := by
  cases search <;> simp [Service.found]

theorem Database.connect_eq_ok {database : Database} {tables : Tables} :
    database.connect = .ok tables ↔ database.isOpen = true ∧ tables = database.tables := by
  unfold Database.connect
  cases database.isOpen <;> simp [eq_comm]

theorem Identity.require_eq_ok {identity : Identity} {account : Account} :
    identity.require = .ok account ↔ identity = .known account := by
  cases identity <;> simp [Identity.require]

theorem Identity.owner_eq_ok {identity : Identity} {username : String} {account : Account} :
    identity.owner username = .ok account ↔
      identity = .known account ∧ account.username = username := by
  cases identity with
  | anonymous => simp [Identity.owner, Identity.require]
  | known caller =>
      simp only [Identity.owner, Identity.require, Identity.known.injEq]
      constructor
      · intro done
        split at done
        · cases done
          exact ⟨rfl, by simp_all⟩
        · cases done
      · rintro ⟨rfl, rfl⟩
        simp

theorem Service.hashPassword_eq_ok {scheme : PasswordScheme} {moment later : Moment}
    {password stored : String}
    (done : Service.hashPassword scheme moment password = .ok (stored, later)) :
    (∃ salt, scheme.hash password salt = .ok stored) ∧ later = moment.spent := by
  obtain ⟨now, draws⟩ := moment
  cases draws with
  | nil => cases done
  | cons salt rest =>
      simp only [Service.hashPassword, Moment.drawSalt, bind, Except.bind] at done
      cases hashed : scheme.hash password salt with
      | error fault =>
          rw [hashed] at done
          cases done
      | ok text =>
          rw [hashed] at done
          cases done
          exact ⟨⟨salt, hashed⟩, rfl⟩

theorem Service.storeToken_eq_ok {draw : Draw} {now : Instant} {tables after : Tables}
    {accountId : Int} {lifetime : Duration} {scope : Scope} {issued : IssuedToken} :
    Service.storeToken draw now tables accountId lifetime scope = .ok (issued, after) ↔
      issued = .ofDraw draw now accountId lifetime scope ∧
        tables.insertToken issued.token = .ok after := by
  rw [Service.storeToken, Service.except_map_eq_ok]
  constructor
  · rintro ⟨stored, inserted, same⟩
    cases same
    exact ⟨rfl, inserted⟩
  · rintro ⟨rfl, inserted⟩
    exact ⟨after, inserted, rfl⟩

/-! ## Stages of a call -/

/-- How far a call has come that has queued no letter: what is committed, the time, and the tables
of the transaction that is open, if one is. -/
structure Progress.At (progress : Progress) (database : Database) (now : Instant)
    (work : Option Tables) : Prop where
  database : progress.database = database
  now : progress.moment.now = now
  work : progress.work = work
  letters : progress.letters = []

theorem Progress.at_start (moment : Moment) (database : Database) :
    (Progress.start moment database).At database moment.now none :=
  ⟨rfl, rfl, rfl, rfl⟩

namespace Progress.At

variable {progress last : Progress} {database : Database} {now : Instant} {tables : Tables}

theorem tables_eq (stage : progress.At database now (some tables)) :
    progress.tables = tables := by
  rw [Progress.tables, stage.work]
  rfl

theorem used {work : Option Tables} (stage : progress.At database now work) :
    progress.used.At database now work :=
  ⟨stage.database, stage.now, stage.work, stage.letters⟩

theorem spent {work : Option Tables} (stage : progress.At database now work) :
    progress.spent.At database now work :=
  ⟨stage.database, stage.now, stage.work, stage.letters⟩

theorem connect (stage : progress.At database now none)
    (done : Workflow.connect.runFrom progress = (.ok (), last)) :
    database.isOpen = true ∧ last.At database now none := by
  rw [Workflow.runFrom_connect, stage.database] at done
  obtain ⟨connected, same⟩ := Prod.mk.injEq .. ▸ done
  obtain ⟨tables, isRead, -⟩ := Service.except_map_eq_ok.1 connected
  exact ⟨(Database.connect_eq_ok.1 isRead).1, same ▸ stage.used⟩

theorem look {work : Option Tables} (stage : progress.At database now work)
    (done : Workflow.look.runFrom progress = (.ok tables, last)) :
    tables = work.getD database.tables ∧ last.At database now work := by
  rw [Workflow.runFrom_look] at done
  cases done
  refine ⟨?_, stage.used⟩
  rw [Progress.tables, stage.work, stage.database]

theorem begin (stage : progress.At database now none)
    (done : Workflow.begin.runFrom progress = (.ok (), last)) :
    database.isOpen = true ∧ last.At database now (some database.tables) := by
  rw [Workflow.runFrom_begin, stage.database] at done
  cases connected : database.connect with
  | error fault =>
      rw [connected] at done
      cases done
  | ok read =>
      rw [connected] at done
      obtain ⟨isOpen, rfl⟩ := Database.connect_eq_ok.1 connected
      cases done
      exact ⟨isOpen, stage.database, stage.now, rfl, stage.letters⟩

theorem commit (stage : progress.At database now (some tables)) :
    progress.used.committed.At { database with tables := tables } now none := by
  refine ⟨?_, stage.now, rfl, stage.letters⟩
  rw [Progress.committed, stage.used.tables_eq, Progress.database_used, stage.database]

theorem queued {work : Option Tables} (stage : progress.At database now work)
    (letter : Mail.Letter) : (progress.queued letter).letters = [letter] := by
  rw [Progress.queued, stage.letters]
  rfl

theorem write (stage : progress.At database now (some tables)) (after : Tables) :
    (progress.write after).At database now (some after) := by
  unfold Progress.write
  rw [stage.work]
  exact ⟨stage.database, stage.now, rfl, stage.letters⟩

/-- A statement that succeeds gives tables with which the transaction goes on. -/
theorem settled {α : Type} {value : α} {result : Except Fault (α × Tables)}
    (stage : progress.At database now (some tables))
    (done : progress.used.settled result = (.ok value, last)) :
    ∃ after, result = .ok (value, after) ∧ last.At database now (some after) := by
  cases result with
  | error fault => cases done
  | ok written =>
      cases done
      exact ⟨written.2, rfl, stage.used.write written.2⟩

theorem holder {fault : Fault} {scope : Scope} {plaintext : String} {account : Account}
    {work : Option Tables} (stage : progress.At database now work)
    (done : (Workflow.holder fault scope plaintext).runFrom progress = (.ok account, last)) :
    (work.getD database.tables).accountByToken? scope (Token.digestOf plaintext) now =
      some account ∧ last.At database now work := by
  have seen : progress.tables = work.getD database.tables := by
    rw [Progress.tables, stage.work, stage.database]
  rw [Workflow.runFrom_holder, stage.now, seen] at done
  obtain ⟨isFound, same⟩ := Prod.mk.injEq .. ▸ done
  exact ⟨Service.found_eq_ok.1 isFound, same ▸ stage.used⟩

theorem createAccount {new : NewAccount} {account : Account}
    (stage : progress.At database now (some tables))
    (done : (Workflow.createAccount new).runFrom progress = (.ok account, last)) :
    Tables.takenFault? tables.accounts new.username new.email = none ∧
      account = tables.nextAccount now new ∧
        last.At database now (some (tables.withAccount account)) := by
  rw [Workflow.runFrom_createAccount, stage.tables_eq, stage.now] at done
  obtain ⟨after, created, onward⟩ := stage.settled done
  obtain ⟨isFree, isNext, rfl⟩ := Tables.createAccount_eq_ok.1 created
  exact ⟨isFree, isNext, onward⟩

theorem updateAccount {changed written : Account}
    (stage : progress.At database now (some tables))
    (done : (Workflow.updateAccount changed).runFrom progress = (.ok written, last)) :
    tables.Accepts changed ∧ written = Tables.advanced changed ∧
      last.At database now (some (tables.withChange changed)) := by
  rw [Workflow.runFrom_updateAccount, stage.tables_eq] at done
  obtain ⟨after, updated, onward⟩ := stage.settled done
  obtain ⟨accepts, isNext, rfl⟩ := Tables.updateAccount_eq_ok.1 updated
  exact ⟨accepts, isNext, onward⟩

theorem grant {accountId : Int} {permission : Permission}
    (stage : progress.At database now (some tables))
    (done : (Workflow.grant accountId [permission]).runFrom progress = (.ok (), last)) :
    last.At database now (some (tables.granted accountId permission)) := by
  obtain ⟨_, between, first, rest⟩ := Workflow.runFrom_bind_eq_ok.1 done
  cases rest
  rw [Workflow.runFrom_change, stage.tables_eq] at first
  obtain ⟨after, isGranted, onward⟩ := stage.settled first
  cases written : tables.grantOne accountId permission with
  | error fault =>
      rw [written] at isGranted
      cases isGranted
  | ok granted =>
      rw [written] at isGranted
      cases isGranted
      rw [← Tables.eq_granted_of_grantOne written]
      exact onward

theorem removeToken {accountId : Int} {scope : Scope} {count : Nat}
    (stage : progress.At database now (some tables))
    (done : (Workflow.removeToken accountId scope).runFrom progress = (.ok count, last)) :
    last.At database now (some (tables.withoutToken accountId scope)) := by
  rw [Workflow.runFrom_removeToken, stage.tables_eq] at done
  cases done
  exact stage.used.write _

theorem issue {accountId : Int} {lifetime : Duration} {scope : Scope} {issued : IssuedToken}
    (stage : progress.At database now (some tables))
    (done : (Workflow.issue accountId lifetime scope).runFrom progress = (.ok issued, last)) :
    (∃ draw, issued = .ofDraw draw now accountId lifetime scope) ∧
      tables.tokenIsTaken (Tables.rowOfToken issued.token) = false ∧
        tables.hasAccount issued.token.accountId = true ∧
          last.At database now (some (tables.withTokenRow (Tables.rowOfToken issued.token))) := by
  rw [Workflow.runFrom_issue, stage.tables_eq, stage.now] at done
  cases draws : progress.moment.draws with
  | nil =>
      rw [draws] at done
      cases done
  | cons draw rest =>
      rw [draws] at done
      obtain ⟨after, stored, onward⟩ := stage.spent.settled done
      obtain ⟨isDrawn, inserted⟩ := Service.storeToken_eq_ok.1 stored
      obtain ⟨isFree, hasAccount, isRow⟩ := Tables.insertToken_eq_ok.1 inserted
      exact ⟨⟨draw, isDrawn⟩, isFree, hasAccount, isRow ▸ onward⟩

theorem issue_of_error {accountId : Int} {lifetime : Duration} {scope : Scope} {fault : Fault}
    (stage : progress.At database now (some tables))
    (failed : (Workflow.issue accountId lifetime scope).runFrom progress = (.error fault, last)) :
    last.At database now (some tables) := by
  rw [Workflow.runFrom_issue] at failed
  cases draws : progress.moment.draws with
  | nil =>
      rw [draws] at failed
      cases failed
      exact stage
  | cons draw rest =>
      rw [draws] at failed
      dsimp only at failed
      generalize Service.storeToken _ _ _ _ _ _ = made at failed
      cases made with
      | error other =>
          cases failed
          exact stage.spent.used
      | ok kept => cases failed

/-- A token that has been made once the place for it is free. -/
theorem mints_of_issue {accountId : Int} {scope : Scope} {issued : IssuedToken}
    (stage : progress.At database now (some (tables.withoutToken accountId scope)))
    (done : (Workflow.issue accountId scope.lifetime scope).runFrom progress =
      (.ok issued, last)) :
    tables.Mints now accountId scope issued ∧
      last.At database now (some (tables.withToken issued)) := by
  obtain ⟨⟨draw, rfl⟩, isFree, hasAccount, onward⟩ := stage.issue done
  refine ⟨⟨⟨draw, rfl⟩, fun row member => ?_, hasAccount⟩, onward⟩
  exact (Tables.tokenIsTaken_eq_false.1 isFree row member).1

/-- Either way a token is minted in, it ends up in the place of the one that was there: at the
first try there was none, and at the second one it has given way. -/
theorem mint {accountId : Int} {scope : Scope} {issued : IssuedToken}
    (stage : progress.At database now (some tables))
    (done : (Workflow.mint accountId scope).runFrom progress = (.ok issued, last)) :
    tables.Mints now accountId scope issued ∧
      last.At database now (some (tables.withToken issued)) := by
  rw [Workflow.mint, Workflow.runFrom_tryCatch] at done
  cases first : (Workflow.issue accountId scope.lifetime scope).runFrom progress with
  | mk result between =>
      rw [first] at done
      cases result with
      | ok made =>
          cases done
          obtain ⟨⟨draw, rfl⟩, isFree, -⟩ := stage.issue first
          have isEmpty : tables.withoutToken accountId scope = tables :=
            Tables.withoutToken_eq_self fun row member =>
              (Tables.tokenIsTaken_eq_false.1 isFree row member).2
          exact mints_of_issue (isEmpty.symm ▸ stage) first
      | error fault =>
          have again : between.At database now (some tables) := stage.issue_of_error first
          simp only at done
          split at done
          · obtain ⟨count, cleared, removed, second⟩ := Workflow.runFrom_bind_eq_ok.1 done
            exact mints_of_issue (again.removeToken removed) second
          · cases done

theorem hashPassword {scheme : PasswordScheme} {password stored : String} {work : Option Tables}
    (stage : progress.At database now work)
    (done : (Workflow.hashPassword scheme password).runFrom progress = (.ok stored, last)) :
    (∃ salt, scheme.hash password salt = .ok stored) ∧ last.At database now work := by
  rw [Workflow.runFrom_hashPassword] at done
  cases hashed : Service.hashPassword scheme progress.moment password with
  | error fault =>
      rw [hashed] at done
      cases done
  | ok made =>
      rw [hashed] at done
      cases done
      obtain ⟨isHashed, isLater⟩ := Service.hashPassword_eq_ok hashed
      have sameTime : made.2.now = progress.moment.now := by
        rw [isLater]
        rfl
      exact ⟨isHashed, stage.database, sameTime.trans stage.now, stage.work, stage.letters⟩

end Progress.At

end Gatehouse
