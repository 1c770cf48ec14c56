import Gatehouse.Service.Outcome

/-!
# Workflows

A workflow is a call as it is carried out, statement by statement.  It reads what is committed, or
opens a transaction; from then on every statement sees and changes the tables as the transaction
has left them so far, and only `Workflow.commit` makes them the tables of the database.

A workflow that fails stops where it is, with all that its transaction has written until then.  The
outcome of a call keeps what was committed and drops a transaction that is still open
(`Outcome.ofWorkflow`).  Letters are queued and draws are used up as the workflow goes along.

The store itself may fail, or answer too late, whenever it is used: `Disturbances` says which uses
of it are disturbed, and `Outcome.ofWorkflowAmid` is the outcome of a call amid them.  Where there is
no word of disturbances, nothing goes wrong.
-/

namespace Gatehouse

set_option autoImplicit false

/-! ## Disturbances -/

/-- What goes wrong with a use of the store. -/
structure Disturbance where
  /-- What the store says of it, or that the answer has come too late. -/
  detail : String
  /-- Whether the store carries out all the same what it was asked for, as it may if only the answer
  has come too late. -/
  isCarriedOut : Bool
  deriving DecidableEq, Repr

/-- The fault of a use of the store that is disturbed. -/
def Disturbance.fault (disturbance : Disturbance) : Fault :=
  .storage disturbance.detail

/-- Which uses of the store go wrong in a call, told by how many uses came before. -/
abbrev Disturbances : Type :=
  Nat → Option Disturbance

/-- Nothing goes wrong. -/
def Disturbances.calm : Disturbances := fun _ => none

/-! ## Progress -/

/-- How far a call has come. -/
structure Progress where
  /-- The time, and the draws that are left. -/
  moment : Moment
  /-- What is committed. -/
  database : Database
  /-- The tables as the open transaction has left them, if one is open. -/
  work : Option Tables
  /-- What has been queued to be sent. -/
  letters : List Mail.Letter
  /-- How often the store has been used. -/
  uses : Nat

namespace Progress

/-- A call that is about to begin. -/
def start (moment : Moment) (database : Database) : Progress :=
  ⟨moment, database, none, [], 0⟩

/-- The tables as the next statement sees them. -/
def tables (progress : Progress) : Tables :=
  progress.work.getD progress.database.tables

/-- The call after a statement has written tables: into the open transaction, or straight into the
database if none is open. -/
def write (progress : Progress) (tables : Tables) : Progress :=
  match progress.work with
  | some _ => { progress with work := some tables }
  | none => { progress with database := { progress.database with tables := tables } }

/-- The call after its transaction has been committed. -/
def committed (progress : Progress) : Progress :=
  { progress with database := { progress.database with tables := progress.tables }, work := none }

/-- The call after a letter has been queued. -/
def queued (progress : Progress) (letter : Mail.Letter) : Progress :=
  { progress with letters := progress.letters ++ [letter] }

/-- The call after a draw has been used up. -/
def spent (progress : Progress) : Progress :=
  { progress with moment := progress.moment.spent }

/-- The call after the store has been used once more. -/
def used (progress : Progress) : Progress :=
  { progress with uses := progress.uses + 1 }

end Progress

/-- A call that is carried out in steps, each of which may fail. -/
abbrev Workflow (α : Type) : Type :=
  ReaderT Disturbances (ExceptT Fault (StateM Progress)) α

namespace Workflow

variable {α : Type}

/-- Carries a workflow on from where a call is, amid disturbances. -/
def runAmid (disturbances : Disturbances) (workflow : Workflow α) (progress : Progress) :
    Except Fault α × Progress :=
  (ExceptT.run (workflow.run disturbances)).run progress

/-- Carries a workflow on from where a call is. -/
def runFrom (workflow : Workflow α) (progress : Progress) : Except Fault α × Progress :=
  workflow.runAmid .calm progress

/-- Carries a workflow out for what it does, whatever it gives and whether or not it fails. -/
def attempt (workflow : Workflow α) : Workflow Unit :=
  tryCatch (do let _ ← workflow) fun _ => return ()

/-- Uses the store.  A use that is disturbed fails, whether or not the store carries it out. -/
def bounded (use : Workflow α) : Workflow α := do
  let progress ← get
  set progress.used
  match (← read) progress.uses with
  | none => use
  | some disturbance =>
      if disturbance.isCarriedOut then attempt use
      throw disturbance.fault

/-! ## Transactions -/

/-- Takes a connection, which a closed database does not give. -/
def connect : Workflow Unit :=
  bounded do
    let _ ← (← get).database.connect

/-- Begins to work on what is committed. -/
def opening : Workflow Unit := do
  let progress ← get
  let tables ← progress.database.connect
  set { progress with work := some tables }

/-- Opens a transaction. -/
def begin : Workflow Unit :=
  bounded opening

/-- Makes the tables of the open transaction those of the database.  If that fails, nothing of them
has been kept. -/
def commit : Workflow Unit := do
  let progress ← get
  match (← read) progress.uses with
  | none => set progress.used.committed
  | some disturbance =>
      set progress.used
      throw disturbance.fault

/-- Queues a letter. -/
def queue (letter : Mail.Letter) : Workflow Unit :=
  modify fun progress => progress.queued letter

/-! ## Statements -/

/-- The tables as a statement that reads sees them. -/
def look : Workflow Tables :=
  bounded do return (← get).tables

/-- The time of the call. -/
def now : Workflow Instant := do
  return (← get).moment.now

/-- Writes what a statement makes of the tables as it sees them; one that fails writes nothing. -/
def apply (statement : Tables → Except Fault (α × Tables)) : Workflow α := do
  let progress ← get
  let (value, tables) ← statement progress.tables
  set (progress.write tables)
  return value

/-- Runs a statement that writes. -/
def change (statement : Tables → Except Fault (α × Tables)) : Workflow α :=
  bounded (apply statement)

/-- The account that holds the token with a plaintext in a scope. -/
def holder (fault : Fault) (scope : Scope) (plaintext : String) : Workflow Account := do
  let now ← now
  let tables ← look
  Service.found fault (tables.accountByToken? scope (Token.digestOf plaintext) now)

/-- Creates an account. -/
def createAccount (new : NewAccount) : Workflow Account := do
  let now ← now
  change fun tables => tables.createAccount now new

/-- Writes a changed copy of an account back. -/
def updateAccount (changed : Account) : Workflow Account :=
  change fun tables => tables.updateAccount changed

/-- Grants permissions, one statement for each. -/
def grant (accountId : Int) : List Permission → Workflow Unit
  | [] => pure ()
  | permission :: rest => do
      change fun tables => (tables.grantOne accountId permission).map fun tables => ((), tables)
      grant accountId rest

/-- Removes the token of an account in a scope, and says how many tokens were removed. -/
def removeToken (accountId : Int) (scope : Scope) : Workflow Nat :=
  change fun tables => .ok (tables.removeToken accountId scope)

/-- Removes all tokens that are no longer good, and says how many there were. -/
def purgeExpired : Workflow Nat := do
  let now ← now
  change fun tables => .ok (tables.purgeExpired now)

/-- Takes a draw to make a token from. -/
def drawToken : Workflow Draw := do
  let progress ← get
  let (draw, later) ← progress.moment.drawToken
  set { progress with moment := later }
  return draw

/-- Makes a token and stores it.  The draw is used up even if the token cannot be stored. -/
def issue (accountId : Int) (lifetime : Duration) (scope : Scope) : Workflow IssuedToken := do
  let draw ← drawToken
  let now ← now
  change fun tables => Service.storeToken draw now tables accountId lifetime scope

/-- Makes a token that is good for any lifetime and stores it.  The call breaks off, and gives no
token, if the calendar has no date for the expiry. -/
def createToken (accountId : Int) (lifetime : Duration) (scope : Scope) :
    Workflow (Option IssuedToken) := do
  let draw ← drawToken
  let now ← now
  if (now.plus lifetime).HasDate then
    return some (← change fun tables => Service.storeToken draw now tables accountId lifetime scope)
  else return none

/-- Makes and stores a token of the usual lifetime.  If it conflicts with a stored one, the token
of the account in the scope gives way and the next draw is tried.  A usual lifetime leads out of the
calendar in its last week only, in which no call is made. -/
def mint (accountId : Int) (scope : Scope) : Workflow IssuedToken :=
  tryCatch (issue accountId scope.lifetime scope) fun fault => do
    if Service.isTokenConflict fault then
      let _ ← removeToken accountId scope
      issue accountId scope.lifetime scope
    else throw fault

/-- The text to store for a password. -/
def hashPassword (scheme : PasswordScheme) (password : String) : Workflow String := do
  let progress ← get
  let (stored, later) ← Service.hashPassword scheme progress.moment password
  set { progress with moment := later }
  return stored

end Workflow

/-- The outcome of a call amid disturbances: a transaction that is open at its end is rolled
back. -/
def Outcome.ofWorkflowAmid {α : Type} (disturbances : Disturbances) (moment : Moment)
    (database : Database) (workflow : Workflow α) : Outcome α :=
  let (result, progress) := workflow.runAmid disturbances (.start moment database)
  ⟨result, progress.database, progress.letters⟩

/-- The outcome of a call. -/
def Outcome.ofWorkflow {α : Type} (moment : Moment) (database : Database)
    (workflow : Workflow α) : Outcome α :=
  let (result, progress) := workflow.runFrom (.start moment database)
  ⟨result, progress.database, progress.letters⟩

end Gatehouse
