import Gatehouse.Service.Call

/-!
# Histories

A history is what has been asked of the service and of its store, one event after the other.  An
event keeps the moment and the database at which it took place; what it led to follows from them
(`Event.outcome`).

Nothing goes wrong with the store in a history, since calls that it disturbs leave no trace
(`Service.disturbed_calls_leave_no_trace`).

The readers of an event say what it handed out (`Event.minted`, `Event.copies`), whose account it
was about (`Call.subject?`), and what it ended or changed (`Event.Retires`,
`Event.ChangesAddress`).  A run is a history that begins with a fresh database and in which every
event finds the database as the one before it has left it.  Which actions may take place can be
made to depend on what has happened before.
-/

namespace Gatehouse

set_option autoImplicit false

/-! ## Actions -/

/-- What the service and its store can be asked for.  All but the calls of the service are single
uses of the store, each on a connection of its own. -/
inductive Action where
  /-- A call of the service. -/
  | call (call : Service.Call)
  | createAccount (new : NewAccount)
  | accountById (id : Int)
  | accountNamed (username : String)
  | accountAt (email : String)
  | accountByToken (scope : Scope) (digest : List UInt8)
  /-- Writing a changed copy of an account back. -/
  | updateAccount (changed : Account)
  /-- Making a token from a draw and storing it. -/
  | createToken (accountId : Int) (lifetime : Duration) (scope : Scope)
  | insertToken (token : Token)
  | token (accountId : Int) (scope : Scope)
  | removeToken (accountId : Int) (scope : Scope)
  | purgeExpired
  | grant (accountId : Int) (permissions : List Permission)
  | permissions (accountId : Int)
  /-- Closing the database. -/
  | close
  deriving DecidableEq, Repr

/-- What an action is answered with. -/
inductive Answer where
  /-- The reply of the service to a call. -/
  | reply (reply : Service.Reply)
  | account (account : Account)
  | lookup (account : Option Account)
  | issued (token : IssuedToken)
  | token (token : Option Token)
  | removed (count : Nat)
  | permissions (permissions : Permissions)
  | done
  /-- No answer, since the action has broken off. -/
  | brokenOff
  deriving DecidableEq, Repr

/-- Uses the store on a connection of its own. -/
def Workflow.connected {α : Type} (statement : Workflow α) : Workflow α := do
  connect
  statement

namespace Action

/-- The statements of an action that uses the store. -/
def statements : Action → Workflow Answer
  | .createAccount new => do return .account (← Workflow.createAccount new)
  | .accountById id => do return .lookup ((← Workflow.look).account? id)
  | .accountNamed username => do return .lookup ((← Workflow.look).accountNamed? username)
  | .accountAt email => do return .lookup ((← Workflow.look).accountAt? email)
  | .accountByToken scope digest => do
      let now ← Workflow.now
      return .lookup ((← Workflow.look).accountByToken? scope digest now)
  | .updateAccount changed => do return .account (← Workflow.updateAccount changed)
  | .createToken accountId lifetime scope => do
      match ← Workflow.createToken accountId lifetime scope with
      | some made => return .issued made
      | none => return .brokenOff
  | .insertToken made => do
      Workflow.change fun tables => (tables.insertToken made).map fun tables => ((), tables)
      return .done
  | .token accountId scope => do return .token (← (← Workflow.look).token? accountId scope)
  | .removeToken accountId scope => do
      return .removed (← Workflow.removeToken accountId scope)
  | .purgeExpired => do return .removed (← Workflow.purgeExpired)
  | .grant accountId granted => do
      Workflow.grant accountId granted
      return .done
  | .permissions accountId => do
      return .permissions ((← Workflow.look).permissionsOf accountId)
  | .call _ | .close => return .done

/-- Carries out an action. -/
def perform (scheme : PasswordScheme) (moment : Moment) (database : Database) :
    Action → Outcome Answer
  | .call asked => (Service.perform scheme moment database asked).map .reply
  | .close => ⟨.ok .done, database.close, []⟩
  | action => .ofWorkflow moment database (Workflow.connected action.statements)

end Action

/-! ## What an answer hands out -/

/-- The tokens that a reply hands out. -/
def Service.Reply.tokens : Reply → List IssuedToken
  | .registration made => [made.activationToken]
  | .session begun => [begun.access, begun.refresh]
  | .token made => [made]
  | .update made => made.activationToken.toList
  | _ => []

/-- The copies of accounts that a reply hands out. -/
def Service.Reply.copies : Reply → List Account
  | .registration made => [made.account]
  | .account copy => [copy]
  | .update made => [made.account]
  | _ => []

namespace Answer

/-- The tokens that an answer hands out. -/
def tokens : Answer → List IssuedToken
  | .reply given => given.tokens
  | .issued made => [made]
  | _ => []

/-- The copies of accounts that an answer hands out. -/
def copies : Answer → List Account
  | .reply given => given.copies
  | .account copy => [copy]
  | .lookup found => found.toList
  | _ => []

end Answer

/-! ## What a call is about -/

namespace Service.Call

/-- The id of the account that a call acts for: the owner of the token that is presented, the
account with the name or the address given, or the account of the caller.  A registration acts for
the account that is created next. -/
def subject? (now : Instant) (tables : Tables) : Call → Option Int
  | .register _ _ _ => some (tables.lastAccountId + 1)
  | .activate token => ownerId? .activation token
  | .login username _ => (tables.accountNamed? username).map Account.id
  | .refresh token => ownerId? .refresh token
  | .requestPasswordReset email => (tables.accountAt? email).map Account.id
  | .updatePassword token _ => ownerId? .passwordReset token
  | .authenticate token => ownerId? .access token
  | .logout identity | .updateAccount identity _ _ _ | .getAccount identity _
  | .requirePermissions identity _ | .sessionExpiry identity => identity.account?.map Account.id
where
  /-- The id of the account that holds the token with a plaintext in a scope. -/
  ownerId? (scope : Scope) (plaintext : String) : Option Int :=
    (tables.accountByToken? scope (Token.digestOf plaintext) now).map Account.id

/-- The plaintext of the token that a call presents. -/
def presented? : Call → Option String
  | .activate token | .refresh token | .updatePassword token _ | .authenticate token => some token
  | _ => none

/-- Whether a call, if it succeeds, writes a change of the account that it acts for. -/
def changesAccount : Call → Bool
  | .activate _ | .updatePassword _ _ | .updateAccount _ _ _ _ => true
  | _ => false

/-- Whether a call, if it succeeds, ends the token that the account it acts for has in a scope.
Whoever logs in, refreshes a session or logs out ends the session before.  An activation ends the
activation token, and so does a change of the account that changes its address.  The request for a
reset token and the setting of a password end the reset token. -/
def Ends (changesAddress : Prop) (scope : Scope) : Call → Prop
  | .login _ _ | .refresh _ | .logout _ => scope = .access ∨ scope = .refresh
  | .activate _ => scope = .activation
  | .updateAccount _ _ _ _ => changesAddress ∧ scope = .activation
  | .requestPasswordReset _ | .updatePassword _ _ => scope = .passwordReset
  | _ => False

/-- The identity with which a call is made. -/
def identity : Call → Identity
  | .logout identity | .updateAccount identity _ _ _ | .getAccount identity _
  | .requirePermissions identity _ | .sessionExpiry identity => identity
  | _ => .anonymous

end Service.Call

/-- Whether the stored address of an account differs between two states of the store in more than
case. -/
def Tables.ChangesAddress (before after : Tables) (accountId : Int) : Prop :=
  ∃ former latter, before.account? accountId = some former ∧
    after.account? accountId = some latter ∧
      Service.sameUpToCase former.email latter.email = false

/-! ## Events -/

/-- Something that was asked for, with the moment and the database at which it took place. -/
structure Event (scheme : PasswordScheme) where
  moment : Moment
  action : Action
  /-- The database as the event finds it. -/
  before : Database

namespace Event

variable {scheme : PasswordScheme}

/-- What an event led to. -/
def outcome (event : Event scheme) : Outcome Answer :=
  event.action.perform scheme event.moment event.before

/-- The database as the event leaves it. -/
def after (event : Event scheme) : Database :=
  event.outcome.database

/-- What an event was answered with, unless it failed. -/
def answer? (event : Event scheme) : Option Answer :=
  event.outcome.result.toOption

/-- The tokens that an event has made and handed out. -/
def minted (event : Event scheme) : List IssuedToken :=
  (event.answer?.map Answer.tokens).getD []

/-- The copies of accounts that an event has handed out.  Writing a copy back hands it out with
its new version. -/
def copies (event : Event scheme) : List Account :=
  (event.answer?.map Answer.copies).getD []

/-- Whether an event has written a copy of an account back to an open database, or has tried to,
with a result, and has left a copy to the caller. -/
def Leaves (event : Event scheme) (result : Except Fault Unit) (left : Account) : Prop :=
  event.before.isOpen = true ∧ ∃ changed after, event.action = .updateAccount changed ∧
    event.before.tables.writeBack changed = (result, left, after)

/-- Whether an event is a call that succeeded and acted for an account. -/
def Served (event : Event scheme) (call : Service.Call) (accountId : Int) : Prop :=
  event.action = .call call ∧ event.answer?.isSome = true ∧
    call.subject? event.moment.now event.before.tables = some accountId

/-- Whether an event has changed the stored address of an account in more than case. -/
def ChangesAddress (event : Event scheme) (accountId : Int) : Prop :=
  event.before.tables.ChangesAddress event.after.tables accountId

/-- Whether an event has ended the token that an account had in a scope. -/
def Retires (event : Event scheme) (accountId : Int) (scope : Scope) : Prop :=
  ∃ call, event.Served call accountId ∧ call.Ends (event.ChangesAddress accountId) scope

/-- Whether an event has queued a letter that asks an address to activate an account with a
token. -/
def MailsActivation (event : Event scheme) (recipient token : String) : Prop :=
  ⟨recipient, .activation, Mail.activationValues token⟩ ∈ event.outcome.letters

/-- The id of the account that an event has created, if it has. -/
def created? (event : Event scheme) : Option Int :=
  match event.action, event.answer? with
  | .createAccount _, some (.account made) => some made.id
  | .call (.register _ _ _), some (.reply (.registration made)) => some made.account.id
  | _, _ => none

/-- The id of the account that an event has written a change of, if it has. -/
def updated? (event : Event scheme) : Option Int :=
  match event.action, event.answer? with
  | .updateAccount changed, some _ => some changed.id
  | .call call, some _ =>
      if call.changesAccount then call.subject? event.moment.now event.before.tables else none
  | _, _ => none

end Event

/-! ## Histories -/

/-- What has taken place, the first event first. -/
abbrev History (scheme : PasswordScheme) : Type :=
  List (Event scheme)

/-- Whether no two of some plaintexts have the same digest. -/
def Token.Separates (plaintexts : List String) : Prop :=
  ∀ former ∈ plaintexts, ∀ latter ∈ plaintexts, digestOf former = digestOf latter → former = latter

namespace History

variable {scheme : PasswordScheme}

/-- The plaintexts of the tokens that a history has handed out. -/
def minted (past : History scheme) : List String :=
  past.flatMap fun event => event.minted.map IssuedToken.plaintext

/-- The plaintexts that the calls of a history have presented. -/
def presented (past : History scheme) : List String :=
  past.filterMap fun event =>
    match event.action with
    | .call call => call.presented?
    | _ => none

/-- The plaintexts that a history has to do with. -/
def plaintexts (past : History scheme) : List String :=
  past.presented ++ past.minted

/-- Whether an account is a copy that has been handed out. -/
def Knows (past : History scheme) (account : Account) : Prop :=
  ∃ event ∈ past, account ∈ event.copies

/-- Whether an account is a copy that writing back has left to the caller, without finding that its
name or its address is taken. -/
def Leaves (past : History scheme) (account : Account) : Prop :=
  ∃ event ∈ past, ∃ result, event.Leaves result account ∧
    ∀ field message, result ≠ .error (.conflict field message)

/-- Whether an account differs from a copy that has been handed out at most in its name, address,
password and activation. -/
def KnowsOrigin (past : History scheme) (account : Account) : Prop :=
  ∃ copy, past.Knows copy ∧ account.id = copy.id ∧ account.createdAt = copy.createdAt ∧
    account.version = copy.version

/-- Whether something has occurred, as told by an event and what came before it, and no event since
then has ended it. -/
def Since (occurs : History scheme → Event scheme → Prop) (ends : Event scheme → Prop)
    (past : History scheme) : Prop :=
  ∃ earlier event later, past = earlier ++ event :: later ∧ occurs earlier event ∧
    ∀ next ∈ later, ¬ends next

/-- Whether a token has been handed out, and no event since then has ended it. -/
def Keeps (past : History scheme) (issued : IssuedToken) : Prop :=
  past.Since (fun _ event => issued ∈ event.minted)
    fun event => event.Retires issued.token.accountId issued.token.scope

/-- The ids of the accounts that a history has created, in order. -/
def created (past : History scheme) : List Int :=
  past.filterMap Event.created?

/-- How often the row of an account has been changed. -/
def updates (past : History scheme) (accountId : Int) : Nat :=
  past.countP fun event => event.updated? == some accountId

/-! ## What may take place -/

/-- Calls of the service only, made by nobody in particular or by the holder of an account that has
been handed out. -/
def AdmitsCalls (past : History scheme) : Action → Prop
  | .call call => ∀ account, call.identity = .known account → past.Knows account
  | _ => False

/-- Calls of the service as above, and the removal of the tokens that are no longer good. -/
def AdmitsCallsAndPurges (past : History scheme) : Action → Prop
  | .purgeExpired => True
  | action => past.AdmitsCalls action

/-- Any action with any arguments, except that who asks to be told apart by permissions is a copy
that has been handed out. -/
def AdmitsUses (past : History scheme) : Action → Prop
  | .call (.requirePermissions identity _) =>
      ∀ account, identity = .known account → past.Knows account
  | _ => True

/-- Any action, as long as what is written back comes from a copy that has been handed out, and who
asks to be told apart by permissions is such a copy. -/
def AdmitsEdits (past : History scheme) : Action → Prop
  | .updateAccount changed => past.KnowsOrigin changed
  | .call (.updateAccount identity _ _ _) =>
      ∀ account, identity = .known account → past.KnowsOrigin account
  | .call (.requirePermissions identity _) =>
      ∀ account, identity = .known account → past.Knows account
  | _ => True

/-- Any action with any arguments but closing the database. -/
def AdmitsAllButClosing (_ : History scheme) (action : Action) : Prop :=
  action ≠ .close

end History

/-! ## Runs -/

/-- A history from a fresh database, with the database that it leads to. -/
inductive Run (scheme : PasswordScheme) (admits : History scheme → Action → Prop) :
    History scheme → Database → Prop
  | start : Run scheme admits [] .fresh
  | step {past : History scheme} {database : Database} (run : Run scheme admits past database)
      (moment : Moment) (action : Action) (admitted : admits past action) :
      Run scheme admits (past ++ [⟨moment, action, database⟩])
        (⟨moment, action, database⟩ : Event scheme).after

end Gatehouse
