import Gatehouse.Mail.Mailer
import Gatehouse.Service.History
import Gatehouse.Tasks

/-!
# The service with its mailer

A letter is handed to a mailer in the background.  What has queued the letter has come to its end by
then, and a task of its own hands the letter over.  The mailer may send it, report a fault or break
off; each of these ends the task.

An office is the service with the tasks that hand its letters over.  Whatever is asked of it, it
waits for these tasks before the next is asked.
-/

namespace Gatehouse

set_option autoImplicit false

/-! ## Mailers as the service knows them -/

namespace Mail

/-- What comes of handing a letter to a mailer. -/
inductive Delivery where
  | sent
  | failed (fault : Fault)
  | brokenOff

/-- How the task ends that hands a letter over. -/
def Delivery.ending : Delivery → TaskEnding
  | .sent => .succeeds
  | .failed _ => .fails
  | .brokenOff => .breaksOff

/-- What a mailer does with a letter, which may depend on those that it was handed before. -/
abbrev Carrier : Type := List Letter → Letter → Delivery

/-- The mailer for a service without a relay fills the template of a letter, to log it, and sends
nothing. -/
def Carrier.logging : Carrier := fun _ letter =>
  match letter.template.fillWith letter.values with
  | .error fault => .failed fault
  | .ok _ => .sent

end Mail

/-! ## Offices -/

/-- The service with the tasks that hand its letters over. -/
structure Office where
  database : Database
  tasks : Tasks Mail.Letter
  /-- What has been answered so far, each with the database as it then was. -/
  records : List (Except Fault Answer × Database)

namespace Office

/-- An office that nothing has been asked of. -/
def opened : Office := ⟨.fresh, .empty, []⟩

/-- Spawns the task that hands a letter over. -/
def dispatch (carrier : Mail.Carrier) (tasks : Tasks Mail.Letter) (letter : Mail.Letter) :
    Tasks Mail.Letter :=
  let earlier := tasks.ran ++ tasks.waiting.map Task.id
  tasks.spawn ⟨letter, (carrier earlier letter).ending⟩

/-- Carries out an action, has its letters handed over and waits until that has come to an end.
There is no result if it does not. -/
def attend? (scheme : PasswordScheme) (carrier : Mail.Carrier) (office : Office)
    (asked : Moment × Action) : Option Office := do
  let outcome := asked.2.perform scheme asked.1 office.database
  let tasks ← (outcome.letters.foldl (dispatch carrier) office.tasks).drain?
  return ⟨outcome.database, tasks, office.records ++ [(outcome.result, outcome.database)]⟩

/-- Carries out actions one after the other. -/
def run? (scheme : PasswordScheme) (carrier : Mail.Carrier) (office : Office)
    (asked : List (Moment × Action)) : Option Office :=
  asked.foldlM (attend? scheme carrier) office

end Office

/-! ## What a history shows -/

namespace History

variable {scheme : PasswordScheme}

/-- What has been asked for, and when. -/
def asked (past : History scheme) : List (Moment × Action) :=
  past.map fun event => (event.moment, event.action)

/-- What has been answered, each with the database as it then was. -/
def records (past : History scheme) : List (Except Fault Answer × Database) :=
  past.map fun event => (event.outcome.result, event.after)

/-- The letters that have been queued. -/
def letters (past : History scheme) : List Mail.Letter :=
  past.flatMap fun event => event.outcome.letters

end History

/-! ## Letters that are due -/

/-- The scope of the token that the letters of a template tell. -/
def Mail.Template.scope : Template → Scope
  | .activation => .activation
  | .passwordReset => .passwordReset

/-- Whether a letter of a template goes to an address and tells a token.  The letter with which a
password is reset tells the address too, and a letter tells nothing else. -/
inductive Mail.Letter.Tells (address token : String) : Template → Letter → Prop
  | activation {values : Values} (tellsToken : values.get? "activationToken" = some token)
      (noOther : ∀ name, name ≠ "activationToken" → values.get? name = none) :
      Tells address token .activation ⟨address, .activation, values⟩
  | passwordReset {values : Values} (tellsToken : values.get? "resetPasswordToken" = some token)
      (tellsAddress : values.get? "email" = some address)
      (noOther : ∀ name, name ≠ "resetPasswordToken" → name ≠ "email" → values.get? name = none) :
      Tells address token .passwordReset ⟨address, .passwordReset, values⟩

/-- The template of the letter that a call sends if it succeeds, if it sends one.  A change of an
account sends one only if the address that it asks for differs in more than case from the one that
the caller has. -/
def Service.Call.template? : Call → Option Mail.Template
  | .register _ _ _ => some .activation
  | .requestPasswordReset _ => some .passwordReset
  | .updateAccount (.known caller) _ email _ =>
      if isNewAddress caller email then some .activation else none
  | _ => none

/-- Whether some letters are one letter of a template, sent to the address that is stored for an
account, with a token that is stored, by its digest, as the only one of the account in its scope. -/
def Tables.BearOut (tables : Tables) (id : Int) (template : Mail.Template)
    (letters : List Mail.Letter) : Prop :=
  ∃ stored row token letter, tables.account? id = some stored ∧
    tables.tokens.filter (Tables.isSlot id template.scope) = [row] ∧
    row.digest = Token.digestOf token ∧ letters = [letter] ∧
    letter.Tells stored.email token template

/-- Whether an event has queued the letter that is due, if one is, and no other.  The letter is
about the account that the call acts for, as the call has left it. -/
def Event.SendsWhatIsDue {scheme : PasswordScheme} (event : Event scheme) : Prop :=
  match event.action, event.answer? with
  | .call call, some _ =>
      match call.template? with
      | some template =>
          ∃ id, call.subject? event.moment.now event.before.tables = some id ∧
            event.after.tables.BearOut id template event.outcome.letters
      | none => event.outcome.letters = []
  | _, _ => event.outcome.letters = []

end Gatehouse
