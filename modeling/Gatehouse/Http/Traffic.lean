import Gatehouse.Http.Router

/-!
# Traffic

What comes in at the service: calls of the workflows and requests over HTTP, one after the other,
each at its own moment and on the database that the one before has left.  A turn is one of them with
all that it leads to, and the view of a turn is what counts of it from outside: what was returned,
the letters, the accounts, the grants, and the tokens that are still good.
-/

namespace Gatehouse.Http

set_option autoImplicit false

/-- What comes in. -/
inductive Demand where
  /-- A call of the service. -/
  | call (call : Service.Call)
  /-- A request over HTTP. -/
  | request (request : Request)
  deriving DecidableEq, Repr

/-- What is returned. -/
inductive Return where
  | result (result : Except Fault Service.Reply)
  | response (response : Response)

/-- What has come of a demand at a time. -/
structure Turn where
  now : Instant
  returned : Return
  database : Database
  letters : List Mail.Letter

/-- Meets a demand. -/
def Demand.turn (scheme : PasswordScheme) (moment : Moment) (database : Database) :
    Demand → Turn
  | .call asked =>
      let outcome := Service.perform scheme moment database asked
      ⟨moment.now, .result outcome.result, outcome.database, outcome.letters⟩
  | .request received =>
      let exchange := answer scheme moment database received
      ⟨moment.now, .response exchange.response, exchange.database, exchange.letters⟩

/-- Meets demands one after the other. -/
def turns (scheme : PasswordScheme) (database : Database) : List (Moment × Demand) → List Turn
  | [] => []
  | (moment, demand) :: rest =>
      let turn := demand.turn scheme moment database
      turn :: turns scheme turn.database rest

/-- What counts of a turn. -/
structure View where
  returned : Return
  letters : List Mail.Letter
  accounts : List Account
  grants : List (Int × String)
  /-- The tokens that are still good. -/
  tokens : List TokenRow

/-- The view of a turn. -/
def Turn.view (turn : Turn) : View where
  returned := turn.returned
  letters := turn.letters
  accounts := turn.database.tables.accounts
  grants := turn.database.tables.grants
  tokens := turn.database.tables.tokens.filter fun row => !Tables.isPast turn.now row

end Gatehouse.Http
