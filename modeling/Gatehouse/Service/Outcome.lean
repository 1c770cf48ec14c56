import Gatehouse.Mail.Template
import Gatehouse.Store.Database

/-!
# Calls and their outcomes

A call is made at a moment, which says what time it is and what the random source gives.  Its
outcome is a result, the database as the call leaves it, and the letters that it sends.
-/

namespace Gatehouse

set_option autoImplicit false

/-- The time, and what the random source gives from now on. -/
structure Moment where
  now : Instant
  draws : List Draw

namespace Moment

/-- A moment for a call that neither reads the clock nor draws. -/
def idle : Moment := ⟨⟨0⟩, []⟩

/-- Takes a draw to make a token from. -/
def drawToken (moment : Moment) : Except Fault (Draw × Moment) :=
  match moment.draws with
  | [] => .error (.entropy "no random bytes")
  | draw :: rest => .ok (draw, { moment with draws := rest })

/-- Takes a draw to salt a password with. -/
def drawSalt (moment : Moment) : Except Fault (Draw × Moment) :=
  match moment.draws with
  | [] => .error (.hashing "no random bytes")
  | draw :: rest => .ok (draw, { moment with draws := rest })

/-- The moment after the next draw is used up. -/
def spent (moment : Moment) : Moment :=
  { moment with draws := moment.draws.drop 1 }

end Moment

/-- What a call leads to. -/
structure Outcome (α : Type) where
  result : Except Fault α
  database : Database
  letters : List Mail.Letter

namespace Outcome

variable {α β : Type}

/-- The outcome of looking something up. -/
def ofReading (database : Database) (result : Except Fault α) : Outcome α :=
  ⟨result, database, []⟩

/-- The outcome with its result in another form. -/
def map (change : α → β) (outcome : Outcome α) : Outcome β :=
  ⟨outcome.result.map change, outcome.database, outcome.letters⟩

end Outcome

/-! ## Steps of calls -/

namespace Service

/-- Goes on only if a report has no complaints. -/
def accept (report : Validation.Report) : Except Fault Unit :=
  if report.isAcceptable then .ok () else .error (.validation report)

/-- What was looked for, or a fault if it was not found. -/
def found {α : Type} (fault : Fault) : Option α → Except Fault α
  | none => .error fault
  | some value => .ok value

/-- The text to store for a password, salted with the next draw. -/
def hashPassword (scheme : PasswordScheme) (moment : Moment) (password : String) :
    Except Fault (String × Moment) := do
  let (salt, moment) ← moment.drawSalt
  match scheme.hash password salt with
  | .error fault => .error (.ofPasswordFault fault)
  | .ok stored => .ok (stored, moment)

/-- Makes a token from a draw and stores it. -/
def storeToken (draw : Draw) (now : Instant) (tables : Tables) (accountId : Int)
    (lifetime : Duration) (scope : Scope) : Except Fault (IssuedToken × Tables) :=
  let issued := IssuedToken.ofDraw draw now accountId lifetime scope
  (tables.insertToken issued.token).map fun tables => (issued, tables)

/-- Whether a fault is a conflict between tokens. -/
def isTokenConflict : Fault → Bool
  | .conflict field _ => field == Tables.tokenField
  | _ => false

/-! ## Letters -/

/-- The letter that asks the holder of an account to activate it. -/
def activationLetter (account : Account) (token : IssuedToken) : Mail.Letter :=
  ⟨account.email, .activation, Mail.activationValues token.plaintext⟩

/-- The letter that lets the holder of an account set a new password. -/
def resetLetter (account : Account) (token : IssuedToken) : Mail.Letter :=
  ⟨account.email, .passwordReset, Mail.resetValues account.email token.plaintext⟩

end Service

end Gatehouse
