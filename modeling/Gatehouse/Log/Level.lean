/-!
# Log levels

How much is logged.  A level is read from its name in any case; an unknown name means the usual
level.  Case is that of ASCII letters: the one other letter whose small form is an ASCII letter
is a sign for `k`, which no name holds.
-/

namespace Gatehouse.Log

set_option autoImplicit false

/-- How much is logged. -/
inductive Level where
  | trace
  | debug
  | info
  | warn
  | error
  deriving DecidableEq, Repr

namespace Level

/-- All levels, the most talkative first. -/
def all : List Level := [.trace, .debug, .info, .warn, .error]

/-- The name of a level in small letters. -/
def name : Level → String
  | .trace => "trace"
  | .debug => "debug"
  | .info => "info"
  | .warn => "warn"
  | .error => "error"

/-- The name of a level in capital letters. -/
def label (level : Level) : String :=
  level.name.map Char.toUpper

/-- Reads a level. -/
def ofText (text : String) : Level :=
  let name := text.map Char.toLower
  if name == "warning" then .warn else (all.find? fun level => level.name == name).getD .info

/-- The filter that a level sets: the service and its requests log at the level, and statements of
the database only from warnings on. -/
def directives (level : Level) : String :=
  let name := level.name
  name ++ ",usergate=" ++ name ++ ",tower_http=" ++ name ++ ",sqlx=warn"

end Level

end Gatehouse.Log
