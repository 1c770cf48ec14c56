import Gatehouse.Text.Blank

/-!
# Log targets

Where log lines go: to the console alone, or to a file as well if one is configured under a name
that is not blank.
-/

namespace Gatehouse.Log

set_option autoImplicit false

/-- Where log lines go. -/
inductive Target where
  /-- To the console only. -/
  | console
  /-- To the console and to a file. -/
  | consoleAndFile (path : String)
  deriving DecidableEq, Repr

/-- The target for the file that is configured, if one is. -/
def Target.ofFile : Option String → Target
  | some path => if Text.isBlank path then .console else .consoleAndFile path
  | none => .console

end Gatehouse.Log
