import Gatehouse.Text.Percent
import Gatehouse.Text.Split

/-!
# Query parameters

The parameters that follow the question mark of a URL: names and values joined by equals signs and
separated by ampersands, with plus signs for spaces and percent encoding.
-/

namespace Gatehouse.Text

set_option autoImplicit false

/-- A name or a value of a parameter as it is meant.  One whose bytes are not those of a text stays
as it is written. -/
def queryDecoded (cs : List Char) : String :=
  let spaced := String.ofList (cs.map fun c => if c == '+' then ' ' else c)
  (percentDecoded? spaced).getD spaced

/-- Reads one parameter; without an equals sign it has an empty value. -/
def queryParameter (cs : List Char) : String × String :=
  match cutAtFirst (· == '=') cs with
  | none => (queryDecoded cs, "")
  | some (name, value) => (queryDecoded name, queryDecoded value)

/-- Reads parameters in order; nothing between two ampersands is no parameter. -/
def queryParameters (cs : List Char) : List (String × String) :=
  ((splitOn '&' cs).filter fun part => !part.isEmpty).map queryParameter

end Gatehouse.Text
