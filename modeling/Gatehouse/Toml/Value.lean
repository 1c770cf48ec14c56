/-!
# TOML values

The values that a TOML document assigns to its keys.  Settings are texts, integers and truth
values; floating-point numbers and dates must be written correctly but mean nothing to the
service, so of them only the kind is kept.
-/

namespace Gatehouse.Toml

set_option autoImplicit false

/-- A TOML value. -/
inductive Value where
  | string (text : String)
  | integer (value : Int)
  | float
  | boolean (value : Bool)
  | dateTime
  | array (elements : List Value)
  /-- A table; its keys are distinct. -/
  | table (entries : List (String × Value))

end Gatehouse.Toml
