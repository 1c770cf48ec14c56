/-!
# Readers

What reads something from the front of a text and gives the rest, or gives nothing if the text
does not begin with it.
-/

namespace Gatehouse.Text

set_option autoImplicit false

/-- Reads a value from the front of a text. -/
abbrev Reader (α : Type) : Type := List Char → Option (α × List Char)

end Gatehouse.Text
