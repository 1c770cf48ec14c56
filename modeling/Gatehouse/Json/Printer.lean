import Gatehouse.Json.Value

/-!
# Compact JSON text

The one written form of a JSON value: no blanks, members in order, and in a string only the quote,
the backslash and the characters below a space escaped, by a short escape where one exists and by
a four-digit escape in lower-case hexadecimal otherwise.
-/

namespace Gatehouse.Json

set_option autoImplicit false

/-- The hexadecimal digit of a number below sixteen. -/
def hexDigit (value : Nat) : Char :=
  if value < 10 then Char.ofNat (48 + value) else Char.ofNat (87 + value)

/-- A character as it stands inside a string. -/
def escapedChar (c : Char) : List Char :=
  if c = '"' then ['\\', '"']
  else if c = '\\' then ['\\', '\\']
  else if c = '\x08' then ['\\', 'b']
  else if c = '\x0c' then ['\\', 'f']
  else if c = '\n' then ['\\', 'n']
  else if c = '\r' then ['\\', 'r']
  else if c = '\t' then ['\\', 't']
  else if c.toNat < 32 then
    ['\\', 'u', '0', '0', hexDigit (c.toNat / 16), hexDigit (c.toNat % 16)]
  else [c]

/-- A text between quotes. -/
def quoted (text : String) : List Char :=
  '"' :: text.toList.flatMap escapedChar ++ ['"']

mutual

/-- The characters of a value. -/
def chars : Json → List Char
  | .null => ['n', 'u', 'l', 'l']
  | .boolean true => ['t', 'r', 'u', 'e']
  | .boolean false => ['f', 'a', 'l', 's', 'e']
  | .number literal => literal.toList
  | .string text => quoted text
  | .array elements => '[' :: elementChars elements ++ [']']
  | .object members => '{' :: memberChars members ++ ['}']

/-- The characters of the elements of an array, with a comma before each but the first. -/
def elementChars : List Json → List Char
  | [] => []
  | [element] => chars element
  | element :: rest => chars element ++ ',' :: elementChars rest

/-- The characters of the members of an object, with a comma before each but the first. -/
def memberChars : List (String × Json) → List Char
  | [] => []
  | [(key, value)] => quoted key ++ ':' :: chars value
  | (key, value) :: rest => quoted key ++ ':' :: chars value ++ ',' :: memberChars rest

end

/-- The compact text of a value. -/
def text (value : Json) : String :=
  String.ofList (chars value)

end Gatehouse.Json
