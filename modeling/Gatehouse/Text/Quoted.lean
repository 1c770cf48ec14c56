import Gatehouse.Text.Blank

/-!
# Quoted text for logs

A text between quotes on one line, as it is written to logs: quotes and backslashes are escaped,
and so are the characters that do not show or that change the look of their neighbours.
-/

namespace Gatehouse.Text

set_option autoImplicit false

/-- Whether a character does not show by itself: a control character, white space other than the
space, a combining mark, or an invisible joiner or direction mark. -/
def isHidden (c : Char) : Bool :=
  let code := c.toNat
  decide (code < 32) || (decide (127 ≤ code) && decide (code < 160))
    || (c != ' ' && isWhiteSpace c) || code == 0xad
    || (decide (0x300 ≤ code) && decide (code ≤ 0x36f))
    || (decide (0x200b ≤ code) && decide (code ≤ 0x200f))
    || (decide (0x202a ≤ code) && decide (code ≤ 0x202e))
    || (decide (0x2060 ≤ code) && decide (code ≤ 0x206f)) || code == 0xfeff

/-- A character as it stands between quotes. -/
def quotedChar (c : Char) : List Char :=
  if c == '"' || c == '\\' then ['\\', c]
  else if c == '\t' then ['\\', 't']
  else if c == '\n' then ['\\', 'n']
  else if c == '\r' then ['\\', 'r']
  else if c == '\x00' then ['\\', '0']
  else if isHidden c then ['\\', 'u', '\x7b'] ++ Nat.toDigits 16 c.toNat ++ ['\x7d']
  else [c]

/-- A text between quotes. -/
def quoted (text : String) : String :=
  "\"" ++ String.ofList (text.toList.flatMap quotedChar) ++ "\""

end Gatehouse.Text
