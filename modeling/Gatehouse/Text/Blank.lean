/-!
# White space

The characters that count as white space in any script, and trimming by them.  A text is blank
when it holds nothing else.
-/

namespace Gatehouse.Text

set_option autoImplicit false

/-- Whether a character is white space in the sense of Unicode. -/
def isWhiteSpace (c : Char) : Bool :=
  let code := c.toNat
  (decide (0x09 ≤ code) && decide (code ≤ 0x0d)) || code == 0x20 || code == 0x85 || code == 0xa0
    || code == 0x1680 || (decide (0x2000 ≤ code) && decide (code ≤ 0x200a))
    || code == 0x2028 || code == 0x2029 || code == 0x202f || code == 0x205f || code == 0x3000

/-- The characters without the white space at either end. -/
def trim (cs : List Char) : List Char :=
  ((cs.dropWhile isWhiteSpace).reverse.dropWhile isWhiteSpace).reverse

/-- Whether a character is a space or a tab. -/
def isSpaceOrTab (c : Char) : Bool :=
  c == ' ' || c == '\t'

/-- Whether a text holds nothing but white space. -/
def isBlank (text : String) : Bool :=
  text.toList.all isWhiteSpace

end Gatehouse.Text
