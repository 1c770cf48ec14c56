/-!
# Base 64

The unpadded base-64 text of a byte string and its strict reader, over the letters of both cases,
the digits, the plus sign and the slash.  The reader accepts exactly what the writer produces: it
refuses padding, a lone last character, and a last character whose unused bits are not zero.
-/

namespace Gatehouse.Encoding.Base64

set_option autoImplicit false

/-- The character of a digit below 64. -/
def digitChar (digit : Nat) : Char :=
  if digit < 26 then Char.ofNat (65 + digit)
  else if digit < 52 then Char.ofNat (71 + digit)
  else if digit < 62 then Char.ofNat (digit - 4)
  else if digit = 62 then '+'
  else '/'

/-- The digit that a character stands for. -/
def digitValue? (c : Char) : Option Nat :=
  if 'A' ≤ c ∧ c ≤ 'Z' then some (c.toNat - 65)
  else if 'a' ≤ c ∧ c ≤ 'z' then some (c.toNat - 71)
  else if '0' ≤ c ∧ c ≤ '9' then some (c.toNat + 4)
  else if c = '+' then some 62
  else if c = '/' then some 63
  else none

/-- The base-64 characters of a byte string. -/
def encode : List UInt8 → List Char
  | [] => []
  | [a] => [digitChar (a.toNat / 4), digitChar (a.toNat % 4 * 16)]
  | [a, b] =>
      [digitChar (a.toNat / 4), digitChar (a.toNat % 4 * 16 + b.toNat / 16),
       digitChar (b.toNat % 16 * 4)]
  | a :: b :: c :: rest =>
      digitChar (a.toNat / 4) :: digitChar (a.toNat % 4 * 16 + b.toNat / 16)
        :: digitChar (b.toNat % 16 * 4 + c.toNat / 64) :: digitChar (c.toNat % 64)
        :: encode rest

/-- The bytes of a list of digits, if it has the form that the writer produces. -/
def bytesOfDigits : List Nat → Option (List UInt8)
  | [] => some []
  | [_] => none
  | [a, b] => if b % 16 = 0 then some [UInt8.ofNat (a * 4 + b / 16)] else none
  | [a, b, c] =>
      if c % 4 = 0 then
        some [UInt8.ofNat (a * 4 + b / 16), UInt8.ofNat (b % 16 * 16 + c / 4)]
      else none
  | a :: b :: c :: d :: rest =>
      (bytesOfDigits rest).map fun bytes =>
        UInt8.ofNat (a * 4 + b / 16) :: UInt8.ofNat (b % 16 * 16 + c / 4)
          :: UInt8.ofNat (c % 4 * 64 + d) :: bytes

/-- The bytes that a base-64 text stands for. -/
def decode? (text : List Char) : Option (List UInt8) :=
  (text.mapM digitValue?).bind bytesOfDigits

end Gatehouse.Encoding.Base64
