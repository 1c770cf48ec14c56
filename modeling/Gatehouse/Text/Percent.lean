import Gatehouse.Text.Utf8

/-!
# Percent encoding

Undoing percent encoding: a percent sign and two hexadecimal digits stand for a byte, and any
other percent sign stands for itself.
-/

namespace Gatehouse.Text

set_option autoImplicit false

/-- The number that a hexadecimal digit of either case stands for. -/
def hexDigitValue? (byte : UInt8) : Option Nat :=
  if 0x30 ≤ byte ∧ byte ≤ 0x39 then some (byte.toNat - 0x30)
  else if 0x61 ≤ byte ∧ byte ≤ 0x66 then some (byte.toNat - 0x57)
  else if 0x41 ≤ byte ∧ byte ≤ 0x46 then some (byte.toNat - 0x37)
  else none

/-- The bytes that a percent-encoded byte string stands for. -/
def percentDecode : List UInt8 → List UInt8
  | [] => []
  | 0x25 :: high :: low :: rest =>
      match hexDigitValue? high, hexDigitValue? low with
      | some highValue, some lowValue =>
          UInt8.ofNat (highValue * 16 + lowValue) :: percentDecode rest
      | _, _ => 0x25 :: percentDecode (high :: low :: rest)
  | byte :: rest => byte :: percentDecode rest

/-- The text that a percent-encoded text stands for, if its bytes are those of a text. -/
def percentDecoded? (text : String) : Option String :=
  ofBytes? (percentDecode (bytes text))

end Gatehouse.Text
