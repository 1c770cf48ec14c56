import Gatehouse.Http.Problem
import Gatehouse.Service.Session
import Gatehouse.Text.Split

/-!
# Bearer tokens

Who makes a request is said by its `Authorization` header: the word `Bearer`, one space and an
access token.  A request without the header is made by nobody in particular; a header of any other
form, or with a token that is not good, is a problem and not passed over.
-/

namespace Gatehouse.Http

set_option autoImplicit false

/-- Whether a byte may stand in a header that is read as a text. -/
def isHeaderByte (byte : UInt8) : Bool :=
  byte == 9 || (decide (32 ≤ byte) && decide (byte ≤ 126))

/-- The text of a header's value, if it holds visible ASCII characters, spaces and tabs only. -/
def headerText? (value : List UInt8) : Option (List Char) :=
  if value.all isHeaderByte then some (value.map fun byte => Char.ofNat byte.toNat) else none

/-- The token that a header's value carries. -/
def bearerToken? (value : List UInt8) : Option String :=
  (headerText? value).bind fun text =>
    match Text.splitOn ' ' text with
    | [scheme, token] =>
        if String.ofList scheme == "Bearer" && !token.isEmpty then some (String.ofList token)
        else none
    | _ => none

/-- Who makes a request, by the value of its `Authorization` header. -/
def identify (now : Instant) (database : Database) :
    Option (List UInt8) → Except Problem Identity
  | none => .ok .anonymous
  | some value =>
      match bearerToken? value with
      | none => .error .invalidToken
      | some token =>
          match Service.authenticate now database token with
          | .error fault => .error (.ofFault fault)
          | .ok account => .ok (.known account)

end Gatehouse.Http
