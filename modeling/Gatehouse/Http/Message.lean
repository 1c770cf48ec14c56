import Gatehouse.Json.Printer
import Gatehouse.Text.Utf8

/-!
# Requests and responses

What the service sees of an HTTP request, and what it says in response.  Names of headers are the
same in any case of ASCII letters.
-/

namespace Gatehouse.Http

set_option autoImplicit false

/-- A request. -/
structure Request where
  method : String
  /-- The path, with the query if there is one. -/
  target : String
  /-- The headers in order, their values in bytes. -/
  headers : List (String × List UInt8)
  body : List UInt8
  deriving DecidableEq, Repr

/-- The first value of a header. -/
def Request.header? (request : Request) (name : String) : Option (List UInt8) :=
  (request.headers.find? fun header => header.1.map Char.toLower == name).map Prod.snd

/-- A response. -/
structure Response where
  status : Nat
  headers : List (String × String)
  body : String
  deriving DecidableEq, Repr

namespace Response

/-- A response without a body. -/
def bare (status : Nat) : Response := ⟨status, [], ""⟩

/-- A response with a JSON body. -/
def ofJson (status : Nat) (body : Json) : Response :=
  ⟨status, [("content-type", "application/json")], body.text⟩

/-- A response with a plain text as its body. -/
def ofText (status : Nat) (body : String) : Response :=
  ⟨status, [("content-type", "text/plain; charset=utf-8")], body⟩

/-- The response with one more header. -/
def withHeader (response : Response) (name value : String) : Response :=
  { response with headers := response.headers ++ [(name, value)] }

/-- The response with its body left out. -/
def withoutBody (response : Response) : Response :=
  { response with body := "" }

/-- Whether a response says that all went well. -/
def isSuccess (response : Response) : Bool :=
  decide (200 ≤ response.status) && decide (response.status < 300)

/-- The value of a header. -/
def header? (response : Response) (name : String) : Option String :=
  (response.headers.find? fun header => header.1 == name).map Prod.snd

end Response

end Gatehouse.Http
