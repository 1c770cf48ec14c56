import Gatehouse.Fault
import Gatehouse.Http.Message

/-!
# Problems

How a failed request is answered.  A problem has a kind, which sets the status, a message for the
client and, for faults of fields, the message of each field.  Faults of the service itself all look
the same from outside: their details are for its operators.
-/

namespace Gatehouse.Http

set_option autoImplicit false

/-- The kinds of problems. -/
inductive ProblemKind where
  | badRequest
  | unauthorized
  | forbidden
  | notFound
  | validation
  | internal
  deriving DecidableEq, Repr

namespace ProblemKind

/-- The code that a response carries for a kind. -/
def code : ProblemKind → String
  | .badRequest => "BAD_REQUEST"
  | .unauthorized => "UNAUTHORIZED"
  | .forbidden => "FORBIDDEN"
  | .notFound => "NOT_FOUND"
  | .validation => "VALIDATION_ERROR"
  | .internal => "INTERNAL_ERROR"

/-- The name under which a kind is logged. -/
def label : ProblemKind → String
  | .badRequest => "BadRequest"
  | .unauthorized => "Unauthorized"
  | .forbidden => "Forbidden"
  | .notFound => "NotFound"
  | .validation => "ValidationError"
  | .internal => "InternalError"

/-- The status of a response with a problem of a kind. -/
def status : ProblemKind → Nat
  | .badRequest => 400
  | .unauthorized => 401
  | .forbidden => 403
  | .notFound => 404
  | .validation => 422
  | .internal => 500

end ProblemKind

/-- What is answered to a failed request. -/
structure Problem where
  kind : ProblemKind
  message : String
  /-- The message of each field, if fields are at fault. -/
  details : Option Text.Dictionary
  /-- Whether the client is asked for a token. -/
  asksForToken : Bool

namespace Problem

/-- A problem of a kind with nothing but a message. -/
def plain (kind : ProblemKind) (message : String) : Problem :=
  ⟨kind, message, none, false⟩

/-- The problem of a request that carries no token that is good. -/
def invalidToken : Problem :=
  ⟨.unauthorized, "invalid or missing authentication token", none, true⟩

/-- The problem of names, passwords and tokens under which there is nothing. -/
def invalidCredentials : Problem :=
  plain .unauthorized "invalid authentication credentials"

/-- The problem of a service that is at fault itself. -/
def internal : Problem :=
  plain .internal "the server encountered a problem and could not process your request"

/-- The problem of fields at fault. -/
def ofFields (details : Text.Dictionary) : Problem :=
  ⟨.validation, "validation failed", some details, false⟩

/-- The problem of one field at fault. -/
def ofField (field message : String) : Problem :=
  ofFields (Text.Dictionary.empty.insert field message)

/-- The problem that a fault is answered with. -/
def ofFault : Fault → Problem
  | .validation report => ofFields report.messages
  | .conflict field message => ofField field message
  | .notFound => invalidCredentials
  | .unauthenticated => invalidToken
  | .permission message => plain .forbidden message
  | .storage _ => internal
  | .entropy _ => internal
  | .hashing _ => internal
  | .mail _ => internal
  | .file _ => internal
  | .configuration _ => internal

/-- A problem as it is logged. -/
def text (problem : Problem) : String :=
  problem.kind.label ++ ": " ++ problem.message

/-- The body of a response with a problem. -/
def body (problem : Problem) : Json :=
  let details :=
    match problem.details with
    | none => []
    | some details => [("details", Json.ofTexts details.entries)]
  .object [("error", .object
    ([("code", .string problem.kind.code), ("message", .string problem.message)] ++ details))]

/-- The challenge that a response with a problem carries. -/
def challenge? (problem : Problem) : Option String :=
  if problem.asksForToken then some "Bearer" else none

/-- The response with a problem. -/
def response (problem : Problem) : Response :=
  let response := Response.ofJson problem.kind.status problem.body
  match problem.challenge? with
  | none => response
  | some challenge => response.withHeader "www-authenticate" challenge

end Problem

end Gatehouse.Http
