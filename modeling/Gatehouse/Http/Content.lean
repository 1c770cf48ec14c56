import Gatehouse.Json.Value
import Gatehouse.Service.Call

/-!
# Contents of responses

The JSON bodies of responses to requests that went well.  Of an account they show its id, its
username, its email address and whether it is activated, and of the tokens of a session the
plaintext and the expiry.
-/

namespace Gatehouse.Http

set_option autoImplicit false

/-- The body that holds a message. -/
def messageContent (message : String) : Json :=
  .ofTexts [("message", message)]

/-- The body that holds an activation token. -/
def tokenContent (token : String) : Json :=
  .ofTexts [("token", token)]

/-- The body that says that the service works. -/
def healthContent : Json :=
  .ofTexts [("status", "available")]

/-- The body that shows an account. -/
def accountContent (id : Int) (username email : String) (isActivated : Bool) : Json :=
  .object [("user", .object
    [("id", .ofInt id), ("username", .string username), ("email", .string email),
     ("activated", .boolean isActivated)])]

/-- A token with its expiry. -/
def issuedContent (issued : IssuedToken) : Json :=
  .ofTexts [("token", issued.plaintext), ("expiry", issued.token.expiry.rfc3339)]

/-- The body that hands out a session. -/
def sessionContent (session : Service.Session) : Json :=
  .object
    [("access_token", issuedContent session.access),
     ("refresh_token", issuedContent session.refresh)]

end Gatehouse.Http
