import Gatehouse.Http.Bearer
import Gatehouse.Http.Content
import Gatehouse.Http.Form
import Gatehouse.Http.Route

/-!
# Answering requests

A request to a known route is answered in steps: who makes it is found out, the method is compared,
the path and the body are read, permissions are checked where the route asks for them, and then the
one call of the service that the route stands for is made.  A step that fails answers the request,
and only the call can change the database or send letters.
-/

namespace Gatehouse.Http

set_option autoImplicit false

/-- What a request leads to. -/
structure Exchange where
  response : Response
  database : Database
  letters : List Mail.Letter

/-- The exchange that changes nothing. -/
def Exchange.unchanged (database : Database) (response : Response) : Exchange :=
  ⟨response, database, []⟩

/-! ## From requests to calls -/

/-- Reads the body of a request as a form. -/
def receiveForm {α : Type} (form : Form α) (body : List UInt8) : Except Response α :=
  match form.receive body with
  | .error fault => .error (Problem.plain .badRequest fault.message).response
  | .ok value => .ok value

/-- Reads the username in a path. -/
def receiveUsername (segment : String) : Except Response String :=
  match Text.percentDecoded? segment with
  | none => .error (.ofText 400 "Invalid URL: Invalid UTF-8 in \x60username\x60")
  | some username => .ok username

/-- Goes on only if a caller holds permissions. -/
def receivePermission (database : Database) (identity : Identity) (required : List Permission) :
    Except Response Unit :=
  match Service.requirePermissions database identity required with
  | .error fault => .error (Problem.ofFault fault).response
  | .ok _ => .ok ()

/-- The call that a route and a body stand for, or the response if they stand for none. -/
def callOf (database : Database) (identity : Identity) (body : List UInt8) :
    Route → Except Response Service.Call
  | .register => do
      let form ← receiveForm registrationForm body
      return .register form.username form.email form.password
  | .activate => do
      let form ← receiveForm tokenForm body
      return .activate form.token
  | .logIn => do
      let form ← receiveForm credentialsForm body
      return .login form.username form.password
  | .logOut => .ok (.logout identity)
  | .requestReset => do
      let form ← receiveForm resetForm body
      return .requestPasswordReset form.email
  | .setPassword => do
      let form ← receiveForm passwordForm body
      return .updatePassword form.token form.password
  | .readAccount segment => do
      let username ← receiveUsername segment
      receivePermission database identity [.readUser]
      return .getAccount identity username
  | .changeAccount segment => do
      let username ← receiveUsername segment
      let form ← receiveForm accountForm body
      receivePermission database identity [.writeUser, .readUser]
      return .updateAccount identity username form.email form.password
  | .refresh => do
      let form ← receiveForm tokenForm body
      return .refresh form.token
  | .health => .error (.ofJson 200 healthContent)

/-! ## From replies to responses -/

/-- The message that confirms a request which hands out nothing. -/
def confirmation : Route → String
  | .activate => "user account successfully activated"
  | .requestReset => "a password reset token has been sent to your email address"
  | .setPassword => "password successfully updated"
  | _ => "user successfully logged out"

/-- The response to a request that went well. -/
def responseOfReply (route : Route) (reply : Service.Reply) : Response :=
  let accountResponse (account : Account) : Response :=
    .ofJson 200 (accountContent account.id account.username account.email account.isActivated)
  match route, reply with
  | _, .registration registration =>
      .ofJson 201 (tokenContent registration.activationToken.plaintext)
  | _, .session session => .ofJson 200 (sessionContent session)
  | .readAccount _, .account account => accountResponse account
  | _, .update update => accountResponse update.account
  | route, _ => .ofJson 200 (messageContent (confirmation route))

/-- The problem that a call of a route failed with. -/
def problemOf : Route → Fault → Problem
  | .activate, .notFound => .ofField "token" "invalid or expired activation token"
  | .refresh, .notFound => .plain .unauthorized "unknown or invalid refresh token"
  | _, fault => .ofFault fault

/-- The response to a request whose call has been made. -/
def responseOfResult (route : Route) : Except Fault Service.Reply → Response
  | .ok reply => responseOfReply route reply
  | .error fault => (problemOf route fault).response

/-! ## The whole way -/

/-- Answers a request from a known caller with a method that its route takes. -/
def serve (scheme : PasswordScheme) (moment : Moment) (database : Database) (identity : Identity)
    (route : Route) (body : List UInt8) : Exchange :=
  match callOf database identity body route with
  | .error response => .unchanged database response
  | .ok call =>
      let outcome := Service.perform scheme moment database call
      ⟨responseOfResult route outcome.result, outcome.database, outcome.letters⟩

/-- The headers that a route adds to all its responses; a response to a method that it does not
take lists those that it takes. -/
def decorate (route : Route) (method : String) (response : Response) : Response :=
  let response :=
    if route.takes method then response else response.withHeader "allow" route.allowText
  if route.identifies then response.withHeader "vary" "Authorization" else response

/-- Answers a request to a known route. -/
def answerAt (scheme : PasswordScheme) (moment : Moment) (database : Database) (request : Request)
    (route : Route) : Exchange :=
  let authorization := if route.identifies then request.header? "authorization" else none
  let exchange : Exchange :=
    match identify moment.now database authorization with
    | .error problem => .unchanged database problem.response
    | .ok identity =>
        if route.takes request.method then
          serve scheme moment database identity route request.body
        else .unchanged database (.bare 405)
  { exchange with response := decorate route request.method exchange.response }

/-- Answers a request.  The response to a request for headers alone has no body. -/
def answer (scheme : PasswordScheme) (moment : Moment) (database : Database) (request : Request) :
    Exchange :=
  let exchange : Exchange :=
    match Route.ofTarget? request.target with
    | none => .unchanged database (.bare 404)
    | some route => answerAt scheme moment database request route
  if request.method == "HEAD" then
    { exchange with response := exchange.response.withoutBody }
  else exchange

end Gatehouse.Http
