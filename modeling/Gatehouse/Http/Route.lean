import Gatehouse.Text.Percent
import Gatehouse.Text.Split

/-!
# Routes

What the paths of requests stand for.  A path is compared part by part as it is written; only the
part that names an account is taken as percent-encoded.  A path that ends in the name of an account
must have one, while in the path for changing an account the name may be empty.
-/

namespace Gatehouse.Http

set_option autoImplicit false

/-- What a path stands for. -/
inductive Route where
  | register
  | activate
  | logIn
  | logOut
  | requestReset
  | setPassword
  /-- Reading the account with a username, as it is written in the path. -/
  | readAccount (segment : String)
  /-- Changing the account with a username, as it is written in the path. -/
  | changeAccount (segment : String)
  | refresh
  | health
  deriving DecidableEq, Repr

namespace Route

/-- The path of a request without its query. -/
def pathOf (target : String) : List Char :=
  target.toList.takeWhile fun c => c != '?' && c != '#'

/-- The route of the parts of a path. -/
def ofSegments : List String → Option Route
  | ["", "health"] => some .health
  | ["", "v1", "tokens"] => some .logOut
  | ["", "v1", "tokens", "refresh"] => some .refresh
  | ["", "v1", "users", "new"] => some .register
  | ["", "v1", "users", "activate"] => some .activate
  | ["", "v1", "users", "authenticate"] => some .logIn
  | ["", "v1", "users", "password", "reset"] => some .requestReset
  | ["", "v1", "users", "password", "update"] => some .setPassword
  | ["", "v1", "users", "account", segment] =>
      if segment.isEmpty then none else some (.readAccount segment)
  | ["", "v1", "users", "account", segment, "update"] => some (.changeAccount segment)
  | _ => none

/-- The parts of a request's path, of which the first is empty.  The target may be a whole URL,
whose scheme and host do not count. -/
def segmentsOf (target : String) : List String :=
  match (Text.splitOn '/' (pathOf target)).map String.ofList with
  | scheme :: "" :: host :: path => if scheme.isEmpty then "" :: "" :: host :: path else "" :: path
  | segments => segments

/-- The route of a request. -/
def ofTarget? (target : String) : Option Route :=
  ofSegments (segmentsOf target)

/-- The methods that a route takes. -/
def methods : Route → List String
  | .register => ["POST"]
  | .activate => ["PUT"]
  | .logIn => ["POST"]
  | .logOut => ["DELETE"]
  | .requestReset => ["POST"]
  | .setPassword => ["PUT"]
  | .readAccount _ => ["GET", "HEAD"]
  | .changeAccount _ => ["PUT"]
  | .refresh => ["POST"]
  | .health => ["GET", "HEAD"]

/-- Whether a route takes a method. -/
def takes (route : Route) (method : String) : Bool :=
  route.methods.contains method

/-- The methods that a route takes, as a header lists them. -/
def allowText (route : Route) : String :=
  ",".intercalate route.methods

/-- Whether a route looks at who makes the request. -/
def identifies : Route → Bool
  | .refresh => false
  | .health => false
  | _ => true

end Route

end Gatehouse.Http
