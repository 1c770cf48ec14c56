import Gatehouse.Net.SocketAddress
import Gatehouse.Text.Query

/-!
# Relays

The server that takes mail to deliver it, read from a URL: the scheme says whether the connection
is encrypted from its start, the authority names the host with an optional port and credentials,
and the parameter `tls` says whether a plain connection is encrypted later.

Control characters and spaces around the URL, and tabs and line ends inside it, do not count.
-/

namespace Gatehouse.Mail

set_option autoImplicit false

/-- How a connection to a relay is encrypted. -/
inductive Encryption where
  /-- Not at all. -/
  | none
  /-- After the greeting, if the relay offers it. -/
  | opportunistic
  /-- After the greeting, or mail is not sent. -/
  | required
  /-- From the start. -/
  | fromStart
  deriving DecidableEq, Repr

/-- A user of a relay. -/
structure Credentials where
  user : String
  password : String
  deriving DecidableEq, Repr

/-- A relay and the way to use it. -/
structure Relay where
  host : String
  port : Nat
  encryption : Encryption
  credentials : Option Credentials
  deriving DecidableEq, Repr

namespace Relay

/-- The port that a way of encryption usually has. -/
def usualPort : Encryption → Nat
  | .none => 25
  | .opportunistic => 587
  | .required => 587
  | .fromStart => 465

/-- Whether a character is dropped at the ends of a URL. -/
def isEdge (c : Char) : Bool :=
  decide (c ≤ ' ')

/-- Whether a character is dropped anywhere in a URL. -/
def isBreak (c : Char) : Bool :=
  c == '\t' || c == '\n' || c == '\r'

/-- The characters of a URL that count. -/
def cleaned (cs : List Char) : List Char :=
  (((cs.dropWhile isEdge).reverse.dropWhile isEdge).reverse).filter fun c => !isBreak c

/-- Whether a character ends the authority of a URL. -/
def endsAuthority (c : Char) : Bool :=
  c == '/' || c == '?' || c == '#'

/-- The characters that no host name holds. -/
def forbiddenInHost : List Char :=
  ['\x00', '\t', '\n', '\r', ' ', '#', '/', ':', '<', '>', '?', '@', '[', '\\', ']', '^', '|']

/-- Reads a host: a name, or an IPv6 literal in brackets. -/
def readHost (cs : List Char) : Option String :=
  match cs with
  | [] => Option.none
  | '[' :: rest =>
      if rest.getLast? == some ']' then
        (Net.ipv6OfText? rest.dropLast).map fun _ => String.ofList cs
      else Option.none
  | _ => if cs.any forbiddenInHost.contains then Option.none else some (String.ofList cs)

/-- The host and what follows it: a colon in brackets belongs to the host. -/
def splitHost : Bool → List Char → List Char × List Char
  | _, [] => ([], [])
  | inBrackets, c :: rest =>
      if c == ':' && !inBrackets then ([], c :: rest)
      else
        let (host, rest) := splitHost (c == '[' || (inBrackets && c != ']')) rest
        (c :: host, rest)

/-- Reads the port behind a host; without digits there is none.  A backslash ends it. -/
def readPort : List Char → Option (Option Nat)
  | [] => some Option.none
  | ':' :: rest =>
      let digits := rest.takeWhile fun c => c != '\\'
      if digits.isEmpty then some Option.none
      else (Number.decimalBelow? UInt16.size digits).map some
  | _ => Option.none

/-- Reads credentials; without a password there are none. -/
def readCredentials (cs : List Char) : Option (Option Credentials) :=
  match Text.cutAtFirst (· == ':') cs with
  | Option.none => some Option.none
  | some (user, password) =>
      if password.isEmpty then some Option.none
      else do
        let user ← Text.percentDecoded? (String.ofList user)
        let password ← Text.percentDecoded? (String.ofList password)
        return some ⟨user, password⟩

/-- The encryption that a scheme and the `tls` parameter ask for. -/
def encryption? (scheme : String) (parameter : Option String) : Option Encryption :=
  if scheme == "smtps" then some .fromStart
  else if scheme == "smtp" then
    match parameter with
    | Option.none => some .none
    | some "required" => some .required
    | some "opportunistic" => some .opportunistic
    | some _ => Option.none
  else Option.none

/-- Reads the authority of a URL: the credentials end at its last at-sign. -/
def readAuthority (cs : List Char) : Option (Option Credentials × String × Option Nat) := do
  let (user, server) := (Text.cutAtLast (· == '@') cs).getD ([], cs)
  let (host, rest) := splitHost false server
  let host ← readHost host
  let port ← readPort rest
  let credentials ← readCredentials user
  return (credentials, host, port)

/-- The value of the `tls` parameter among what follows the authority of a URL. -/
def encryptionParameter (cs : List Char) : Option String :=
  let query := ((cs.takeWhile (· != '#')).dropWhile (· != '?')).drop 1
  ((Text.queryParameters query).find? fun parameter => parameter.1 == "tls").map Prod.snd

/-- Reads the URL of a relay. -/
def parse? (url : String) : Option Relay := do
  let (scheme, rest) ← Text.cutAtFirst (· == ':') (cleaned url.toList)
  match rest with
  | '/' :: '/' :: rest =>
      let (credentials, host, port) ← readAuthority (rest.takeWhile fun c => !endsAuthority c)
      let encryption ← encryption? (String.ofList (scheme.map Char.toLower))
        (encryptionParameter (rest.dropWhile fun c => !endsAuthority c))
      return ⟨host, port.getD (usualPort encryption), encryption, credentials⟩
  | _ => Option.none

end Relay

end Gatehouse.Mail
