import Gatehouse.Fault
import Gatehouse.Log.Level
import Gatehouse.Log.Target
import Gatehouse.Net.SocketAddress
import Gatehouse.Text.Blank
import Gatehouse.Text.Utf8
import Gatehouse.Toml.Syntax

/-!
# Settings

The settings of the service.  They are the default settings, overlaid with those that a TOML
document gives and then with those of the environment.

A document has a section for each group of settings.  A section is a table whose keys name the
settings; it may also be an array that lists the first settings in order.  What is not given keeps
its default, and keys and elements that mean nothing are passed over.
-/

namespace Gatehouse

set_option autoImplicit false

/-! ## Groups -/

/-- Where the service listens, and how it stops. -/
structure ServerSettings where
  host : String
  port : UInt16
  /-- How many seconds stopping waits for mail that is still to be sent. -/
  shutdownTimeout : Nat
  deriving DecidableEq, Repr

/-- Where data is kept. -/
structure DatabaseSettings where
  /-- The path of the database file or its URL. -/
  url : String
  maxConnections : UInt32
  deriving DecidableEq, Repr

/-- How mail is sent. -/
structure MailSettings where
  /-- The URL of the relay; without one, mail is only logged. -/
  relayUrl : Option String
  sender : String
  deriving DecidableEq, Repr

/-- What is logged, and where. -/
structure LogSettings where
  level : String
  file : Option String
  deriving DecidableEq, Repr

/-- All settings. -/
structure Settings where
  server : ServerSettings
  database : DatabaseSettings
  mail : MailSettings
  log : LogSettings
  deriving DecidableEq, Repr

/-- The settings that the environment gives; an empty text counts as none. -/
structure Environment where
  databaseUrl : Option String
  relayUrl : Option String
  deriving DecidableEq, Repr

namespace Settings

/-- The settings that hold where nothing else is given. -/
def default : Settings where
  server := ⟨"0.0.0.0", 4000, 30⟩
  database := ⟨"data/usergate.db", 10⟩
  mail := ⟨none, "usergate <no-reply@usergate.local>"⟩
  log := ⟨"info", some "logs/usergate.log"⟩

/-! ## Documents -/

/-- The value of a key among the entries of a table. -/
def valueOf? (entries : List (String × Toml.Value)) (key : String) : Option Toml.Value :=
  (entries.find? fun entry => entry.1 == key).map Prod.snd

/-- What a section gives for the settings named, in their order.  A date stands for a table
without any of them. -/
def givenBy (names : List String) : Toml.Value → Option (List (Option Toml.Value))
  | .table entries => some (names.map (valueOf? entries))
  | .array elements => some ((List.range names.length).map fun position => elements[position]?)
  | .dateTime => some (names.map fun _ => none)
  | _ => none

/-- The settings of a section: their defaults if a document lacks it, or what it gives. -/
def sectionOf? {α : Type} (read : Toml.Value → Option α) (otherwise : α)
    (document : List (String × Toml.Value)) (heading : String) : Option α :=
  match valueOf? document heading with
  | none => some otherwise
  | some value => read value

/-- The text that a value is. -/
def textOf? : Toml.Value → Option String
  | .string text => some text
  | _ => none

/-- The natural number below a limit that a value is. -/
def naturalOf? (limit : Nat) : Toml.Value → Option Nat
  | .integer value => if 0 ≤ value ∧ value < limit then some value.toNat else none
  | _ => none

/-- A setting as it is given, or its default; nothing if what is given does not fit. -/
def setting {α : Type} (read : Toml.Value → Option α) (otherwise : α) :
    Option (Option Toml.Value) → Option α
  | some (some value) => read value
  | _ => some otherwise

/-- The server settings that a section gives. -/
def serverIn? (value : Toml.Value) : Option ServerSettings := do
  let given ← givenBy ["host", "port", "shutdown_timeout_secs"] value
  let host ← setting textOf? default.server.host given[0]?
  let port ← setting (fun value => (naturalOf? UInt16.size value).map UInt16.ofNat)
    default.server.port given[1]?
  let shutdownTimeout ← setting (naturalOf? UInt64.size) default.server.shutdownTimeout given[2]?
  return ⟨host, port, shutdownTimeout⟩

/-- The database settings that a section gives. -/
def databaseIn? (value : Toml.Value) : Option DatabaseSettings := do
  let given ← givenBy ["url", "max_connections"] value
  let url ← setting textOf? default.database.url given[0]?
  let maxConnections ← setting (fun value => (naturalOf? UInt32.size value).map UInt32.ofNat)
    default.database.maxConnections given[1]?
  return ⟨url, maxConnections⟩

/-- The mail settings that a section gives. -/
def mailIn? (value : Toml.Value) : Option MailSettings := do
  let given ← givenBy ["smtp_url", "sender"] value
  let relayUrl ← setting (fun value => (textOf? value).map some) default.mail.relayUrl given[0]?
  let sender ← setting textOf? default.mail.sender given[1]?
  return ⟨relayUrl, sender⟩

/-- The log settings that a section gives. -/
def logIn? (value : Toml.Value) : Option LogSettings := do
  let given ← givenBy ["level", "file"] value
  let level ← setting textOf? default.log.level given[0]?
  let file ← setting (fun value => (textOf? value).map some) default.log.file given[1]?
  return ⟨level, file⟩

/-- The default settings overlaid with those of a document. -/
def ofDocument? (document : List (String × Toml.Value)) : Option Settings := do
  let server ← sectionOf? serverIn? default.server document "server"
  let database ← sectionOf? databaseIn? default.database document "database"
  let mail ← sectionOf? mailIn? default.mail document "mail"
  let log ← sectionOf? logIn? default.log document "logging"
  return ⟨server, database, mail, log⟩

/-- The fault of a text that gives no settings. -/
def parseFault : Fault := .configuration "config parse error"

/-- Reads settings from the text of a document. -/
def parse (text : String) : Except Fault Settings :=
  match (Toml.parse? text).bind ofDocument? with
  | none => .error parseFault
  | some settings => .ok settings

/-- Reads settings from the bytes of a file, if there is one. -/
def ofFile : Option (List UInt8) → Except Fault Settings
  | none => .error (.file .notFound)
  | some bytes =>
      match Text.ofBytes? bytes with
      | none => .error (.file .invalidData)
      | some text => parse text

/-! ## The environment -/

/-- The name of the variable with the database URL. -/
def databaseUrlVariable : String := "USERGATE_DATABASE_URL"

/-- The name of the variable with the relay's URL. -/
def relayUrlVariable : String := "USERGATE_SMTP_URL"

/-- A text that is given and not empty. -/
def nonEmpty? : Option String → Option String
  | some text => if text.isEmpty then none else some text
  | none => none

/-- The settings overlaid with those of the environment. -/
def override (settings : Settings) (environment : Environment) : Settings :=
  { settings with
    database := { settings.database with
      url := (nonEmpty? environment.databaseUrl).getD settings.database.url }
    mail := { settings.mail with
      relayUrl := (nonEmpty? environment.relayUrl).or settings.mail.relayUrl } }

/-! ## Use -/

/-- Checks that the settings can be used. -/
def validate (settings : Settings) : Except Fault Unit :=
  if Text.isBlank settings.database.url then
    .error (.configuration "database.url must not be empty")
  else if settings.database.maxConnections == 0 then
    .error (.configuration "database.max_connections must be at least 1")
  else if Text.isBlank settings.mail.sender then
    .error (.configuration "mail.sender must not be empty")
  else .ok ()

/-- The host and the port to listen on. -/
def bindAddress (settings : Settings) : String :=
  settings.server.host ++ ":" ++ toString settings.server.port.toNat

/-- The socket address to listen on. -/
def socketAddress (settings : Settings) : Except Fault Net.SocketAddress :=
  match Net.SocketAddress.parse? settings.bindAddress with
  | none => .error (.configuration "invalid server address: invalid socket address syntax")
  | some address => .ok address

end Settings

end Gatehouse
