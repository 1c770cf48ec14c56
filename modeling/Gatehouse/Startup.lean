import Gatehouse.Mail.Mailer
import Gatehouse.Settings

/-!
# Starting up

What the service sets up from its settings before it takes requests: the place of its data, the
mailer if a relay is configured, the address to listen on, and how it logs.  Settings that cannot
be used stop it, in the order in which the parts are set up.
-/

namespace Gatehouse

set_option autoImplicit false

/-- What is set up for the service. -/
structure Startup where
  database : DatabaseSettings
  /-- Without a mailer, mail is only logged. -/
  mailer : Option Mail.Mailer
  address : Net.SocketAddress
  level : Log.Level
  logTarget : Log.Target
  deriving DecidableEq, Repr

namespace Startup

/-- The mailer for the relay that is configured, if one is. -/
def mailerFor (settings : MailSettings) : Except Fault (Option Mail.Mailer) :=
  match Settings.nonEmpty? settings.relayUrl with
  | none => .ok none
  | some url => (Mail.Mailer.ofTexts url settings.sender).map some

/-- Sets the service up. -/
def ofSettings (settings : Settings) : Except Fault Startup := do
  settings.validate
  let mailer ← mailerFor settings.mail
  let address ← settings.socketAddress
  return ⟨settings.database, mailer, address, .ofText settings.log.level,
    .ofFile settings.log.file⟩

/-- The line that says where the service listens. -/
def text (startup : Startup) : String :=
  "Server configured on " ++ startup.address.text

end Startup

end Gatehouse
