import Gatehouse.Fault
import Gatehouse.Mail.Mailbox
import Gatehouse.Mail.Relay
import Gatehouse.Mail.Template
import Gatehouse.Text.Quoted

/-!
# Mailers

What sends mail: a relay, and the mailbox in whose name mail is sent.  A letter is made into a
message by filling its template and reading its recipient, in this order; the message is what the
relay is handed.
-/

namespace Gatehouse.Mail

set_option autoImplicit false

/-- A relay with the sender of all mail. -/
structure Mailer where
  relay : Relay
  sender : Mailbox
  deriving DecidableEq, Repr

/-- A mail that is ready to be handed to a relay. -/
structure Message where
  sender : Mailbox
  recipient : Mailbox
  texts : Texts
  deriving DecidableEq, Repr

/-- Fills a template; what is wrong with the values is a fault of the mail. -/
def Template.fillWith (template : Template) (values : Values) : Except Fault Texts :=
  match template.render values with
  | .error fault => .error (.mail fault.message)
  | .ok texts => .ok texts

namespace Mailer

/-- Makes a mailer from the URL of a relay and the text of the sender's mailbox. -/
def ofTexts (relay sender : String) : Except Fault Mailer :=
  match Relay.parse? relay with
  | none => .error (.mail "SMTP setup failed")
  | some relay =>
      match Mailbox.parse? sender with
      | none => .error (.mail "Invalid sender address")
      | some sender => .ok ⟨relay, sender⟩

/-- What is logged of a mailer: its sender, and nothing of the relay's credentials. -/
def logText (mailer : Mailer) : String :=
  "SmtpMailer \x7b sender: " ++ Text.quoted mailer.sender.text ++ " \x7d"

/-- Makes a letter into a message. -/
def compose (mailer : Mailer) (letter : Letter) : Except Fault Message :=
  match letter.template.fillWith letter.values with
  | .error fault => .error fault
  | .ok texts =>
      match Mailbox.parse? letter.recipient with
      | none => .error (.mail "Invalid recipient address")
      | some recipient => .ok ⟨mailer.sender, recipient, texts⟩

end Mailer

end Gatehouse.Mail
