import Gatehouse.Text.Blank
import Gatehouse.Text.Dictionary

/-!
# Mail templates

A template is a subject and two bodies with placeholders, which are names between double braces.
A text is filled in one pass from left to right: what stands in front of the next opening braces is
taken over, the name between them and the next closing braces is looked up, and the pass goes on
behind these.  A value is put out as it is, so that it is never taken for a part of the text.

The first placeholder without a value is a fault, and so are double braces that are opened and not
closed, unless a placeholder before them lacks its value.
-/

namespace Gatehouse.Mail

set_option autoImplicit false

/-! ## Braces -/

/-- The characters before and behind the first place where a character stands twice. -/
def cutAtPair (mark : Char) : List Char → Option (List Char × List Char)
  | [] => none
  | [_] => none
  | c :: d :: rest =>
      if c = mark ∧ d = mark then some ([], rest)
      else (cutAtPair mark (d :: rest)).map fun (before, behind) => (c :: before, behind)

/-- What is behind a pair is shorter than the whole by two characters at least. -/
theorem length_of_cutAtPair {mark : Char} {cs before behind : List Char}
    (cut : cutAtPair mark cs = some (before, behind)) : behind.length + 2 ≤ cs.length := by
  induction cs generalizing before behind with
  | nil => simp [cutAtPair] at cut
  | cons c rest ih =>
      cases rest with
      | nil => simp [cutAtPair] at cut
      | cons d rest =>
          rw [cutAtPair] at cut
          split at cut
          · simp only [Option.some.injEq, Prod.mk.injEq] at cut
            simp [← cut.2]
          · obtain ⟨⟨front, back⟩, found, same⟩ := Option.map_eq_some_iff.1 cut
            simp only [Prod.mk.injEq] at same
            have shorter := ih (same.2 ▸ found)
            simp only [List.length_cons] at shorter ⊢
            omega

/-! ## Filling -/

/-- The values that the names of placeholders stand for. -/
abbrev Values : Type := Text.Dictionary

/-- Why a template cannot be filled. -/
inductive FillFault where
  /-- A placeholder's name has no value. -/
  | missing (name : String)
  /-- A placeholder is opened and not closed. -/
  | unterminated
  deriving DecidableEq, Repr

/-- The wording of a fault. -/
def FillFault.message : FillFault → String
  | .missing name => "missing mail data: " ++ name
  | .unterminated => "unterminated placeholder"

/-- The name of a placeholder, which may stand between blanks. -/
def placeholderName (inside : List Char) : String :=
  String.ofList (Text.trim inside)

/-- Fills the placeholders of the text that is left, behind what has been put out so far. -/
def fillFrom (values : Values) (output rest : List Char) : Except FillFault (List Char) :=
  match _opened : cutAtPair '{' rest with
  | none => .ok (output ++ rest)
  | some (front, behind) =>
      match _closed : cutAtPair '}' behind with
      | none => .error .unterminated
      | some (inside, rest) =>
          match values.get? (placeholderName inside) with
          | none => .error (.missing (placeholderName inside))
          | some value => fillFrom values (output ++ front ++ value.toList) rest
  termination_by rest.length
  decreasing_by
    have := length_of_cutAtPair _opened
    have := length_of_cutAtPair _closed
    omega

/-- Fills the placeholders of a text. -/
def fill (text : String) (values : Values) : Except FillFault String :=
  (fillFrom values [] text.toList).map String.ofList

/-! ## Templates -/

/-- A kind of mail that the service sends. -/
inductive Template where
  /-- Asks a new user, or one with a new address, to activate the account. -/
  | activation
  /-- Hands out a token with which a new password can be set. -/
  | passwordReset
  deriving DecidableEq, Repr

/-- The texts of a mail: either those of a template or those filled in. -/
structure Texts where
  subject : String
  plain : String
  html : String
  deriving DecidableEq, Repr

namespace Template

/-- The name of a template. -/
def name : Template → String
  | .activation => "activation"
  | .passwordReset => "password_reset"

/-- Lines as one text, each with its line end. -/
def lines (texts : List String) : String :=
  String.join (texts.map fun text => text ++ "\n")

/-- The plain text of an activation mail. -/
def activationPlain : String :=
  lines
    ["Hi,",
     "",
     "Thanks for signing up. Please send a request to PUT /v1/users/activate with",
     "the following body to activate your account:",
     "",
     "\x7b\"token\": \"\x7b\x7bactivationToken\x7d\x7d\"\x7d",
     "",
     "This token is valid for 3 days and can only be used once.",
     "",
     "Thanks,",
     "The usergate team"]

/-- The formatted text of an activation mail. -/
def activationHtml : String :=
  lines
    ["<!doctype html>",
     "<html>",
     "<body>",
     "<p>Hi,</p>",
     "<p>Thanks for signing up. Please send a request to <code>PUT /v1/users/activate</code>",
     "with the following body to activate your account:</p>",
     "<pre><code>\x7b\"token\": \"\x7b\x7bactivationToken\x7d\x7d\"\x7d</code></pre>",
     "<p>This token is valid for 3 days and can only be used once.</p>",
     "<p>Thanks,<br>The usergate team</p>",
     "</body>",
     "</html>"]

/-- The plain text of a reset mail. -/
def resetPlain : String :=
  lines
    ["Hi,",
     "",
     "We received a request to reset the password for \x7b\x7bemail\x7d\x7d. Send a request to",
     "PUT /v1/users/password/update with the following body and your new password:",
     "",
     "\x7b\"token\": \"\x7b\x7bresetPasswordToken\x7d\x7d\", \"password\": \"<new password>\"\x7d",
     "",
     "This token is valid for 1 hour. If you did not ask for a reset, ignore this",
     "message.",
     "",
     "Thanks,",
     "The usergate team"]

/-- The formatted text of a reset mail. -/
def resetHtml : String :=
  lines
    ["<!doctype html>",
     "<html>",
     "<body>",
     "<p>Hi,</p>",
     "<p>We received a request to reset the password for \x7b\x7bemail\x7d\x7d. Send a request to",
     "<code>PUT /v1/users/password/update</code> with the following body and your new password:</p>",
     "<pre><code>\x7b\"token\": \"\x7b\x7bresetPasswordToken\x7d\x7d\", \"password\": \"&lt;new password&gt;\"\x7d</code></pre>",
     "<p>This token is valid for 1 hour. If you did not ask for a reset, ignore this message.</p>",
     "<p>Thanks,<br>The usergate team</p>",
     "</body>",
     "</html>"]

/-- The texts of a template. -/
def texts : Template → Texts
  | .activation => ⟨"Welcome! Activate your account", activationPlain, activationHtml⟩
  | .passwordReset => ⟨"Reset your password", resetPlain, resetHtml⟩

/-- Fills a template. -/
def render (template : Template) (values : Values) : Except FillFault Texts :=
  let texts := template.texts
  match fill texts.subject values with
  | .error fault => .error fault
  | .ok subject =>
      match fill texts.plain values with
      | .error fault => .error fault
      | .ok plain =>
          match fill texts.html values with
          | .error fault => .error fault
          | .ok html => .ok ⟨subject, plain, html⟩

end Template

/-! ## Letters -/

/-- The values of an activation mail. -/
def activationValues (token : String) : Values :=
  Text.Dictionary.empty.insert "activationToken" token

/-- The values of a reset mail. -/
def resetValues (email token : String) : Values :=
  (Text.Dictionary.empty.insert "email" email).insert "resetPasswordToken" token

/-- The value of an activation mail is its token. -/
theorem get?_activationValues (token name : String) :
    (activationValues token).get? name =
      if name = "activationToken" then some token else none := by
  rw [activationValues, Text.Dictionary.get?_insert]
  rfl

/-- The values of a reset mail are the address that it goes to and its token. -/
theorem get?_resetValues (email token name : String) :
    (resetValues email token).get? name =
      if name = "resetPasswordToken" then some token
      else if name = "email" then some email
      else none := by
  rw [resetValues, Text.Dictionary.get?_insert, Text.Dictionary.get?_insert]
  rfl

/-- A mail that waits to be sent. -/
structure Letter where
  recipient : String
  template : Template
  values : Values

end Gatehouse.Mail
