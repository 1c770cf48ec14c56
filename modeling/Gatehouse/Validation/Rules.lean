import Gatehouse.Text.Split
import Gatehouse.Validation.Report

/-!
# Field rules

The rules for usernames, email addresses, passwords and token texts, and the profiles that apply
them to what a user hands in.  Lengths count bytes.

An email address is cut at its first at-sign and its domain at its last dot; since neither a local
part nor a host may hold an at-sign and a top-level domain holds letters only, no other cut could
make a refused address acceptable.
-/

namespace Gatehouse.Validation

set_option autoImplicit false

/-! ## Characters -/

/-- Whether a character is an ASCII letter. -/
def isLetter (c : Char) : Bool :=
  c.isAlpha

/-- Whether a character is an ASCII letter or digit. -/
def isLetterOrDigit (c : Char) : Bool :=
  c.isAlphanum

/-- The symbols that a password may take its symbol from. -/
def passwordSymbols : List Char :=
  ['#', '?', '!', '@', '$', '%', '^', '&', '*', '_', '\\', '-']

/-- Whether a character may stand before the at-sign of an address. -/
def isLocalChar (c : Char) : Bool :=
  isLetterOrDigit c || ['.', '_', '%', '+', '-'].contains c

/-- Whether a character may stand in the host part of an address. -/
def isHostChar (c : Char) : Bool :=
  isLetterOrDigit c || c == '.' || c == '-'

/-! ## Predicates -/

/-- Whether a text has between `least` and `most` bytes. -/
def lengthBetween (text : String) (least most : Nat) : Bool :=
  decide (least ≤ text.utf8ByteSize) && decide (text.utf8ByteSize ≤ most)

/-- Whether a password has 8 to 72 bytes and holds an upper-case letter, a lower-case letter, a
digit and a symbol. -/
def meetsPasswordPolicy (password : String) : Bool :=
  lengthBetween password 8 72
    && password.toList.any Char.isUpper
    && password.toList.any Char.isLower
    && password.toList.any Char.isDigit
    && password.toList.any passwordSymbols.contains

/-- Whether a host and a top-level domain make a domain. -/
def isDomain (host topLevel : List Char) : Bool :=
  !host.isEmpty && host.all isHostChar && decide (2 ≤ (String.ofList topLevel).utf8ByteSize) &&
    topLevel.all isLetter

/-- Whether the characters of a text have the form of an email address. -/
def isAddress (cs : List Char) : Bool :=
  match Text.cutAtFirst (· == '@') cs with
  | none => false
  | some (localPart, domain) =>
      !localPart.isEmpty && localPart.all isLocalChar &&
        match Text.cutAtLast (· == '.') domain with
        | none => false
        | some (host, topLevel) => isDomain host topLevel

/-- Whether a text has the form of an email address. -/
def isEmail (email : String) : Bool :=
  isAddress email.toList

/-! ## Rules -/

/-- The message of a field that was left empty. -/
def missingMessage : String := "must be provided"

/-- The message of a password that does not meet the policy. -/
def passwordMessage : String :=
  "must be 8-72 characters long and contain at least one uppercase letter, "
    ++ "one lowercase letter, one number, and one symbol"

/-- The length of a token text, in bytes. -/
def tokenLength : Nat := 26

/-- Checks a username. -/
def checkUsername (report : Report) (username : String) : Report :=
  ((report.check (!username.isEmpty) "username" missingMessage).check
    (lengthBetween username 3 25) "username" "must be 3-25 characters long").check
    (username.toList.all isLetterOrDigit) "username" "must contain only letters and numbers"

/-- Checks an email address. -/
def checkEmail (report : Report) (email : String) : Report :=
  (report.check (!email.isEmpty) "email" missingMessage).check
    (isEmail email) "email" "must be a valid email address"

/-- Checks a password. -/
def checkPassword (report : Report) (password : String) : Report :=
  report.check (meetsPasswordPolicy password) "password" passwordMessage

/-- Checks the shape of a token text. -/
def checkToken (report : Report) (token : String) : Report :=
  (report.check (!token.isEmpty) "token" missingMessage).check
    (token.utf8ByteSize == tokenLength) "token" "must be 26 bytes long"

/-! ## Profiles -/

/-- The report on a registration. -/
def registrationReport (username email password : String) : Report :=
  checkPassword (checkEmail (checkUsername .empty username) email) password

/-- The report on a login. -/
def loginReport (username password : String) : Report :=
  checkPassword (checkUsername .empty username) password

/-- The report on a lone email address. -/
def emailReport (email : String) : Report :=
  checkEmail .empty email

/-- The report on a lone password. -/
def passwordReport (password : String) : Report :=
  checkPassword .empty password

/-- The report on a lone token text. -/
def tokenReport (token : String) : Report :=
  checkToken .empty token

/-- The report on the changes to an account; what is not given is not checked. -/
def changeReport (email password : Option String) : Report :=
  let afterEmail :=
    match email with
    | some email => checkEmail .empty email
    | none => .empty
  match password with
  | some password => checkPassword afterEmail password
  | none => afterEmail

end Gatehouse.Validation
