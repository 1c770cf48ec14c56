import Gatehouse.Json.Reader
import Gatehouse.Text.Dictionary
import Gatehouse.Text.Place

/-!
# Request forms

A request body is one JSON value that fills in a form: an object whose keys are the form's fields,
or an array that lists the values of the first fields in order.  A field that is not given is
empty, so that the rules for its content report it and not the reader.  A field holds a text; an
optional field may also be null.

The members of an object are gone through in the order of their keys, and the first that cannot be
taken decides; of a repeated key the last value counts.  What is wrong is told in words.  The words
for an unknown field quote its name, and the fault is given the name as it is quoted there; for a
value that does not fit they name no field, and the fault is given the first key whose member cannot
be taken when it is alone.
-/

namespace Gatehouse.Http

set_option autoImplicit false

/-! ## Faults -/

/-- Why a body cannot be taken as a form. -/
inductive BodyFault where
  /-- The body is longer than the limit. -/
  | tooLarge
  /-- The body holds no value. -/
  | empty
  /-- The body ends inside its value. -/
  | unfinished
  /-- The body cannot be read past this many bytes. -/
  | malformed (position : Nat)
  /-- A second value follows the first. -/
  | severalValues
  /-- The form declares no field of a name that is quoted so. -/
  | unknownField (name : String)
  /-- The value of a field does not fit. -/
  | invalidField (name : String)
  /-- The value fills in no form. -/
  | wrongType
  deriving DecidableEq, Repr

/-- The largest body, in bytes. -/
def bodyLimit : Nat := 1048576

/-- The fault with which reading a body's text failed.  Where it cannot be read on is known by line
and column. -/
def BodyFault.ofReadFault (body : List UInt8) : Json.ReadFault → BodyFault
  | .empty => .empty
  | .unfinished => .unfinished
  | .malformed position =>
      .malformed ((Text.Place.behind (body.take position)).offset body)
  | .severalValues => .severalValues

/-- The text that tells a client what is wrong. -/
def BodyFault.message : BodyFault → String
  | .tooLarge => "request body must not be larger than " ++ toString bodyLimit ++ " bytes"
  | .empty => "request body must not be empty"
  | .unfinished => "request body contains badly-formed JSON"
  | .malformed position =>
      "request body contains badly-formed JSON (at character " ++ toString position ++ ")"
  | .severalValues => "request body must only contain a single JSON value"
  | .unknownField name => "request body contains unknown field \"" ++ name ++ "\""
  | .invalidField name => "request body contains an invalid value for the \"" ++ name ++ "\" field"
  | .wrongType => "request body contains incorrect JSON type"

/-! ## Forms -/

/-- A field of a form. -/
structure Field where
  name : String
  /-- Whether null may stand for a missing value. -/
  isOptional : Bool
  deriving DecidableEq, Repr

/-- A form: the fields it declares, in order, and what their contents amount to.  The contents are
in the order of the fields, and a field that was not given has none. -/
structure Form (α : Type) where
  fields : List Field
  build : List (Option String) → α

/-- The content of a value given for a field, if it fits. -/
def Field.content? (field : Field) : Json → Option (Option String)
  | .string text => some (some text)
  | .null => if field.isOptional then some none else none
  | _ => none

/-- The contents of the first fields, given in order by the elements of an array. -/
def contentsOfElements : List Field → List Json → Option (List (Option String))
  | fields, [] => some (fields.map fun _ => none)
  | [], _ :: _ => none
  | field :: fields, element :: elements => do
      let content ← field.content? element
      let rest ← contentsOfElements fields elements
      return content :: rest

/-- The contents of the fields, given by the members of an object that all fit. -/
def contentsOfMembers (fields : List Field) (members : List (String × Json)) :
    List (Option String) :=
  fields.map fun field => ((Json.member? members field.name).bind field.content?).join

/-! ## Members that cannot be taken -/

/-- The members of an object in the order of their keys. -/
def inOrder (members : List (String × Json)) : List (String × Json) :=
  members.foldl
    (fun ordered member =>
      Text.Dictionary.insertEntry (fun _ => member.2) member.1 member.2 ordered)
    []

/-- Why a member of an object cannot be taken. -/
inductive Misfit where
  /-- No field has the key for its name. -/
  | unknownField (key : String)
  /-- The value does not fit the field. -/
  | invalidValue
  deriving DecidableEq, Repr

/-- Why a member of an object cannot be taken, if it cannot. -/
def misfit? (fields : List Field) (member : String × Json) : Option Misfit :=
  let named := fields.filter fun field => field.name == member.1
  if named.isEmpty then some (.unknownField member.1)
  else if named.all fun field => (field.content? member.2).isSome then none
  else some .invalidValue

/-- Why an object cannot be taken, if it cannot: the first of its members that cannot be taken
decides. -/
def firstMisfit? (fields : List Field) (members : List (String × Json)) : Option Misfit :=
  (inOrder members).findSome? (misfit? fields)

/-- The names of fields, each in backticks. -/
def quotedNames (fields : List Field) : List String :=
  fields.map fun field => "\x60" ++ field.name ++ "\x60"

/-- The words about an unknown field behind the backtick in front of its name: the name and the
names that would do. -/
def unknownFieldWords (fields : List Field) (key : String) : String :=
  key ++ "\x60, expected " ++
    match quotedNames fields with
    | [one, other] => one ++ " or " ++ other
    | [one] => one
    | names => "one of " ++ String.intercalate ", " names

/-- A text up to its first backtick. -/
def upToBacktick (text : String) : String :=
  String.ofList (text.toList.takeWhile fun c => c != '\x60')

/-- The fault that tells a client why an object cannot be taken. -/
def describe (fields : List Field) (members : List (String × Json)) : Misfit → BodyFault
  | .unknownField key => .unknownField (upToBacktick (unknownFieldWords fields key))
  | .invalidValue =>
      match (inOrder members).find? fun member => (firstMisfit? fields [member]).isSome with
      | some member => .invalidField member.1
      | none => .wrongType

/-- The fault of an object that does not fit. -/
def memberFault? (fields : List Field) (members : List (String × Json)) : Option BodyFault :=
  (firstMisfit? fields members).map (describe fields members)

/-! ## Filling in -/

/-- The contents of a form's fields, given by a JSON value. -/
def contents (fields : List Field) : Json → Except BodyFault (List (Option String))
  | .array elements =>
      match contentsOfElements fields elements with
      | some given => .ok given
      | none => .error .wrongType
  | .object members =>
      match memberFault? fields members with
      | some fault => .error fault
      | none => .ok (contentsOfMembers fields members)
  | _ => .error .wrongType

/-- Fills in a form from a JSON value. -/
def Form.decode {α : Type} (form : Form α) (value : Json) : Except BodyFault α :=
  (contents form.fields value).map form.build

/-- Fills in a form from the bytes of a body of any length. -/
def Form.read {α : Type} (form : Form α) (body : List UInt8) : Except BodyFault α :=
  match Json.read body with
  | .error fault => .error (.ofReadFault body fault)
  | .ok value => form.decode value

/-- Fills in a form from the bytes of a request body, which must not be too large. -/
def Form.receive {α : Type} (form : Form α) (body : List UInt8) : Except BodyFault α :=
  if body.length > bodyLimit then .error .tooLarge else form.read body

/-! ## The forms of the service -/

/-- What a new user hands in. -/
structure RegistrationForm where
  username : String
  email : String
  password : String
  deriving DecidableEq, Repr

/-- What a user hands in to log in. -/
structure CredentialsForm where
  username : String
  password : String
  deriving DecidableEq, Repr

/-- A single token, to activate an account or to refresh a session. -/
structure TokenForm where
  token : String
  deriving DecidableEq, Repr

/-- The address of the account whose password is to be reset. -/
structure ResetForm where
  email : String
  deriving DecidableEq, Repr

/-- A new password, with the token that allows setting it. -/
structure PasswordForm where
  token : String
  password : String
  deriving DecidableEq, Repr

/-- The changes an account's owner asks for; what is not given stays as it is. -/
structure AccountForm where
  email : Option String
  password : Option String
  deriving DecidableEq, Repr

/-- A field that holds a text. -/
def Field.required (name : String) : Field := ⟨name, false⟩

/-- A field that holds a text or null. -/
def Field.optional (name : String) : Field := ⟨name, true⟩

/-- The content at a position, empty if the field was not given. -/
def textAt (given : List (Option String)) (position : Nat) : String :=
  ((given[position]?).join).getD ""

/-- The form for registration. -/
def registrationForm : Form RegistrationForm where
  fields := [.required "username", .required "email", .required "password"]
  build := fun given => ⟨textAt given 0, textAt given 1, textAt given 2⟩

/-- The form for logging in. -/
def credentialsForm : Form CredentialsForm where
  fields := [.required "username", .required "password"]
  build := fun given => ⟨textAt given 0, textAt given 1⟩

/-- The form that carries a token. -/
def tokenForm : Form TokenForm where
  fields := [.required "token"]
  build := fun given => ⟨textAt given 0⟩

/-- The form that asks for a password reset. -/
def resetForm : Form ResetForm where
  fields := [.required "email"]
  build := fun given => ⟨textAt given 0⟩

/-- The form that sets a new password. -/
def passwordForm : Form PasswordForm where
  fields := [.required "token", .required "password"]
  build := fun given => ⟨textAt given 0, textAt given 1⟩

/-- The form that changes an account. -/
def accountForm : Form AccountForm where
  fields := [.optional "email", .optional "password"]
  build := fun given => ⟨(given[0]?).join, (given[1]?).join⟩

end Gatehouse.Http
