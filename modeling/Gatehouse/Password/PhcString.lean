import Gatehouse.Encoding.Base64
import Gatehouse.Text.Split

/-!
# Password hash strings

A stored password is one text that names the hash function, its version and parameters, the salt
and the digest, separated by dollar signs.  Version, parameters, salt and digest may each be
missing from the right, and the version or the parameters may be left out between.

A field counts as the version if it begins with `v=` and holds no comma, and as the parameters if
it holds an equals sign.  `PhcString.render` writes the text of a record and `PhcString.parse?`
reads it back.
-/

namespace Gatehouse

set_option autoImplicit false

/-- The parts of a stored password. -/
structure PhcString where
  algorithm : String
  version : Option Nat
  parameters : List (String × String)
  /-- The salt as it is written. -/
  salt : Option String
  digest : Option (List UInt8)
  deriving DecidableEq, Repr

namespace PhcString

/-! ## Characters and fields -/

/-- Whether a character may stand in the name of an algorithm or a parameter. -/
def isNameChar (c : Char) : Bool :=
  c.isLower || c.isDigit || c == '-'

/-- Whether a character may stand in a parameter's value or a salt. -/
def isValueChar (c : Char) : Bool :=
  c.isAlphanum || c == '/' || c == '+' || c == '.' || c == '-'

/-- Whether a text is a name: 1 to 32 characters. -/
def isName (cs : List Char) : Bool :=
  decide (1 ≤ cs.length) && decide (cs.length ≤ 32) && cs.all isNameChar

/-- Whether a text is a value: at most 64 characters. -/
def isValue (cs : List Char) : Bool :=
  decide (cs.length ≤ 64) && cs.all isValueChar

/-- Whether a text is a salt: a value of 4 characters at least. -/
def isSalt (cs : List Char) : Bool :=
  decide (4 ≤ cs.length) && isValue cs

/-- The number that a value writes in decimal: digits only, no leading zero, below 2^32. -/
def decimal? (cs : List Char) : Option Nat :=
  if cs.isEmpty || !cs.all Char.isDigit || (cs.head? == some '0' && decide (1 < cs.length)) then
    none
  else
    let value := cs.foldl (fun number c => number * 10 + (c.toNat - 48)) 0
    if value < UInt32.size then some value else none

/-- Reads one parameter. -/
def parameter? (cs : List Char) : Option (String × String) :=
  match Text.splitOn '=' cs with
  | [name, value] =>
      if isName name && isValue value then some (String.ofList name, String.ofList value) else none
  | _ => none

/-- Reads the field that lists the parameters, of 127 characters at most. -/
def parameters? (cs : List Char) : Option (List (String × String)) :=
  if cs.length ≤ 127 then (Text.splitOn ',' cs).mapM parameter? else none

/-- Whether a field is a version field. -/
def isVersionField (cs : List Char) : Bool :=
  ['v', '='].isPrefixOf cs && !cs.contains ','

/-- Reads the digest, which has 10 to 64 bytes. -/
def digest? (cs : List Char) : Option (List UInt8) := do
  let bytes ← Encoding.Base64.decode? cs
  if 10 ≤ bytes.length ∧ bytes.length ≤ 64 then some bytes else none

/-! ## Reading -/

/-- Reads the salt and the digest, which come last. -/
def parseTail (algorithm : String) (version : Option Nat) (parameters : List (String × String)) :
    List (List Char) → Option PhcString
  | [] => some ⟨algorithm, version, parameters, none, none⟩
  | [salt] =>
      if isSalt salt then some ⟨algorithm, version, parameters, some (String.ofList salt), none⟩
      else none
  | [salt, digest] => do
      let bytes ← digest? digest
      if isSalt salt then
        some ⟨algorithm, version, parameters, some (String.ofList salt), some bytes⟩
      else none
  | _ => none

/-- Reads the parameters, if there are any, and what follows. -/
def parseParameters (algorithm : String) (version : Option Nat) :
    List (List Char) → Option PhcString
  | [] => parseTail algorithm version [] []
  | field :: rest =>
      if field.contains '=' then do
        let parameters ← parameters? field
        parseTail algorithm version parameters rest
      else parseTail algorithm version [] (field :: rest)

/-- Reads the version, if there is one, and what follows. -/
def parseVersion (algorithm : String) : List (List Char) → Option PhcString
  | [] => parseParameters algorithm none []
  | field :: rest =>
      if isVersionField field then do
        let value := field.drop 2
        let version ← if isValue value then decimal? value else none
        parseParameters algorithm (some version) rest
      else parseParameters algorithm none (field :: rest)

/-- Reads a stored password. -/
def parse? (source : String) : Option PhcString :=
  match Text.splitOn '$' source.toList with
  | [] :: algorithm :: rest =>
      if isName algorithm then parseVersion (String.ofList algorithm) rest else none
  | _ => none

/-! ## Writing -/

/-- The parameters as one field. -/
def parameterText (parameters : List (String × String)) : String :=
  ",".intercalate (parameters.map fun entry => entry.1 ++ "=" ++ entry.2)

/-- The text of a stored password. -/
def render (stored : PhcString) : String :=
  let version :=
    match stored.version with
    | some version => "$v=" ++ toString version
    | none => ""
  let parameters :=
    if stored.parameters.isEmpty then "" else "$" ++ parameterText stored.parameters
  let salt :=
    match stored.salt with
    | some salt => "$" ++ salt
    | none => ""
  let digest :=
    match stored.digest with
    | some bytes => "$" ++ String.ofList (Encoding.Base64.encode bytes)
    | none => ""
  "$" ++ stored.algorithm ++ version ++ parameters ++ salt ++ digest

/-- The value of a parameter; of a repeated one the last counts. -/
def parameter (stored : PhcString) (name : String) : Option String :=
  (stored.parameters.reverse.find? fun entry => entry.1 == name).map Prod.snd

end PhcString

end Gatehouse
