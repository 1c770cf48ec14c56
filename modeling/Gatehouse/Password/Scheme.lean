import Gatehouse.Digest.Argon2
import Gatehouse.Password.PhcString
import Gatehouse.Text.Utf8
import Gatehouse.Validation.Rules

/-!
# Storing and checking passwords

A password scheme turns a password and a random draw into the text that is stored, and checks a
candidate against a stored text.  The service is written against any scheme; `argon2id` is the one
it runs with.

A candidate is checked with whatever variant, version and parameters the stored text names, so
texts written with other costs stay usable.  A stored text that lacks its salt or its digest
matches nothing, and a candidate too long to be hashed matches none; a text that cannot be read,
or that asks for what the hash does not define, is a fault.
-/

namespace Gatehouse

set_option autoImplicit false

/-- Sixteen bytes from the random source. -/
abbrev Draw : Type := Vector UInt8 16

/-- Why a password cannot be hashed or checked. -/
inductive PasswordFault where
  /-- The password does not meet the policy. -/
  | policy
  /-- The hash function failed. -/
  | hashing (detail : String)
  /-- The stored text is not usable. -/
  | invalidHash
  deriving DecidableEq, Repr

/-- The wording of a password fault. -/
def PasswordFault.message : PasswordFault → String
  | .policy => Validation.passwordMessage
  | .hashing detail => "password hashing failed: " ++ detail
  | .invalidHash => "invalid password hash format"

/-- A way to store passwords. -/
structure PasswordScheme where
  /-- The text to store for a password. -/
  hash : String → Draw → Except PasswordFault String
  /-- Whether a candidate matches a stored text. -/
  verify : String → String → Except PasswordFault Bool

namespace PasswordScheme

open Digest (Argon2.Variant Argon2.Version Argon2.Parameters Argon2.Input)

/-! ## Names and limits -/

/-- The name of a variant. -/
def variantName : Argon2.Variant → String
  | .dependent => "argon2d"
  | .independent => "argon2i"
  | .hybrid => "argon2id"

/-- The variant with a name. -/
def variant? (name : String) : Option Argon2.Variant :=
  [Argon2.Variant.dependent, .independent, .hybrid].find? fun variant => variantName variant == name

/-- The version with a number; a stored text without a number means the newer one. -/
def version? : Option Nat → Option Argon2.Version
  | none => some .combining
  | some number => [Argon2.Version.overwriting, .combining].find? fun version =>
      version.code == number

/-- The costs of a stored text that names none. -/
def defaultCosts : Argon2.Parameters := ⟨19456, 2, 1⟩

/-- The costs of newly stored passwords. -/
def newCosts : Argon2.Parameters := ⟨65536, 3, 1⟩

/-- The number of bytes in the digest of newly stored passwords. -/
def newDigestLength : Nat := 32

/-! ## Checking -/

/-- Whether a parameter is one that stored texts may name, with a value of its kind. -/
def isKnownParameter (entry : String × String) : Bool :=
  let value := entry.2.toList
  let holds (limit : Nat) : Bool :=
    match Encoding.Base64.decode? value with
    | some bytes => decide (bytes.length ≤ limit)
    | none => false
  if entry.1 == "m" || entry.1 == "t" || entry.1 == "p" then (PhcString.decimal? value).isSome
  else if entry.1 == "keyid" then holds 8
  else if entry.1 == "data" then holds 32
  else false

/-- The cost that a stored text names, or the given one. -/
def cost (stored : PhcString) (name : String) (otherwise : Nat) : Nat :=
  ((stored.parameter name).bind fun value => PhcString.decimal? value.toList).getD otherwise

/-- The data that a stored text asks to hash along. -/
def associatedData (stored : PhcString) : List UInt8 :=
  ((stored.parameter "data").bind fun value => Encoding.Base64.decode? value.toList).getD []

/-- The inputs that a stored text prescribes for a candidate. -/
def inputFor? (stored : PhcString) (salt : String) (candidate : String) :
    Option Argon2.Input := do
  let variant ← variant? stored.algorithm
  let version ← version? stored.version
  if !stored.parameters.all isKnownParameter then none
  let costs : Argon2.Parameters :=
    ⟨cost stored "m" defaultCosts.memory, cost stored "t" defaultCosts.passes,
     cost stored "p" defaultCosts.lanes⟩
  let saltBytes ← Encoding.Base64.decode? salt.toList
  if costs.inRange && decide (8 ≤ saltBytes.length) then
    some ⟨variant, version, costs, Text.bytes candidate, saltBytes, associatedData stored⟩
  else none

/-- Checks a candidate against a stored text. -/
def verifyPhc (candidate stored : String) : Except PasswordFault Bool :=
  match PhcString.parse? stored with
  | none => .error .invalidHash
  | some parts =>
      match parts.salt, parts.digest with
      | some salt, some digest =>
          match inputFor? parts salt candidate with
          | none => .error .invalidHash
          | some input => .ok (Digest.Argon2.tag? input digest.length == some digest)
      | _, _ => .ok false

/-! ## Hashing -/

/-- The inputs for a newly stored password. -/
def newInput (password : String) (salt : Draw) : Argon2.Input :=
  ⟨.hybrid, .combining, newCosts, Text.bytes password, salt.toList, []⟩

/-- The record of a newly stored password. -/
def newRecord (password : String) (salt : Draw) : PhcString where
  algorithm := variantName .hybrid
  version := some Argon2.Version.combining.code
  parameters :=
    [("m", toString newCosts.memory), ("t", toString newCosts.passes),
     ("p", toString newCosts.lanes)]
  salt := some (String.ofList (Encoding.Base64.encode salt.toList))
  digest := some (Digest.Argon2.tag (newInput password salt) newDigestLength)

/-- The text to store for a password, which must meet the policy. -/
def hashPhc (password : String) (salt : Draw) : Except PasswordFault String :=
  if Validation.meetsPasswordPolicy password then .ok (newRecord password salt).render
  else .error .policy

/-- The scheme of the service: the hybrid variant, with a salt of sixteen bytes. -/
def argon2id : PasswordScheme where
  hash := hashPhc
  verify := verifyPhc

end PasswordScheme

end Gatehouse
