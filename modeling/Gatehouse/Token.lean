import Gatehouse.Digest.Sha256
import Gatehouse.Encoding.Base32
import Gatehouse.Instant
import Gatehouse.Password.Scheme

/-!
# Tokens

A token lets its holder act for an account in one scope until it expires.  Its plaintext is a
random draw in base 32 and is handed out once; what is kept is the SHA-256 digest of the
plaintext.
-/

namespace Gatehouse

set_option autoImplicit false

/-- What a token is good for. -/
inductive Scope where
  /-- Calling the service. -/
  | access
  /-- Obtaining a new session. -/
  | refresh
  /-- Activating an account. -/
  | activation
  /-- Setting a new password. -/
  | passwordReset
  deriving DecidableEq, Repr

namespace Scope

/-- All scopes. -/
def all : List Scope := [.access, .refresh, .activation, .passwordReset]

/-- The text a scope is stored as. -/
def tag : Scope → String
  | .access => "token:access"
  | .refresh => "token:refresh"
  | .activation => "token:activate"
  | .passwordReset => "token:resetpwd"

/-- The scope stored as a text. -/
def ofTag? (tag : String) : Option Scope :=
  all.find? fun scope => scope.tag == tag

theorem tag_injective {former latter : Scope} (same : former.tag = latter.tag) :
    former = latter := by
  cases former <;> cases latter <;> first | rfl | exact absurd same (by decide)

theorem ofTag?_tag (scope : Scope) : ofTag? scope.tag = some scope := by
  cases scope <;> decide

/-- How long a token is usually good for. -/
def lifetime : Scope → Duration
  | .access => .ofSeconds (24 * 60 * 60)
  | .refresh => .ofSeconds (7 * 24 * 60 * 60)
  | .activation => .ofSeconds (3 * 24 * 60 * 60)
  | .passwordReset => .ofSeconds (60 * 60)

end Scope

/-- A token as it is kept. -/
structure Token where
  digest : List UInt8
  accountId : Int
  expiry : Instant
  scope : Scope
  deriving DecidableEq, Repr

/-- A token at the moment it is handed out, with its plaintext. -/
structure IssuedToken where
  plaintext : String
  token : Token
  deriving DecidableEq, Repr

namespace Token

/-- The digest under which a plaintext is kept. -/
def digestOf (plaintext : String) : List UInt8 :=
  Digest.Sha256.digest (Text.bytes plaintext)

/-- The plaintext made from a random draw. -/
def plaintextOf (draw : Draw) : String :=
  String.ofList (Encoding.Base32.encode draw.toList)

/-- Every plaintext has the length that is asked of a token text. -/
theorem utf8ByteSize_plaintextOf (draw : Draw) :
    (plaintextOf draw).utf8ByteSize = Validation.tokenLength := by
  rw [plaintextOf, Text.utf8ByteSize_ofList_of_ascii fun _ => Encoding.Base32.toNat_of_mem_encode,
    Encoding.Base32.length_encode, Vector.length_toList]
  rfl

/-- Whether a token is no longer good: its expiry is not later than now. -/
def isExpired (token : Token) (now : Instant) : Bool :=
  token.expiry.isAtMost now

end Token

/-- What is logged of a token that is handed out: all but its plaintext. -/
def IssuedToken.logText (issued : IssuedToken) : String :=
  issued.token.scope.tag ++ " of account " ++ toString issued.token.accountId ++ ", good until "
    ++ issued.token.expiry.rfc3339

/-- The token made from a random draw, good for a lifetime from now. -/
def IssuedToken.ofDraw (draw : Draw) (now : Instant) (accountId : Int) (lifetime : Duration)
    (scope : Scope) : IssuedToken :=
  let plaintext := Token.plaintextOf draw
  ⟨plaintext, ⟨Token.digestOf plaintext, accountId, now.plus lifetime, scope⟩⟩

end Gatehouse
