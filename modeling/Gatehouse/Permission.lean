/-!
# Permissions

What an account may be allowed to do.  A stored permission is a code; the service knows two of
them, and a set of permissions is a pair of flags.
-/

namespace Gatehouse

set_option autoImplicit false

/-- A permission that the service knows. -/
inductive Permission where
  /-- Reading one's account. -/
  | readUser
  /-- Changing one's account. -/
  | writeUser
  deriving DecidableEq, Repr

namespace Permission

/-- The permissions, in the order of their codes. -/
def all : List Permission := [.readUser, .writeUser]

/-- The text a permission is stored as. -/
def code : Permission → String
  | .readUser => "user:read"
  | .writeUser => "user:write"

/-- The permission stored as a text. -/
def ofCode? (code : String) : Option Permission :=
  all.find? fun permission => permission.code == code

end Permission

/-- A set of permissions. -/
structure Permissions where
  readsUser : Bool
  writesUser : Bool
  deriving DecidableEq, Repr

namespace Permissions

/-- Whether a permission is in the set. -/
def includes (permissions : Permissions) : Permission → Bool
  | .readUser => permissions.readsUser
  | .writeUser => permissions.writesUser

/-- The set of the permissions in a list. -/
def ofList (permissions : List Permission) : Permissions :=
  ⟨permissions.contains .readUser, permissions.contains .writeUser⟩

/-- The number of permissions in the set. -/
def size (permissions : Permissions) : Nat :=
  (Permission.all.filter permissions.includes).length

end Permissions

end Gatehouse
