import Gatehouse.Store.Tables

/-!
# Identities

Who makes a call: nobody in particular, or the holder of an account.  An identity carries a copy
of the account as it was when the caller was recognised.
-/

namespace Gatehouse

set_option autoImplicit false

/-- Who makes a call. -/
inductive Identity where
  /-- Nobody in particular. -/
  | anonymous
  /-- The holder of an account. -/
  | known (account : Account)
  deriving DecidableEq, Repr

namespace Identity

/-- The account of a known caller. -/
def account? : Identity → Option Account
  | .anonymous => none
  | .known account => some account

/-- Whether the caller is not known. -/
def isAnonymous (identity : Identity) : Bool :=
  identity.account?.isNone

/-- The account of a caller who must be known. -/
def require (identity : Identity) : Except Fault Account :=
  match identity with
  | .anonymous => .error .unauthenticated
  | .known account => .ok account

/-- The fault of a caller who may not do something. -/
def notPermitted : Fault :=
  .permission "you do not have permission to perform this action"

/-- The fault of a caller whose account is not activated. -/
def notActivated : Fault :=
  .permission "your user account must be activated to access this resource"

/-- The account of a caller who must own the account with a username. -/
def owner (identity : Identity) (username : String) : Except Fault Account :=
  match identity.require with
  | .error fault => .error fault
  | .ok account => if account.username == username then .ok account else .error notPermitted

end Identity

end Gatehouse
