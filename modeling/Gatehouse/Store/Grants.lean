import Gatehouse.Store.Tables

/-!
# Grants in the store

Granting permissions to an account, and the permissions it holds.  A permission that is held
already stays held, and one that does not exist is not granted.  Codes that the service does not
know are passed over when permissions are read.
-/

namespace Gatehouse.Tables

set_option autoImplicit false

/-- Grants one permission. -/
def grantOne (tables : Tables) (accountId : Int) (permission : Permission) :
    Except Fault Tables :=
  let code := permission.code
  if !tables.permissionCodes.contains code then .ok tables
  else if tables.grants.contains (accountId, code) then .ok tables
  else if !tables.hasAccount accountId then .error (constraintFault "grants")
  else .ok (tables.withGrant accountId code)

/-- Grants permissions one after the other. -/
def grant (tables : Tables) (accountId : Int) : List Permission → Except Fault Tables
  | [] => .ok tables
  | permission :: rest =>
      match tables.grantOne accountId permission with
      | .error fault => .error fault
      | .ok granted => granted.grant accountId rest

/-- The codes of the permissions that an account holds. -/
def heldCodes (tables : Tables) (accountId : Int) : List String :=
  (tables.grants.filter fun grant => grant.1 == accountId).map Prod.snd

/-- The permissions that an account holds. -/
def permissionsOf (tables : Tables) (accountId : Int) : Permissions :=
  Permissions.ofList ((tables.heldCodes accountId).filterMap Permission.ofCode?)

end Gatehouse.Tables
