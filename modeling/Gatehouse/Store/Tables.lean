import Gatehouse.Fault
import Gatehouse.Permission
import Gatehouse.Token

/-!
# Tables

What the service keeps: accounts, tokens, the codes of permissions, and which account holds which
permission.  A value of `Tables` is one state of the store.

This module has the records and the direct writes of rows with the constraints they must meet:

* account ids are given out in increasing order and never again, usernames are unique, and email
  addresses are unique up to the case of ASCII letters;
* token digests are unique, an account has at most one token in a scope, and a token belongs to
  an account;
* permission codes are unique, and a grant joins an account and a permission that exist, once.

Removing an account or a permission removes what belongs to it.
-/

namespace Gatehouse

set_option autoImplicit false

/-! ## Records -/

/-- An account.  The version counts the changes since the account was created, from 1. -/
structure Account where
  id : Int
  createdAt : Instant
  username : String
  email : String
  passwordHash : String
  isActivated : Bool
  version : Int
  deriving DecidableEq, Repr

/-- What an account is created from. -/
structure NewAccount where
  username : String
  email : String
  passwordHash : String
  deriving DecidableEq, Repr

/-- The row of a token.  The scope is a text, since a row may hold one that is not known. -/
structure TokenRow where
  digest : List UInt8
  accountId : Int
  /-- The last millisecond at which the token is still good is the one before. -/
  expiry : Int
  scope : String
  deriving DecidableEq, Repr

/-- One state of the store. -/
structure Tables where
  accounts : List Account
  tokens : List TokenRow
  permissionCodes : List String
  /-- Pairs of an account id and a permission code. -/
  grants : List (Int × String)
  /-- The greatest account id given out so far. -/
  lastAccountId : Int
  deriving DecidableEq, Repr

namespace Tables

/-- The store before anything is kept in it. -/
def fresh : Tables where
  accounts := []
  tokens := []
  permissionCodes := Permission.all.map Permission.code
  grants := []
  lastAccountId := 0

/-! ## Equality of addresses -/

/-- Whether two addresses count as one: equal up to the case of ASCII letters.  The comparison of
letters stops at a null character that both hold at the same place; behind it only the lengths in
bytes must agree. -/
def sameAddressChars : List Char → List Char → Bool
  | [], [] => true
  | c :: cs, d :: ds =>
      if c.toLower == d.toLower then
        if c == '\x00' then
          (String.ofList cs).utf8ByteSize == (String.ofList ds).utf8ByteSize
        else sameAddressChars cs ds
      else false
  | _, _ => false

/-- Whether two addresses count as one. -/
def sameAddress (former latter : String) : Bool :=
  sameAddressChars former.toList latter.toList

/-! ## Rows -/

/-- The account with an id. -/
def account? (tables : Tables) (id : Int) : Option Account :=
  tables.accounts.find? fun account => account.id == id

/-- Whether there is an account with an id. -/
def hasAccount (tables : Tables) (id : Int) : Bool :=
  (tables.account? id).isSome

/-- The fault of a write that breaks a constraint on the rows of a table. -/
def constraintFault (table : String) : Fault :=
  .storage ("constraint failed on " ++ table)

/-- Whether an account has a token in a scope, or any token has a digest. -/
def tokenIsTaken (tables : Tables) (row : TokenRow) : Bool :=
  tables.tokens.any fun other =>
    other.digest == row.digest || (other.accountId == row.accountId && other.scope == row.scope)

/-- The tables with one more token. -/
def withTokenRow (tables : Tables) (row : TokenRow) : Tables :=
  { tables with tokens := tables.tokens ++ [row] }

/-- Adds the row of a token. -/
def insertTokenRow (tables : Tables) (row : TokenRow) : Except Fault Tables :=
  if tables.tokenIsTaken row || !tables.hasAccount row.accountId then
    .error (constraintFault "tokens")
  else .ok (tables.withTokenRow row)

/-- The tables with one more grant. -/
def withGrant (tables : Tables) (accountId : Int) (code : String) : Tables :=
  { tables with grants := tables.grants ++ [(accountId, code)] }

/-- Adds a permission. -/
def insertPermission (tables : Tables) (code : String) : Except Fault Tables :=
  if tables.permissionCodes.contains code then .error (constraintFault "permissions")
  else .ok { tables with permissionCodes := tables.permissionCodes ++ [code] }

/-- Adds a grant and says how many rows were added: none if the permission does not exist. -/
def insertGrant (tables : Tables) (accountId : Int) (code : String) :
    Except Fault (Nat × Tables) :=
  if !tables.permissionCodes.contains code then .ok (0, tables)
  else if tables.grants.contains (accountId, code) || !tables.hasAccount accountId then
    .error (constraintFault "grants")
  else .ok (1, tables.withGrant accountId code)

/-- Removes a permission with all grants of it, and says how many permissions were removed. -/
def deletePermission (tables : Tables) (code : String) : Nat × Tables :=
  let removed := (tables.permissionCodes.filter fun other => other == code).length
  (removed,
   { tables with
     permissionCodes := tables.permissionCodes.filter fun other => !(other == code)
     grants := tables.grants.filter fun grant => !(grant.2 == code) })

/-- Removes an account with its tokens and grants, and says how many accounts were removed. -/
def deleteAccount (tables : Tables) (id : Int) : Nat × Tables :=
  let removed := (tables.accounts.filter fun account => account.id == id).length
  (removed,
   { tables with
     accounts := tables.accounts.filter fun account => !(account.id == id)
     tokens := tables.tokens.filter fun row => !(row.accountId == id)
     grants := tables.grants.filter fun grant => !(grant.1 == id) })

end Tables

end Gatehouse
