import Gatehouse.Store.Tables

/-!
# Tokens in the store

An account has at most one token in each scope.  Storing a second one, or one whose digest is
stored already, is a conflict; an expired token counts until it is removed.  The expiry is stored
in whole milliseconds.
-/

namespace Gatehouse.Tables

set_option autoImplicit false

/-! ## Rows and tokens -/

/-- The field that token conflicts are reported on. -/
def tokenField : String := "token"

/-- The fault of storing a token where one is stored already. -/
def tokenTaken : Fault :=
  .conflict tokenField "a token in this scope already exists"

/-- The fault of a scope that is not known. -/
def unknownScope (tag : String) : Fault :=
  .storage ("unknown token scope: " ++ tag)

/-- The fault of a permission that is not known. -/
def unknownPermission (code : String) : Fault :=
  .storage ("unknown permission: " ++ code)

/-- Reads a scope. -/
def readScope (tag : String) : Except Fault Scope :=
  match Scope.ofTag? tag with
  | some scope => .ok scope
  | none => .error (unknownScope tag)

/-- Reads a permission. -/
def readPermission (code : String) : Except Fault Permission :=
  match Permission.ofCode? code with
  | some permission => .ok permission
  | none => .error (unknownPermission code)

/-- The row a token is stored as. -/
def rowOfToken (token : Token) : TokenRow :=
  ⟨token.digest, token.accountId, token.expiry.milliseconds, token.scope.tag⟩

/-- The token a row stands for. -/
def tokenOfRow (row : TokenRow) : Except Fault Token :=
  if row.digest.length != 32 then .error (.storage "stored token hash is not 32 bytes")
  else
    match Instant.ofMilliseconds? row.expiry with
    | none => .error (.storage "stored token expiry out of range")
    | some expiry =>
        match readScope row.scope with
        | .error fault => .error fault
        | .ok scope => .ok ⟨row.digest, row.accountId, expiry, scope⟩

/-- Whether a row is the token of an account in a scope. -/
def isSlot (accountId : Int) (scope : Scope) (row : TokenRow) : Bool :=
  row.accountId == accountId && row.scope == scope.tag

/-! ## Operations -/

/-- Stores a token. -/
def insertToken (tables : Tables) (token : Token) : Except Fault Tables :=
  let row := rowOfToken token
  if tables.tokenIsTaken row then .error tokenTaken else tables.insertTokenRow row

/-- The token of an account in a scope, expired or not. -/
def token? (tables : Tables) (accountId : Int) (scope : Scope) : Except Fault (Option Token) :=
  match tables.tokens.find? (isSlot accountId scope) with
  | none => .ok none
  | some row => (tokenOfRow row).map some

/-- The tables without the token of an account in a scope. -/
def withoutToken (tables : Tables) (accountId : Int) (scope : Scope) : Tables :=
  { tables with tokens := tables.tokens.filter fun row => !isSlot accountId scope row }

/-- Removes the token of an account in a scope, and says how many tokens were removed. -/
def removeToken (tables : Tables) (accountId : Int) (scope : Scope) : Nat × Tables :=
  ((tables.tokens.filter (isSlot accountId scope)).length, tables.withoutToken accountId scope)

/-- Whether a row is no longer good. -/
def isPast (now : Instant) (row : TokenRow) : Bool :=
  decide (row.expiry ≤ now.milliseconds)

/-- Removes all tokens that are no longer good, and says how many there were. -/
def purgeExpired (tables : Tables) (now : Instant) : Nat × Tables :=
  ((tables.tokens.filter (isPast now)).length,
   { tables with tokens := tables.tokens.filter fun row => !isPast now row })

end Gatehouse.Tables
