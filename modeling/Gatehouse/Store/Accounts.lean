import Gatehouse.Store.Tables

/-!
# Accounts in the store

Creating, finding and changing accounts.  A change is made from a copy of the account: it applies
only while the stored version is still that of the copy, so of two changes made from one copy the
later fails.  A change that would take another account's name or address fails too.  When both are
taken, the address is the one reported.
-/

namespace Gatehouse.Tables

set_option autoImplicit false

/-! ## Taken names and addresses -/

/-- The fault of taking another account's username. -/
def usernameTaken : Fault :=
  .conflict "username" "a user with this username already exists"

/-- The fault of taking another account's email address. -/
def emailTaken : Fault :=
  .conflict "email" "a user with this email address already exists"

/-- The fault of a username and an email address among other accounts, if one of them is taken. -/
def takenFault? (others : List Account) (username email : String) : Option Fault :=
  if others.any fun other => sameAddress other.email email then some emailTaken
  else if others.any fun other => other.username == username then some usernameTaken
  else none

/-! ## Creating -/

/-- The account that is created next. -/
def nextAccount (tables : Tables) (now : Instant) (new : NewAccount) : Account where
  id := tables.lastAccountId + 1
  createdAt := now
  username := new.username
  email := new.email
  passwordHash := new.passwordHash
  isActivated := false
  version := 1

/-- The tables with one more account, whose id is the last that was given out. -/
def withAccount (tables : Tables) (account : Account) : Tables :=
  { tables with accounts := tables.accounts ++ [account], lastAccountId := account.id }

/-- Creates an account and gives it the next id. -/
def createAccount (tables : Tables) (now : Instant) (new : NewAccount) :
    Except Fault (Account × Tables) :=
  match takenFault? tables.accounts new.username new.email with
  | some fault => .error fault
  | none =>
      let account := tables.nextAccount now new
      .ok (account, tables.withAccount account)

/-! ## Finding -/

/-- The account with a username. -/
def accountNamed? (tables : Tables) (username : String) : Option Account :=
  tables.accounts.find? fun account => account.username == username

/-- The account with an email address. -/
def accountAt? (tables : Tables) (email : String) : Option Account :=
  tables.accounts.find? fun account => sameAddress account.email email

/-- The account that holds the token with a digest in a scope, if the token is still good. -/
def accountByToken? (tables : Tables) (scope : Scope) (digest : List UInt8) (now : Instant) :
    Option Account :=
  (tables.tokens.find? fun row =>
    row.digest == digest && row.scope == scope.tag && decide (now.milliseconds < row.expiry)).bind
      fun row => tables.account? row.accountId

/-! ## Changing -/

/-- What a stored account becomes when a change is applied to it. -/
def applyChange (stored changed : Account) : Account :=
  { stored with
    username := changed.username, email := changed.email, passwordHash := changed.passwordHash,
    isActivated := changed.isActivated, version := stored.version + 1 }

/-- Whether a stored account is the one a changed copy was made from. -/
def isSource (changed stored : Account) : Bool :=
  stored.id == changed.id && stored.version == changed.version

/-- The tables with a changed copy of an account written back. -/
def withChange (tables : Tables) (changed : Account) : Tables :=
  { tables with
    accounts := tables.accounts.map fun stored =>
      if isSource changed stored then applyChange stored changed else stored }

/-- The accounts other than the one with an id. -/
def othersThan (tables : Tables) (id : Int) : List Account :=
  tables.accounts.filter fun other => !(other.id == id)

/-- Writes a changed copy of an account into the row that it was made from, and gives the new
version of the row.  There is none if the row has been changed since, or is not there. -/
def updateRow (tables : Tables) (changed : Account) : Except Fault (Option Int × Tables) :=
  match tables.accounts.find? (isSource changed) with
  | none => .ok (none, tables)
  | some stored =>
      match takenFault? (tables.othersThan changed.id) changed.username changed.email with
      | some fault => .error fault
      | none => .ok (some (stored.version + 1), tables.withChange changed)

/-- Writes a changed copy of an account back.  The copy that was handed in gets the new version of
the row, and stays as it is if nothing is written. -/
def writeBack (tables : Tables) (changed : Account) : Except Fault Unit × Account × Tables :=
  match tables.updateRow changed with
  | .error fault => (.error fault, changed, tables)
  | .ok (none, tables) => (.error .notFound, changed, tables)
  | .ok (some version, tables) => (.ok (), { changed with version := version }, tables)

/-- Writes a changed copy of an account back, and gives the copy as it then stands. -/
def updateAccount (tables : Tables) (changed : Account) : Except Fault (Account × Tables) :=
  match tables.writeBack changed with
  | (.error fault, _, _) => .error fault
  | (.ok (), written, tables) => .ok (written, tables)

end Gatehouse.Tables
