import Gatehouse.Store.Accounts
import Gatehouse.Store.Grants
import Gatehouse.Store.Tokens

/-!
# Writes that succeed

When a write of the store succeeds and what the tables are after it.  Creating an account succeeds
if its name and address are free, storing a token if its place and its digest are
(`createAccount_eq_ok`, `insertToken_eq_ok`).

Writing back a changed copy of an account succeeds if the row of that id has the version of the
copy and nobody else has the name or the address of the copy (`Accepts`).  This is decided in a
fixed order, `writeBack` looks for the version first and only then at what is taken.
-/

namespace Gatehouse.Tables

set_option autoImplicit false

variable {tables after : Tables}

/-! ## Accounts -/

theorem createAccount_eq_ok {now : Instant} {new : NewAccount} {account : Account} :
    tables.createAccount now new = .ok (account, after) ↔
      takenFault? tables.accounts new.username new.email = none ∧
        account = tables.nextAccount now new ∧ after = tables.withAccount account := by
  unfold createAccount
  cases taken : takenFault? tables.accounts new.username new.email with
  | none =>
      constructor
      · intro created
        cases created
        exact ⟨rfl, rfl, rfl⟩
      · rintro ⟨-, rfl, rfl⟩
        rfl
  | some fault =>
      constructor
      · intro impossible
        cases impossible
      · rintro ⟨impossible, -⟩
        cases impossible

/-- A copy of an account with the version that its row has once the copy is written back. -/
def advanced (changed : Account) : Account :=
  { changed with version := changed.version + 1 }

/-- Whether a changed copy of an account can be written back. -/
structure Accepts (tables : Tables) (changed : Account) : Prop where
  /-- The row that the copy was made from is there and has not been changed since. -/
  source : ∃ stored ∈ tables.accounts, stored.id = changed.id ∧ stored.version = changed.version
  /-- Nobody else has the name or the address. -/
  isFree : takenFault? (tables.othersThan changed.id) changed.username changed.email = none

theorem isSource_iff {changed stored : Account} :
    isSource changed stored = true ↔ stored.id = changed.id ∧ stored.version = changed.version := by
  simp [isSource]

/-- The row that a copy was made from is found by its id and its version. -/
theorem find?_isSource_eq_none {changed : Account} :
    tables.accounts.find? (isSource changed) = none ↔
      ∀ stored ∈ tables.accounts, stored.id = changed.id → stored.version ≠ changed.version := by
  simp only [List.find?_eq_none, isSource_iff, not_and, ne_eq]

/-- A copy whose row has been changed since stays unwritten, whatever name and address it has. -/
theorem writeBack_of_stale {changed : Account}
    (isStale : ∀ stored ∈ tables.accounts,
      stored.id = changed.id → stored.version ≠ changed.version) :
    tables.writeBack changed = (.error .notFound, changed, tables) := by
  have missing := find?_isSource_eq_none.2 isStale
  simp only [writeBack, updateRow, missing]

/-- A copy whose name or address is taken by somebody else stays unwritten. -/
theorem writeBack_of_taken {changed stored : Account} {fault : Fault}
    (member : stored ∈ tables.accounts) (sameId : stored.id = changed.id)
    (sameVersion : stored.version = changed.version)
    (isTaken : takenFault? (tables.othersThan changed.id) changed.username changed.email =
      some fault) :
    tables.writeBack changed = (.error fault, changed, tables) := by
  cases search : tables.accounts.find? (isSource changed) with
  | none => exact absurd sameVersion (find?_isSource_eq_none.1 search stored member sameId)
  | some found => simp only [writeBack, updateRow, search, isTaken]

/-- A copy that can be written back is, and gets the next version. -/
theorem writeBack_of_accepts {changed : Account} (accepts : tables.Accepts changed) :
    tables.writeBack changed = (.ok (), advanced changed, tables.withChange changed) := by
  obtain ⟨⟨stored, member, sameId, sameVersion⟩, isFree⟩ := accepts
  cases search : tables.accounts.find? (isSource changed) with
  | none => exact absurd sameVersion (find?_isSource_eq_none.1 search stored member sameId)
  | some found =>
      have version := (isSource_iff.1 (List.find?_some search)).2
      simp only [writeBack, updateRow, search, isFree, version, advanced]

theorem takenFault?_eq_conflict {others : List Account} {username email : String} {fault : Fault}
    (isTaken : takenFault? others username email = some fault) :
    ∃ field message, fault = .conflict field message := by
  unfold takenFault? at isTaken
  split at isTaken
  · cases isTaken
    exact ⟨_, _, rfl⟩
  · split at isTaken <;> cases isTaken
    exact ⟨_, _, rfl⟩

/-- A copy is out of date, or it has a name or an address of somebody else, or it is written
back. -/
theorem writeBack_cases (tables : Tables) (changed : Account) :
    ((∀ stored ∈ tables.accounts, stored.id = changed.id → stored.version ≠ changed.version) ∧
        tables.writeBack changed = (.error .notFound, changed, tables)) ∨
      (∃ field message,
        tables.writeBack changed = (.error (.conflict field message), changed, tables)) ∨
      (tables.Accepts changed ∧
        tables.writeBack changed = (.ok (), advanced changed, tables.withChange changed)) := by
  cases search : tables.accounts.find? (isSource changed) with
  | none =>
      have isStale := find?_isSource_eq_none.1 search
      exact .inl ⟨isStale, writeBack_of_stale isStale⟩
  | some stored =>
      have member := List.mem_of_find?_eq_some search
      obtain ⟨sameId, sameVersion⟩ := isSource_iff.1 (List.find?_some search)
      cases taken : takenFault? (tables.othersThan changed.id) changed.username changed.email with
      | some fault =>
          obtain ⟨field, message, rfl⟩ := takenFault?_eq_conflict taken
          exact .inr (.inl ⟨field, message, writeBack_of_taken member sameId sameVersion taken⟩)
      | none =>
          have accepts : tables.Accepts changed := ⟨⟨stored, member, sameId, sameVersion⟩, taken⟩
          exact .inr (.inr ⟨accepts, writeBack_of_accepts accepts⟩)

theorem updateAccount_eq_ok {changed written : Account} :
    tables.updateAccount changed = .ok (written, after) ↔
      tables.Accepts changed ∧ written = advanced changed ∧ after = tables.withChange changed := by
  constructor
  · intro done
    rw [updateAccount] at done
    rcases writeBack_cases tables changed with ⟨-, same⟩ | ⟨_, _, same⟩ | ⟨accepts, same⟩
    · rw [same] at done
      cases done
    · rw [same] at done
      cases done
    · rw [same] at done
      cases done
      exact ⟨accepts, rfl, rfl⟩
  · rintro ⟨accepts, rfl, rfl⟩
    rw [updateAccount, writeBack_of_accepts accepts]

/-! ## Grants -/

/-- The tables once a permission has been granted. -/
def granted (tables : Tables) (accountId : Int) (permission : Permission) : Tables :=
  if tables.permissionCodes.contains permission.code &&
      !tables.grants.contains (accountId, permission.code) then
    tables.withGrant accountId permission.code
  else tables

/-- What granting a permission leads to: only an account that is not there is refused a permission
that it would have to be given. -/
theorem grantOne_eq (accountId : Int) (permission : Permission) :
    tables.grantOne accountId permission =
      if tables.granted accountId permission = tables ∨ tables.hasAccount accountId = true then
        .ok (tables.granted accountId permission)
      else .error (constraintFault "grants") := by
  have grows : tables.withGrant accountId permission.code ≠ tables := by
    intro same
    have lengths := congrArg (fun tables => tables.grants.length) same
    simp [withGrant] at lengths
  unfold grantOne granted
  by_cases isKnown : permission.code ∈ tables.permissionCodes
  · by_cases isHeld : (accountId, permission.code) ∈ tables.grants
    · simp [isHeld]
    · cases tables.hasAccount accountId <;> simp [isKnown, isHeld, grows]
  · simp [isKnown]

theorem eq_granted_of_grantOne {accountId : Int} {permission : Permission}
    (done : tables.grantOne accountId permission = .ok after) :
    after = tables.granted accountId permission := by
  rw [grantOne_eq] at done
  split at done
  next =>
    cases done
    rfl
  next => cases done

@[simp] theorem accounts_granted (accountId : Int) (permission : Permission) :
    (tables.granted accountId permission).accounts = tables.accounts := by
  unfold granted
  split <;> rfl

@[simp] theorem tokens_granted (accountId : Int) (permission : Permission) :
    (tables.granted accountId permission).tokens = tables.tokens := by
  unfold granted
  split <;> rfl

@[simp] theorem lastAccountId_granted (accountId : Int) (permission : Permission) :
    (tables.granted accountId permission).lastAccountId = tables.lastAccountId := by
  unfold granted
  split <;> rfl

@[simp] theorem permissionCodes_granted (accountId : Int) (permission : Permission) :
    (tables.granted accountId permission).permissionCodes = tables.permissionCodes := by
  unfold granted
  split <;> rfl

@[simp] theorem hasAccount_granted (accountId id : Int) (permission : Permission) :
    (tables.granted accountId permission).hasAccount id = tables.hasAccount id := by
  simp only [hasAccount, account?, accounts_granted]

/-- A list of permissions is refused only if the account is not there. -/
theorem hasAccount_of_grant_error {accountId : Int} {permissions : List Permission} {fault : Fault}
    (failed : tables.grant accountId permissions = .error fault) :
    tables.hasAccount accountId = false := by
  induction permissions generalizing tables with
  | nil => cases failed
  | cons permission rest ih =>
      rw [grant, grantOne_eq] at failed
      split at failed
      next refused =>
        split at refused
        next => cases refused
        next absent => simpa using (not_or.1 absent).2
      next granted isGranted =>
        split at isGranted
        next =>
          cases isGranted
          simpa using ih failed
        next => cases isGranted

/-- What is granted to an account that is not there changes nothing. -/
theorem eq_of_grantOne_of_absent {accountId : Int} {permission : Permission}
    (isAbsent : tables.hasAccount accountId = false)
    (done : tables.grantOne accountId permission = .ok after) : after = tables := by
  rw [grantOne_eq] at done
  split at done
  next either =>
    cases done
    exact either.resolve_right (by simp [isAbsent])
  next => cases done

/-! ## Tokens -/

theorem insertTokenRow_eq_ok {row : TokenRow} :
    tables.insertTokenRow row = .ok after ↔
      tables.tokenIsTaken row = false ∧ tables.hasAccount row.accountId = true ∧
        after = tables.withTokenRow row := by
  unfold insertTokenRow
  cases tables.tokenIsTaken row <;> cases tables.hasAccount row.accountId <;> simp [eq_comm]

theorem insertToken_eq_ok {token : Token} :
    tables.insertToken token = .ok after ↔
      tables.tokenIsTaken (rowOfToken token) = false ∧ tables.hasAccount token.accountId = true ∧
        after = tables.withTokenRow (rowOfToken token) := by
  unfold insertToken
  cases taken : tables.tokenIsTaken (rowOfToken token) with
  | true => simp [taken]
  | false =>
      simp only [taken, Bool.false_eq_true, if_false, insertTokenRow_eq_ok, true_and]
      rfl

theorem isSlot_iff {accountId : Int} {scope : Scope} {row : TokenRow} :
    isSlot accountId scope row = true ↔ row.accountId = accountId ∧ row.scope = scope.tag := by
  simp [isSlot]

theorem tokenIsTaken_eq_false {row : TokenRow} :
    tables.tokenIsTaken row = false ↔
      ∀ other ∈ tables.tokens, other.digest ≠ row.digest ∧
        ¬(other.accountId = row.accountId ∧ other.scope = row.scope) := by
  simp [tokenIsTaken]

theorem mem_withoutToken {accountId : Int} {scope : Scope} {row : TokenRow} :
    row ∈ (tables.withoutToken accountId scope).tokens ↔
      row ∈ tables.tokens ∧ ¬(row.accountId = accountId ∧ row.scope = scope.tag) := by
  rw [withoutToken, List.mem_filter, Bool.not_eq_true', ← Bool.not_eq_true, isSlot_iff]

/-- Removing a token changes nothing if there is none. -/
theorem withoutToken_eq_self {accountId : Int} {scope : Scope}
    (isEmpty : ∀ row ∈ tables.tokens, ¬(row.accountId = accountId ∧ row.scope = scope.tag)) :
    tables.withoutToken accountId scope = tables := by
  have kept : tables.tokens.filter (fun row => !isSlot accountId scope row) = tables.tokens := by
    rw [List.filter_eq_self]
    intro row member
    rw [Bool.not_eq_true', ← Bool.not_eq_true, isSlot_iff]
    exact isEmpty row member
  rw [withoutToken, kept]

/-- The tables with a token that has been made, in place of the one that its account had in its
scope. -/
def withToken (tables : Tables) (issued : IssuedToken) : Tables :=
  (tables.withoutToken issued.token.accountId issued.token.scope).withTokenRow
    (rowOfToken issued.token)

theorem mem_withToken {issued : IssuedToken} {row : TokenRow} :
    row ∈ (tables.withToken issued).tokens ↔
      (row ∈ tables.tokens ∧ ¬(row.accountId = issued.token.accountId ∧
        row.scope = issued.token.scope.tag)) ∨ row = rowOfToken issued.token := by
  simp only [withToken, withTokenRow, List.mem_append, List.mem_singleton, mem_withoutToken]

/-- Whether a token has been made at a time for an account and a scope, and can be stored. -/
structure Mints (tables : Tables) (now : Instant) (accountId : Int) (scope : Scope)
    (issued : IssuedToken) : Prop where
  draw : ∃ draw, issued = .ofDraw draw now accountId scope.lifetime scope
  /-- No other token has its digest. -/
  isNew : ∀ row ∈ (tables.withoutToken accountId scope).tokens, row.digest ≠ issued.token.digest
  hasAccount : tables.hasAccount accountId = true

namespace Mints

variable {now : Instant} {accountId : Int} {scope : Scope} {issued : IssuedToken}

theorem accountId_eq (mints : tables.Mints now accountId scope issued) :
    issued.token.accountId = accountId := by
  obtain ⟨draw, rfl⟩ := mints.draw
  rfl

theorem scope_eq (mints : tables.Mints now accountId scope issued) :
    issued.token.scope = scope := by
  obtain ⟨draw, rfl⟩ := mints.draw
  rfl

theorem digest_eq (mints : tables.Mints now accountId scope issued) :
    issued.token.digest = Token.digestOf issued.plaintext := by
  obtain ⟨draw, rfl⟩ := mints.draw
  rfl

end Mints

end Gatehouse.Tables
