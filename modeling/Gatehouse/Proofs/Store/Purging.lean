import Gatehouse.Proofs.Store.Writes
import Gatehouse.Store.Database

/-!
# Tables without tokens that are no longer good

`Tables.purged` leaves out the tokens that are no longer good at a time.  Nothing else is touched,
so that all which looks at accounts and grants alone does the same as before, and a write gives the
tables of the same write with those tokens left out.

Tokens that are left out can matter in two places only.  A look-up by a token passes over them from
that time on (`accountByToken?_purged`), and a token can be stored as before unless one of them has
its digest or its place (`insertToken_purged`).
-/

namespace Gatehouse

set_option autoImplicit false

/-- The tables without the tokens that are no longer good. -/
def Tables.purged (now : Instant) (tables : Tables) : Tables :=
  (tables.purgeExpired now).2

/-- The database without the tokens that are no longer good. -/
def Database.purged (now : Instant) (database : Database) : Database :=
  { database with tables := database.tables.purged now }

namespace Tables

variable {purge now : Instant} {tables after : Tables}

theorem isPast_iff {row : TokenRow} : isPast now row = true ↔ row.expiry ≤ now.milliseconds := by
  simp [isPast]

@[simp] theorem tokens_purged :
    (tables.purged now).tokens = tables.tokens.filter fun row => !isPast now row := rfl

@[simp] theorem accounts_purged : (tables.purged now).accounts = tables.accounts := rfl

@[simp] theorem grants_purged : (tables.purged now).grants = tables.grants := rfl

@[simp] theorem permissionCodes_purged :
    (tables.purged now).permissionCodes = tables.permissionCodes := rfl

@[simp] theorem hasAccount_purged (id : Int) :
    (tables.purged now).hasAccount id = tables.hasAccount id := rfl

/-! ## Writes -/

theorem createAccount_purged (new : NewAccount) :
    (tables.purged purge).createAccount now new =
      (tables.createAccount now new).map (Prod.map id (purged purge)) := by
  unfold createAccount
  rw [accounts_purged]
  cases takenFault? tables.accounts new.username new.email <;> rfl

theorem updateAccount_purged (changed : Account) :
    (tables.purged purge).updateAccount changed =
      (tables.updateAccount changed).map (Prod.map id (purged purge)) := by
  unfold updateAccount writeBack updateRow othersThan
  rw [accounts_purged]
  cases tables.accounts.find? (isSource changed) with
  | none => rfl
  | some stored =>
      dsimp only
      cases takenFault? (tables.accounts.filter fun other => !(other.id == changed.id))
        changed.username changed.email <;> rfl

theorem grantOne_purged (accountId : Int) (permission : Permission) :
    (tables.purged purge).grantOne accountId permission =
      (tables.grantOne accountId permission).map (purged purge) := by
  have sameGrant : (tables.purged purge).withGrant accountId permission.code =
      (tables.withGrant accountId permission.code).purged purge := rfl
  by_cases isKnown : permission.code ∈ tables.permissionCodes
  · by_cases isHeld : (accountId, permission.code) ∈ tables.grants
    · simp [grantOne, isHeld, Except.map]
    · cases isThere : tables.hasAccount accountId <;>
        simp [grantOne, isKnown, isHeld, isThere, sameGrant, Except.map]
  · simp [grantOne, isKnown, Except.map]

theorem withoutToken_purged (accountId : Int) (scope : Scope) :
    (tables.purged purge).withoutToken accountId scope =
      (tables.withoutToken accountId scope).purged purge := by
  have tokens : (tables.purged purge).tokens.filter (fun row => !isSlot accountId scope row) =
      (tables.withoutToken accountId scope).tokens.filter (fun row => !isPast purge row) := by
    simp only [withoutToken, tokens_purged, List.filter_filter, Bool.and_comm]
  rw [withoutToken, tokens]
  rfl

/-- A token that is still good is stored as before unless one that is left out has its digest or its
place. -/
theorem insertToken_purged {token : Token} (isGood : isPast purge (rowOfToken token) = false)
    (isClear : ∀ row ∈ tables.tokens, isPast purge row = true → row.digest ≠ token.digest ∧
      ¬(row.accountId = token.accountId ∧ row.scope = token.scope.tag)) :
    (tables.purged purge).insertToken token =
      (tables.insertToken token).map (purged purge) := by
  have isFree_iff : (tables.purged purge).tokenIsTaken (rowOfToken token) = false ↔
      tables.tokenIsTaken (rowOfToken token) = false := by
    rw [tokenIsTaken_eq_false, tokenIsTaken_eq_false]
    constructor
    · intro isFree row isStored
      cases isOld : isPast purge row with
      | true => exact isClear row isStored isOld
      | false => exact isFree row (List.mem_filter.2 ⟨isStored, by simp [isOld]⟩)
    · exact fun isFree row isKept => isFree row (List.mem_filter.1 isKept).1
  have sameTaken : (tables.purged purge).tokenIsTaken (rowOfToken token) =
      tables.tokenIsTaken (rowOfToken token) := by
    cases isTaken : tables.tokenIsTaken (rowOfToken token) with
    | false => exact isFree_iff.2 isTaken
    | true =>
        rw [← Bool.not_eq_false]
        exact fun isFree => nomatch isTaken.symm.trans (isFree_iff.1 isFree)
  have sameRow : (tables.withTokenRow (rowOfToken token)).purged purge =
      (tables.purged purge).withTokenRow (rowOfToken token) := by
    have tokens : (tables.tokens ++ [rowOfToken token]).filter (fun row => !isPast purge row) =
        tables.tokens.filter (fun row => !isPast purge row) ++ [rowOfToken token] := by
      simp [List.filter_append, isGood]
    simp only [purged, purgeExpired, withTokenRow, tokens]
  unfold insertToken insertTokenRow
  simp only [sameTaken, hasAccount_purged]
  split
  · rfl
  · split
    · rfl
    · exact congrArg Except.ok sameRow.symm

/-! ## Look-ups -/

/-- Tokens that are no longer good are passed over by a look-up at any later time. -/
theorem accountByToken?_purged (isLater : purge.milliseconds ≤ now.milliseconds) (scope : Scope)
    (digest : List UInt8) :
    (tables.purged purge).accountByToken? scope digest now =
      tables.accountByToken? scope digest now := by
  have sameRow : (tables.purged purge).tokens.find? (fun row => row.digest == digest &&
        row.scope == scope.tag && decide (now.milliseconds < row.expiry)) =
      tables.tokens.find? fun row => row.digest == digest && row.scope == scope.tag &&
        decide (now.milliseconds < row.expiry) := by
    rw [tokens_purged, List.find?_filter]
    congr 1
    funext row
    cases isOld : isPast purge row with
    | false => simp only [Bool.not_false, true_and, Bool.decide_eq_true]
    | true =>
        have isOver : ¬now.milliseconds < row.expiry := by
          have bound := isPast_iff.1 isOld
          omega
        simp [isOver]
  unfold accountByToken?
  rw [sameRow]
  rfl

/-- What a token stays good for longer is kept. -/
theorem filter_purged (isLater : purge.milliseconds ≤ now.milliseconds) :
    (tables.purged purge).tokens.filter (fun row => !isPast now row) =
      tables.tokens.filter fun row => !isPast now row := by
  rw [tokens_purged, List.filter_filter]
  refine List.filter_congr fun row _ => ?_
  cases isOld : isPast purge row with
  | false => simp
  | true =>
      have isOver : isPast now row = true :=
        isPast_iff.2 (Int.le_trans (isPast_iff.1 isOld) isLater)
      simp [isOver]

/-! ## What is left out -/

/-- Whether some tables hold no tokens that are no longer good beside those of other ones, and no
fewer ids have been given out. -/
structure Recedes (purge : Instant) (tables after : Tables) : Prop where
  tokens : ∀ row ∈ after.tokens, isPast purge row = true → row ∈ tables.tokens
  lastAccountId : tables.lastAccountId ≤ after.lastAccountId

theorem Recedes.of_tokens (sameTokens : after.tokens = tables.tokens)
    (noFewer : tables.lastAccountId ≤ after.lastAccountId) : Recedes purge tables after :=
  ⟨fun _ isStored _ => sameTokens ▸ isStored, noFewer⟩

end Tables

end Gatehouse
