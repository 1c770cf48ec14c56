import Mathlib.Data.Set.Card
import Mathlib.Logic.Function.Basic
import Gatehouse.Proofs.Store.Integrity

/-!
# The tokens in the store as a map

The tokens of the store are a partial map: an account and a scope lead to the digest and the expiry
of one token, or to nothing (`Tables.tokenMap`).  Storing a token fills an empty place, removing
one empties its place, and removing those that are no longer good empties the places that they
have.  Each of these is said here of maps alone and then shown of the rows.

A digest is kept in one place at most.  It is what a token is looked up by, and whoever looks finds
the owner of that place (`Sound.accountByToken?_eq_some_iff`).
-/

namespace Gatehouse

set_option autoImplicit false

/-! ## Maps -/

/-- What is kept of a token in its place: the digest, and the expiry in whole milliseconds. -/
structure Slot where
  digest : List UInt8
  expiry : Int
  deriving DecidableEq, Repr

/-- A partial map from accounts and scopes to what is kept of their tokens. -/
abbrev TokenMap : Type :=
  Int × Scope → Option Slot

namespace Token

/-- Whether a token is one that can be made: its digest has the length of a digest, and its expiry
has a date. -/
structure IsProper (token : Token) : Prop where
  length_digest : token.digest.length = 32
  hasDate : token.expiry.HasDate

/-- A token with its expiry rounded down to a whole millisecond. -/
def rounded (token : Token) : Token :=
  { token with expiry := .ofMilliseconds token.expiry.milliseconds }

/-- The place of a token. -/
def place (token : Token) : Int × Scope :=
  (token.accountId, token.scope)

/-- What is kept of a token. -/
def slot (token : Token) : Slot :=
  ⟨token.digest, token.expiry.milliseconds⟩

end Token

namespace Slot

/-- The token that is kept in a place. -/
def token (slot : Slot) (place : Int × Scope) : Token :=
  ⟨slot.digest, place.1, .ofMilliseconds slot.expiry, place.2⟩

/-- The row that keeps a token in a place. -/
def row (slot : Slot) (place : Int × Scope) : TokenRow :=
  ⟨slot.digest, place.1, slot.expiry, place.2.tag⟩

/-- What a row keeps. -/
def ofRow (row : TokenRow) : Slot :=
  ⟨row.digest, row.expiry⟩

/-- Whether a token is still good. -/
def isGood (now : Instant) (slot : Slot) : Bool :=
  decide (now.milliseconds < slot.expiry)

end Slot

namespace TokenMap

/-- Whether a token may be put into its place: the place is empty, and no place keeps the
digest. -/
structure IsFree (map : TokenMap) (token : Token) : Prop where
  isEmpty : map token.place = none
  isNew : ∀ place slot, map place = some slot → slot.digest ≠ token.digest

/-- The map with a token put into its place. -/
def put (map : TokenMap) (token : Token) : TokenMap :=
  Function.update map token.place (some token.slot)

/-- The map with a place emptied. -/
def erase (map : TokenMap) (place : Int × Scope) : TokenMap :=
  Function.update map place none

/-- The map with the tokens that are still good. -/
def keepGood (map : TokenMap) (now : Instant) : TokenMap :=
  fun place => (map place).filter (Slot.isGood now)

/-- The places of the tokens that are no longer good. -/
def past (map : TokenMap) (now : Instant) : Set (Int × Scope) :=
  {place | ∃ slot, map place = some slot ∧ slot.expiry ≤ now.milliseconds}

/-- Whether an account has the token with a digest in a scope, still good. -/
def Holds (map : TokenMap) (now : Instant) (scope : Scope) (digest : List UInt8) (accountId : Int) :
    Prop :=
  ∃ slot, map (accountId, scope) = some slot ∧ slot.digest = digest ∧
    now.milliseconds < slot.expiry

end TokenMap

namespace Tables

/-- The tokens of the store as a map. -/
def tokenMap (tables : Tables) : TokenMap :=
  fun place => (tables.tokens.find? (isSlot place.1 place.2)).map Slot.ofRow

variable {tables after : Tables} {place : Int × Scope} {slot : Slot} {token : Token}
  {now : Instant}

/-! ## Rows and places -/

theorem isSlot_row : isSlot place.1 place.2 (slot.row place) = true :=
  isSlot_iff.2 ⟨rfl, rfl⟩

/-- A row is in a place exactly when it keeps something there. -/
theorem eq_row_of_isSlot {row : TokenRow} (inPlace : isSlot place.1 place.2 row = true) :
    row = (Slot.ofRow row).row place := by
  obtain ⟨sameId, sameScope⟩ := isSlot_iff.1 inPlace
  rw [Slot.row, ← sameId, ← sameScope]
  rfl

theorem row_inj {place' : Int × Scope} {slot' : Slot} :
    slot.row place = slot'.row place' ↔ slot = slot' ∧ place = place' := by
  constructor
  · intro same
    obtain ⟨sameDigest, sameId, sameExpiry, sameTag⟩ := TokenRow.mk.injEq .. ▸ same
    have samePlace : place = place' := Prod.ext sameId (Scope.tag_injective sameTag)
    obtain ⟨digest, expiry⟩ := slot
    exact ⟨congr (congrArg Slot.mk sameDigest) sameExpiry, samePlace⟩
  · rintro ⟨rfl, rfl⟩
    rfl

/-- In sound tables the map leads from a place to what the one row of the place keeps. -/
theorem Sound.tokenMap_eq_some (sound : tables.Sound) :
    tables.tokenMap place = some slot ↔ slot.row place ∈ tables.tokens := by
  rw [tokenMap, Option.map_eq_some_iff]
  constructor
  · rintro ⟨row, search, rfl⟩
    rw [← eq_row_of_isSlot (List.find?_some search)]
    exact List.mem_of_find?_eq_some search
  · intro isStored
    refine ⟨slot.row place, ?_, rfl⟩
    rw [← List.head?_filter, sound.filter_isSlot isStored isSlot_row]
    rfl

theorem tokenMap_eq_none :
    tables.tokenMap place = none ↔
      ∀ row ∈ tables.tokens, ¬(row.accountId = place.1 ∧ row.scope = place.2.tag) := by
  simp only [tokenMap, Option.map_eq_none_iff, List.find?_eq_none, isSlot_iff]

/-! ## Rows that stand for tokens -/

theorem readScope_eq_ok {tag : String} {scope : Scope} :
    readScope tag = .ok scope ↔ tag = scope.tag := by
  unfold readScope
  constructor
  · intro isRead
    split at isRead
    next scope isKnown =>
      cases isRead
      unfold Scope.ofTag? at isKnown
      have sameTag := List.find?_some isKnown
      exact (beq_iff_eq.1 sameTag).symm
    next => cases isRead
  · rintro rfl
    rw [Scope.ofTag?_tag]

/-- A row stands for a token that it is the row of, and that is kept in whole milliseconds. -/
theorem tokenOfRow_eq_ok {row : TokenRow} :
    tokenOfRow row = .ok token ↔
      row = rowOfToken token ∧ token.IsProper ∧ token.rounded = token := by
  constructor
  · intro isRead
    unfold tokenOfRow at isRead
    split at isRead
    next => cases isRead
    next isLong =>
      split at isRead
      next => cases isRead
      next expiry isDated =>
        obtain ⟨rfl, hasDate⟩ := Instant.ofMilliseconds?_eq_some.1 isDated
        split at isRead
        next => cases isRead
        next scope isScope =>
          cases isRead
          have sameTag := readScope_eq_ok.1 isScope
          refine ⟨?_, ⟨by simpa using isLong, hasDate⟩, ?_⟩
          · simp [rowOfToken, ← sameTag]
          · simp [Token.rounded]
  · rintro ⟨rfl, isProper, isRounded⟩
    have isDated : Instant.ofMilliseconds? token.expiry.milliseconds = some token.expiry :=
      Instant.ofMilliseconds?_eq_some.2 ⟨(congrArg Token.expiry isRounded).symm, isProper.hasDate⟩
    simp [tokenOfRow, rowOfToken, isProper.length_digest, isDated, readScope_eq_ok.2 rfl]

/-- The row of a token stands for it, but for the part of its expiry below a millisecond. -/
theorem tokenOfRow_rowOfToken (isProper : token.IsProper) :
    tokenOfRow (rowOfToken token) = .ok token.rounded := by
  have sameExpiry : token.rounded.expiry.milliseconds = token.expiry.milliseconds :=
    Instant.milliseconds_ofMilliseconds _
  refine tokenOfRow_eq_ok.2 ⟨?_, ⟨isProper.length_digest, ?_⟩, ?_⟩
  · simp [rowOfToken, Token.rounded]
  · rw [Instant.HasDate, sameExpiry]
    exact isProper.hasDate
  · simp [Token.rounded]

/-- Sound tables whose rows all stand for tokens. -/
structure Legible (tables : Tables) : Prop extends Sound tables where
  isRead : ∀ row ∈ tables.tokens, ∃ token, tokenOfRow row = .ok token

/-- In legible tables every row is in the place of a token. -/
theorem Legible.exists_eq_row (legible : tables.Legible) {row : TokenRow}
    (isStored : row ∈ tables.tokens) :
    ∃ place slot, tables.tokenMap place = some slot ∧ row = slot.row place := by
  obtain ⟨token, isRead⟩ := legible.isRead row isStored
  obtain ⟨rfl, -, -⟩ := tokenOfRow_eq_ok.1 isRead
  exact ⟨token.place, token.slot, legible.tokenMap_eq_some.2 isStored, rfl⟩

theorem Legible.filterTokens (legible : tables.Legible) (keep : TokenRow → Bool) :
    Legible { tables with tokens := tables.tokens.filter keep } where
  toSound := legible.toSound.filterTokens keep
  isRead := fun row member => legible.isRead row (List.mem_filter.1 member).1

theorem Legible.withTokenRow (legible : tables.Legible) (isProper : token.IsProper)
    (isFree : tables.tokenIsTaken (rowOfToken token) = false)
    (hasAccount : tables.hasAccount token.accountId = true) :
    (tables.withTokenRow (rowOfToken token)).Legible where
  toSound := legible.toSound.withTokenRow isFree hasAccount
  isRead := by
    intro row member
    rcases List.mem_append.1 member with isStored | isAdded
    · exact legible.isRead row isStored
    · rw [List.mem_singleton.1 isAdded]
      exact ⟨token.rounded, tokenOfRow_rowOfToken isProper⟩

/-! ## Reading -/

/-- A digest leads to the account that has it in the scope, as long as the token is still good. -/
theorem Sound.accountByToken?_eq_some_iff (sound : tables.Sound) {scope : Scope}
    {digest : List UInt8} {account : Account} :
    tables.accountByToken? scope digest now = some account ↔
      account ∈ tables.accounts ∧ tables.tokenMap.Holds now scope digest account.id := by
  rw [sound.accountByToken?_eq_some]
  refine and_congr_right fun _ => ?_
  constructor
  · rintro ⟨row, isStored, rfl, sameScope, isGood, sameId⟩
    have same : row = (Slot.ofRow row).row (account.id, scope) :=
      eq_row_of_isSlot (isSlot_iff.2 ⟨sameId, sameScope⟩)
    exact ⟨Slot.ofRow row, sound.tokenMap_eq_some.2 (same ▸ isStored), rfl, isGood⟩
  · rintro ⟨slot, isKept, rfl, isGood⟩
    exact ⟨_, sound.tokenMap_eq_some.1 isKept, rfl, rfl, isGood, rfl⟩

/-- Nobody is found by a digest exactly when no account has it. -/
theorem Sound.accountByToken?_eq_none_iff (sound : tables.Sound) {scope : Scope}
    {digest : List UInt8} {now : Instant} :
    tables.accountByToken? scope digest now = none ↔
      ∀ accountId, ¬tables.tokenMap.Holds now scope digest accountId := by
  constructor
  · rintro missed accountId ⟨slot, isKept, isSame, isGood⟩
    have isStored := sound.tokenMap_eq_some.1 isKept
    obtain ⟨owner, isOwner, rfl⟩ := hasAccount_iff.1 (sound.owners _ isStored)
    have isFound : tables.accountByToken? scope digest now = some owner :=
      sound.accountByToken?_eq_some_iff.2 ⟨isOwner, slot, isKept, isSame, isGood⟩
    cases missed.symm.trans isFound
  · intro nobody
    cases search : tables.accountByToken? scope digest now with
    | none => rfl
    | some owner => exact absurd (sound.accountByToken?_eq_some_iff.1 search).2 (nobody _)

/-- A digest that a place keeps is held by the account of that place only, while it is good. -/
theorem Sound.holds_iff (sound : tables.Sound) (isKept : tables.tokenMap place = some slot)
    {accountId : Int} :
    tables.tokenMap.Holds now place.2 slot.digest accountId ↔
      accountId = place.1 ∧ now.milliseconds < slot.expiry := by
  constructor
  · rintro ⟨other, isOther, sameDigest, isGood⟩
    have same : other.row (accountId, place.2) = slot.row place :=
      sound.eq_of_digest_eq (sound.tokenMap_eq_some.1 isOther) (sound.tokenMap_eq_some.1 isKept)
        sameDigest
    obtain ⟨rfl, samePlace⟩ := row_inj.1 same
    exact ⟨congrArg Prod.fst samePlace, isGood⟩
  · rintro ⟨rfl, isGood⟩
    exact ⟨slot, isKept, rfl, isGood⟩

/-- A token is read from a place exactly when the map has it there, in whole milliseconds. -/
theorem Sound.token?_eq_some_iff (sound : tables.Sound) :
    tables.token? place.1 place.2 = .ok (some token) ↔
      tables.tokenMap place = some token.slot ∧ token.place = place ∧ token.IsProper ∧
        token.rounded = token := by
  constructor
  · intro isRead
    unfold token? at isRead
    split at isRead
    next => cases isRead
    next row search =>
      cases isToken : tokenOfRow row with
      | error fault => simp [isToken, Except.map] at isRead
      | ok read =>
          obtain rfl : read = token := by simpa [isToken, Except.map] using isRead
          obtain ⟨rfl, isProper, isRounded⟩ := tokenOfRow_eq_ok.1 isToken
          obtain ⟨-, rfl⟩ : read.slot = read.slot ∧ read.place = place :=
            row_inj.1 (eq_row_of_isSlot (List.find?_some search))
          exact ⟨sound.tokenMap_eq_some.2 (List.mem_of_find?_eq_some search), rfl, isProper,
            isRounded⟩
  · rintro ⟨isKept, rfl, isProper, isRounded⟩
    obtain ⟨row, search, same⟩ := Option.map_eq_some_iff.1 isKept
    have isRow : row = rowOfToken token := by
      rw [eq_row_of_isSlot (List.find?_some search), same]
      rfl
    have isRead : tokenOfRow row = .ok token := tokenOfRow_eq_ok.2 ⟨isRow, isProper, isRounded⟩
    simp [token?, search, isRead, Except.map]

theorem token?_eq_none_iff :
    tables.token? place.1 place.2 = .ok none ↔ tables.tokenMap place = none := by
  unfold token? tokenMap
  cases tables.tokens.find? (isSlot place.1 place.2) with
  | none => simp
  | some row =>
      dsimp only
      cases tokenOfRow row <;> simp [Except.map]

/-- In legible tables the token of a place is the one that the map has there. -/
theorem Legible.token?_eq (legible : tables.Legible) (place : Int × Scope) :
    tables.token? place.1 place.2 =
      .ok ((tables.tokenMap place).map fun slot => slot.token place) := by
  cases isKept : tables.tokenMap place with
  | none => exact token?_eq_none_iff.2 isKept
  | some slot =>
      obtain ⟨token, isRead⟩ := legible.isRead _ (legible.tokenMap_eq_some.1 isKept)
      obtain ⟨sameRow, isProper, isRounded⟩ := tokenOfRow_eq_ok.1 isRead
      obtain ⟨rfl, rfl⟩ : slot = token.slot ∧ place = token.place := row_inj.1 sameRow
      have same : token.slot.token token.place = token := isRounded
      rw [legible.token?_eq_some_iff.2 ⟨isKept, rfl, isProper, isRounded⟩, Option.map_some, same]

/-! ## Storing -/

/-- A token is not taken in the rows exactly when the map has its place free. -/
theorem Legible.isFree_iff (legible : tables.Legible) :
    tables.tokenIsTaken (rowOfToken token) = false ↔ tables.tokenMap.IsFree token := by
  rw [tokenIsTaken_eq_false]
  constructor
  · intro isFree
    constructor
    · exact tokenMap_eq_none.2 fun row isStored => (isFree row isStored).2
    · exact fun place slot isKept => (isFree _ (legible.tokenMap_eq_some.1 isKept)).1
  · intro isFree row isStored
    obtain ⟨place, slot, isKept, rfl⟩ := legible.exists_eq_row isStored
    exact ⟨isFree.isNew place slot isKept, tokenMap_eq_none.1 isFree.isEmpty _ isStored⟩

theorem tokenMap_withTokenRow (isFree : tables.tokenIsTaken (rowOfToken token) = false) :
    (tables.withTokenRow (rowOfToken token)).tokenMap = tables.tokenMap.put token := by
  funext place
  rw [tokenMap, withTokenRow, List.find?_append]
  by_cases same : place = token.place
  · subst same
    have isEmpty : tables.tokens.find? (isSlot token.place.1 token.place.2) = none := by
      refine List.find?_eq_none.2 fun row isStored inPlace => ?_
      exact (tokenIsTaken_eq_false.1 isFree row isStored).2 (isSlot_iff.1 inPlace)
    have inPlace : isSlot token.place.1 token.place.2 (rowOfToken token) = true :=
      isSlot_iff.2 ⟨rfl, rfl⟩
    rw [isEmpty, TokenMap.put, Function.update_self, Option.none_or,
      List.find?_cons_of_pos inPlace]
    rfl
  · have isElsewhere : ¬isSlot place.1 place.2 (rowOfToken token) = true := by
      intro inPlace
      have moved : token.slot.row token.place = _ := eq_row_of_isSlot inPlace
      exact same (row_inj.1 moved).2.symm
    rw [TokenMap.put, Function.update_of_ne same, List.find?_cons_of_neg isElsewhere,
      List.find?_nil, Option.or_none]
    rfl

end Tables

namespace TokenMap

/-- What storing a token leads to, told by the map and the accounts: the token is put into its
place, or nothing happens for a reason. -/
inductive Stores (accounts : List Account) (map : TokenMap) (token : Token) :
    Except Fault TokenMap → Prop
  | stored (isFree : map.IsFree token) (hasOwner : ∃ owner ∈ accounts, owner.id = token.accountId) :
      Stores accounts map token (.ok (map.put token))
  | taken (isTaken : ¬map.IsFree token) : Stores accounts map token (.error Tables.tokenTaken)
  | ownerless (isFree : map.IsFree token)
      (noOwner : ¬∃ owner ∈ accounts, owner.id = token.accountId) :
      Stores accounts map token (.error (Tables.constraintFault "tokens"))

theorem Stores.unique {accounts : List Account} {map : TokenMap} {token : Token}
    {former latter : Except Fault TokenMap} (stores : Stores accounts map token former)
    (stores' : Stores accounts map token latter) : former = latter := by
  cases stores with
  | stored isFree hasOwner =>
      cases stores' with
      | stored => rfl
      | taken isTaken => exact absurd isFree isTaken
      | ownerless _ noOwner => exact absurd hasOwner noOwner
  | taken isTaken =>
      cases stores' with
      | taken => rfl
      | stored isFree | ownerless isFree => exact absurd isFree isTaken
  | ownerless isFree noOwner =>
      cases stores' with
      | stored _ hasOwner => exact absurd hasOwner noOwner
      | taken isTaken => exact absurd isFree isTaken
      | ownerless => rfl

end TokenMap

namespace Tables

variable {tables after : Tables} {place : Int × Scope} {slot : Slot} {token : Token}
  {now : Instant}

/-- Storing a token in the tables is storing it in the map. -/
theorem Legible.stores_insertToken (legible : tables.Legible) (token : Token) :
    TokenMap.Stores tables.accounts tables.tokenMap token
      ((tables.insertToken token).map tokenMap) := by
  cases isTaken : tables.tokenIsTaken (rowOfToken token) with
  | true =>
      have refused : tables.insertToken token = .error tokenTaken := by
        simp [insertToken, isTaken]
      have notFree : ¬tables.tokenMap.IsFree token := by
        rw [← legible.isFree_iff, isTaken]
        exact Bool.true_eq_false.mp
      rw [refused]
      exact .taken notFree
  | false =>
      have isFree := legible.isFree_iff.1 isTaken
      cases isOwned : tables.hasAccount token.accountId with
      | true =>
          rw [insertToken_eq_ok.2 ⟨isTaken, isOwned, rfl⟩, Except.map,
            tokenMap_withTokenRow isTaken]
          exact .stored isFree (hasAccount_iff.1 isOwned)
      | false =>
          have isUnowned : tables.hasAccount (rowOfToken token).accountId = false := isOwned
          have refused : tables.insertToken token = .error (constraintFault "tokens") := by
            simp [insertToken, insertTokenRow, isTaken, isUnowned]
          have noOwner : ¬∃ owner ∈ tables.accounts, owner.id = token.accountId := by
            rw [← hasAccount_iff, isOwned]
            exact Bool.false_ne_true
          rw [refused]
          exact .ownerless isFree noOwner

/-! ## Removing -/

theorem Sound.tokenMap_withoutToken (sound : tables.Sound) (place : Int × Scope) :
    (tables.withoutToken place.1 place.2).tokenMap = tables.tokenMap.erase place := by
  funext other
  refine Option.ext fun slot => ?_
  rw [(sound.withoutToken _ _).tokenMap_eq_some, mem_withoutToken, ← sound.tokenMap_eq_some]
  by_cases same : other = place
  · subst same
    simp [TokenMap.erase, Slot.row]
  · have isElsewhere : ¬(other.1 = place.1 ∧ other.2.tag = place.2.tag) :=
      fun inPlace => same (Prod.ext inPlace.1 (Scope.tag_injective inPlace.2))
    simp only [TokenMap.erase, Function.update_of_ne same]
    exact and_iff_left isElsewhere

/-- A place holds one token or none. -/
theorem Sound.removeToken_fst (sound : tables.Sound) (place : Int × Scope) :
    (tables.removeToken place.1 place.2).1 = if tables.tokenMap place = none then 0 else 1 := by
  unfold removeToken
  cases isKept : tables.tokenMap place with
  | none =>
      have isEmpty : tables.tokens.filter (isSlot place.1 place.2) = [] := by
        refine List.filter_eq_nil_iff.2 fun row isStored inPlace => ?_
        exact tokenMap_eq_none.1 isKept row isStored (isSlot_iff.1 inPlace)
      rw [isEmpty, if_pos rfl]
      rfl
  | some slot =>
      have isStored := sound.tokenMap_eq_some.1 isKept
      rw [sound.filter_isSlot isStored isSlot_row, if_neg (Option.some_ne_none slot)]
      rfl

theorem Sound.tokenMap_purgeExpired (sound : tables.Sound) (now : Instant) :
    (tables.purgeExpired now).2.tokenMap = tables.tokenMap.keepGood now := by
  have soundAfter : (tables.purgeExpired now).2.Sound := sound.filterTokens _
  funext place
  refine Option.ext fun slot => ?_
  rw [soundAfter.tokenMap_eq_some, TokenMap.keepGood, Option.filter_eq_some_iff,
    sound.tokenMap_eq_some]
  refine List.mem_filter.trans (and_congr_right fun _ => ?_)
  rw [Bool.not_eq_true', Slot.isGood, decide_eq_true_iff]
  exact decide_eq_false_iff_not.trans Int.not_le

/-- Each token that is no longer good has a place of its own. -/
theorem Legible.purgeExpired_fst (legible : tables.Legible) (now : Instant) :
    (tables.purgeExpired now).1 = (tables.tokenMap.past now).ncard := by
  have areApart : (tables.tokens.filter (isPast now)).Nodup :=
    (legible.tokens.filter _).imp fun apart same => apart.digest (congrArg TokenRow.digest same)
  have isRow {row : TokenRow} : row ∈ tables.tokens.filter (isPast now) ↔
      ∃ place slot, tables.tokenMap place = some slot ∧ slot.expiry ≤ now.milliseconds ∧
        row = slot.row place := by
    rw [List.mem_filter]
    constructor
    · rintro ⟨isStored, isOver⟩
      obtain ⟨place, slot, isKept, rfl⟩ := legible.exists_eq_row isStored
      exact ⟨place, slot, isKept, of_decide_eq_true isOver, rfl⟩
    · rintro ⟨place, slot, isKept, isOver, rfl⟩
      exact ⟨legible.tokenMap_eq_some.1 isKept, decide_eq_true isOver⟩
  let rowOf (place : Int × Scope) : TokenRow := ((tables.tokenMap place).getD ⟨[], 0⟩).row place
  have sameNumber : (tables.tokenMap.past now).ncard =
      {row | row ∈ tables.tokens.filter (isPast now)}.ncard := by
    refine Set.ncard_congr (fun place _ => rowOf place) ?_ ?_ ?_
    · rintro place ⟨slot, isKept, isOver⟩
      exact isRow.2 ⟨place, slot, isKept, isOver, by simp only [rowOf, isKept, Option.getD_some]⟩
    · intro place other _ _ same
      exact (row_inj.1 same).2
    · intro row member
      obtain ⟨place, slot, isKept, isOver, rfl⟩ := isRow.1 member
      exact ⟨place, ⟨slot, isKept, isOver⟩, by simp only [rowOf, isKept, Option.getD_some]⟩
  rw [sameNumber, ← List.coe_toFinset, Set.ncard_coe_finset,
    List.toFinset_card_of_nodup areApart]
  rfl

end Tables

end Gatehouse
