import Gatehouse.Proofs.History.Tokens
import Gatehouse.Proofs.History.Versions
import Gatehouse.Proofs.Store.TokenMap

/-!
# When a token expires

Whether a token is still good is asked in three ways.  A token that is read from the store compares
its expiry with the time as exactly as the clock tells it; a lookup by its digest, and the removal
of the tokens that are no longer good, compare whole milliseconds.  The answers agree at every time
(`Run.expiry_is_told_alike`): what is read has a whole number of milliseconds, and such a number
lies behind the time exactly when it lies behind the milliseconds of the time, before and after the
start of 1970 alike.

Rounding is done once, when a token is stored.  Every token that is read goes back to one that an
event has stored (`Run.exists_stores`), with an expiry less than a millisecond later.
-/

namespace Gatehouse

set_option autoImplicit false

/-! ## Three ways to ask -/

/-- Whether the ways to ask if a stored token is still good agree at a time. -/
structure Tables.AgreesOnExpiry (tables : Tables) (stored : Token) (now : Instant) : Prop where
  /-- A token that is still good leads to its owner. -/
  resolves : stored.isExpired now = false ↔ ∃ owner ∈ tables.accounts,
    owner.id = stored.accountId ∧
      tables.accountByToken? stored.scope stored.digest now = some owner
  resolvesNot : stored.isExpired now = true ↔
    tables.accountByToken? stored.scope stored.digest now = none
  /-- A token that is still good is not removed with those that are not. -/
  isKept : stored.isExpired now = false ↔
    (tables.purgeExpired now).2.token? stored.accountId stored.scope = .ok (some stored)
  isPurged : stored.isExpired now = true ↔
    (tables.purgeExpired now).2.token? stored.accountId stored.scope = .ok none

/-- Whether a token is another one with its expiry rounded down by less than a millisecond. -/
structure Token.Rounds (stored token : Token) : Prop where
  digest : stored.digest = token.digest
  accountId : stored.accountId = token.accountId
  scope : stored.scope = token.scope
  notLater : stored.expiry.nanoseconds ≤ token.expiry.nanoseconds
  lessThanAMillisecond : token.expiry.nanoseconds < stored.expiry.nanoseconds + 1000000

namespace Token

variable {token : Token} {now : Instant}

/-- Tokens with the same row differ in their expiry only, and by less than a millisecond. -/
theorem rounds_of_row_eq {stored : Token} (isRounded : stored.rounded = stored)
    (sameRow : Tables.rowOfToken stored = Tables.rowOfToken token) : stored.Rounds token := by
  obtain ⟨sameDigest, sameId, sameExpiry, sameTag⟩ := TokenRow.mk.injEq .. ▸ sameRow
  have expiry : stored.expiry = .ofMilliseconds token.expiry.milliseconds := by
    rw [← sameExpiry]
    exact congrArg Token.expiry isRounded.symm
  have bounds := token.expiry.rounded_bounds
  rw [← expiry] at bounds
  exact ⟨sameDigest, sameId, Scope.tag_injective sameTag, bounds.1, bounds.2⟩

/-- A token in whole milliseconds has expired when the milliseconds of its expiry have passed. -/
theorem isExpired_of_rounded (isRounded : token.rounded = token) :
    token.isExpired now = true ↔ token.expiry.milliseconds ≤ now.milliseconds := by
  rw [← isRounded]
  exact Instant.isAtMost_ofMilliseconds.trans (by rw [rounded, Instant.milliseconds_ofMilliseconds])

end Token

namespace Tables

variable {tables : Tables} {stored : Token} {now : Instant} {place : Int × Scope} {slot : Slot}

/-- The digest of a place leads to the owner of the place while the token is good. -/
theorem Sound.exists_accountByToken?_iff (sound : tables.Sound)
    (isKept : tables.tokenMap place = some slot) :
    (∃ owner ∈ tables.accounts, owner.id = place.1 ∧
      tables.accountByToken? place.2 slot.digest now = some owner) ↔
        now.milliseconds < slot.expiry := by
  constructor
  · rintro ⟨owner, -, -, isFound⟩
    exact ((sound.holds_iff isKept).1 (sound.accountByToken?_eq_some_iff.1 isFound).2).2
  · intro isGood
    have hasOwner := sound.owners _ (sound.tokenMap_eq_some.1 isKept)
    obtain ⟨owner, isOwner, owns⟩ := hasAccount_iff.1 hasOwner
    have holds := (sound.holds_iff isKept).2 ⟨owns, isGood⟩
    exact ⟨owner, isOwner, owns, sound.accountByToken?_eq_some_iff.2 ⟨isOwner, holds⟩⟩

/-- The digest of a place leads to nobody once the token is no longer good. -/
theorem Sound.accountByToken?_eq_none_iff_of_kept (sound : tables.Sound)
    (isKept : tables.tokenMap place = some slot) :
    tables.accountByToken? place.2 slot.digest now = none ↔
      slot.expiry ≤ now.milliseconds := by
  rw [sound.accountByToken?_eq_none_iff]
  simp only [sound.holds_iff isKept, not_and, Int.not_lt, forall_eq]

/-- What a place keeps after the removal of the tokens that are no longer good. -/
theorem Sound.tokenMap_purgeExpired_of_kept (sound : tables.Sound)
    (isKept : tables.tokenMap place = some slot) :
    (tables.purgeExpired now).2.tokenMap place =
      if now.milliseconds < slot.expiry then some slot else none := by
  rw [sound.tokenMap_purgeExpired, TokenMap.keepGood, isKept, Option.filter_some, Slot.isGood]
  simp only [decide_eq_true_eq]

/-- In sound tables the ways to ask agree about every token that is read. -/
theorem Sound.agreesOnExpiry (sound : tables.Sound)
    (isRead : tables.token? place.1 place.2 = .ok (some stored)) (now : Instant) :
    tables.AgreesOnExpiry stored now := by
  obtain ⟨isKept, rfl, isProper, isRounded⟩ := sound.token?_eq_some_iff.1 isRead
  have isPast : stored.isExpired now = true ↔ stored.expiry.milliseconds ≤ now.milliseconds :=
    Token.isExpired_of_rounded isRounded
  have isGood : stored.isExpired now = false ↔ now.milliseconds < stored.expiry.milliseconds := by
    rw [← Bool.not_eq_true, isPast, Int.not_le]
  have soundAfter : (tables.purgeExpired now).2.Sound := sound.filterTokens _
  have isLeft : (tables.purgeExpired now).2.tokenMap stored.place = _ :=
    sound.tokenMap_purgeExpired_of_kept isKept
  have isFound : (tables.purgeExpired now).2.token? stored.place.1 stored.place.2 =
      .ok (some stored) ↔ _ := soundAfter.token?_eq_some_iff
  have isMissed : (tables.purgeExpired now).2.token? stored.place.1 stored.place.2 = .ok none ↔ _ :=
    token?_eq_none_iff
  rw [isLeft, Token.slot] at isFound isMissed
  constructor
  · exact isGood.trans (sound.exists_accountByToken?_iff isKept).symm
  · exact isPast.trans (sound.accountByToken?_eq_none_iff_of_kept isKept).symm
  · refine isGood.trans (.trans ?_ isFound.symm)
    simp [isProper, isRounded]
  · refine isPast.trans (.trans ?_ isMissed.symm)
    simp

end Tables

/-! ## Where tokens come from -/

variable {scheme : PasswordScheme} {past : History scheme} {database : Database}
  {event : Event scheme} {row : TokenRow}

/-- Whether an event has stored a token, one that it was given or one that it has made. -/
def Event.Stores (event : Event scheme) (token : Token) : Prop :=
  (event.action = .insertToken token ∧ event.answer?.isSome = true) ∨
    ∃ issued ∈ event.minted, issued.token = token

/-- A call leaves rows that were there before, and those of the tokens that it hands out. -/
theorem Service.Effect.of_mem_tokens {now : Instant} {before after : Tables} {call : Call}
    {reply : Reply} {letters : List Mail.Letter}
    (effect : Effect scheme now before call reply letters after) (isStored : row ∈ after.tokens) :
    row ∈ before.tokens ∨ ∃ issued ∈ reply.tokens, row = Tables.rowOfToken issued.token := by
  cases effect with
  | register =>
      rcases Tables.mem_withToken.1 isStored with ⟨isOld, -⟩ | isNew
      · rw [Tables.tokens_granted] at isOld
        exact .inl isOld
      · exact .inr ⟨_, .head _, isNew⟩
  | requestPasswordReset =>
      rcases Tables.mem_withToken.1 isStored with ⟨isOld, -⟩ | isNew
      · exact .inl (Tables.mem_withoutToken.1 isOld).1
      · exact .inr ⟨_, .head _, isNew⟩
  | updateAddress =>
      rcases Tables.mem_withToken.1 isStored with ⟨isOld, -⟩ | isNew
      · exact .inl (Tables.mem_withoutToken.1 isOld).1
      · exact .inr ⟨_, .head _, isNew⟩
  | login _ _ _ renews | refresh _ _ renews =>
      rcases (Tables.mem_withSession renews).1 isStored with ⟨isOld, -⟩ | isAccess | isRefresh
      · exact .inl isOld
      · exact .inr ⟨_, .head _, isAccess⟩
      · exact .inr ⟨_, .tail _ (.head _), isRefresh⟩
  | activate =>
      have isOld := (Tables.mem_withoutToken.1 isStored).1
      rw [Tables.tokens_granted] at isOld
      exact .inl isOld
  | updatePassword => exact .inl (Tables.mem_withoutToken.1 isStored).1
  | logout => exact .inl (Tables.mem_withoutToken.1 (Tables.mem_withoutToken.1 isStored).1).1
  | updateInPlace | getAccount | authenticate | requirePermissions | sessionExpiry =>
      exact .inl isStored

/-- An event leaves rows that were there before, and those of the tokens that it stores. -/
theorem Event.of_mem_tokens (isStored : row ∈ event.after.tables.tokens) :
    row ∈ event.before.tables.tokens ∨
      ∃ token, event.Stores token ∧ row = Tables.rowOfToken token := by
  have leads := event.leads
  simp only [Event.after, Event.Stores, Event.minted, Event.answer?] at isStored ⊢
  generalize event.outcome = outcome at leads isStored
  generalize event.action = action at leads
  cases leads with
  | failed | closed => exact .inl isStored
  | done effect =>
      cases effect with
      | call effect =>
          rcases effect.of_mem_tokens isStored with isOld | ⟨issued, isMinted, isNew⟩
          · exact .inl isOld
          · exact .inr ⟨_, .inr ⟨issued, isMinted, rfl⟩, isNew⟩
      | createToken =>
          rcases List.mem_append.1 isStored with isOld | isNew
          · exact .inl isOld
          · exact .inr ⟨_, .inr ⟨_, .head _, rfl⟩, List.mem_singleton.1 isNew⟩
      | insertToken =>
          rcases List.mem_append.1 isStored with isOld | isNew
          · exact .inl isOld
          · exact .inr ⟨_, .inl ⟨rfl, rfl⟩, List.mem_singleton.1 isNew⟩
      | removeToken => exact .inl (Tables.mem_withoutToken.1 isStored).1
      | purgeExpired => exact .inl (List.mem_filter.1 isStored).1
      | grant isGranted =>
          obtain ⟨_, rfl⟩ := Tables.exists_grants_of_grant isGranted
          exact .inl isStored
      | _ => exact .inl isStored

/-- Every row goes back to a token that an event has stored. -/
theorem Run.exists_stores {admits : History scheme → Action → Prop}
    (run : Run scheme admits past database) (isStored : row ∈ database.tables.tokens) :
    ∃ event ∈ past, ∃ token, event.Stores token ∧ row = Tables.rowOfToken token := by
  induction run with
  | start => cases isStored
  | step run moment action admitted ih =>
      rcases Event.of_mem_tokens isStored with isOld | ⟨token, stores, isNew⟩
      · obtain ⟨event, isEarlier, found⟩ := ih isOld
        exact ⟨event, List.mem_append_left _ isEarlier, found⟩
      · exact ⟨_, List.mem_append_right _ (.head _), token, stores, isNew⟩

/-! ## The expiry of stored tokens -/

/-- **Expiry is told alike.**  At every point of every run, and at every time: a token that is read
from the store has not expired if and only if its digest leads to its owner, and if and only if the
removal of the tokens that are no longer good keeps it.  It goes back to a token that an event has
stored, with the same digest, account and scope and an expiry that is less than a millisecond later,
if at all.  A token that is inserted is such a token at once. -/
theorem Run.expiry_is_told_alike {admits : History scheme → Action → Prop}
    (run : Run scheme admits past database) :
    (∀ accountId scope stored, database.tables.token? accountId scope = .ok (some stored) →
      (∀ now, database.tables.AgreesOnExpiry stored now) ∧
        ∃ event ∈ past, ∃ token, event.Stores token ∧ stored.Rounds token) ∧
    ∀ token after, token.IsProper → database.tables.insertToken token = .ok after →
      ∃ stored, after.token? token.accountId token.scope = .ok (some stored) ∧
        stored.Rounds token ∧ ∀ now, after.AgreesOnExpiry stored now := by
  constructor
  · intro accountId scope stored isRead
    have isRead : database.tables.token? (accountId, scope).1 (accountId, scope).2 = _ := isRead
    refine ⟨run.sound.agreesOnExpiry isRead, ?_⟩
    obtain ⟨isKept, isPlace, -, isRounded⟩ := run.sound.token?_eq_some_iff.1 isRead
    rw [← isPlace] at isKept
    obtain ⟨event, isPast, token, stores, sameRow⟩ :=
      run.exists_stores (run.sound.tokenMap_eq_some.1 isKept)
    exact ⟨event, isPast, token, stores, Token.rounds_of_row_eq isRounded sameRow⟩
  · intro token after isProper inserted
    obtain ⟨isFree, hasAccount, rfl⟩ := Tables.insertToken_eq_ok.1 inserted
    have sound := run.sound.withTokenRow isFree hasAccount
    obtain ⟨sameRow, isProper, isRounded⟩ :=
      Tables.tokenOfRow_eq_ok.1 (Tables.tokenOfRow_rowOfToken isProper)
    have isStored : token.rounded.slot.row token.place ∈
        (database.tables.withTokenRow (Tables.rowOfToken token)).tokens :=
      List.mem_append_right _ (List.mem_singleton.2 sameRow.symm)
    have isRead : (database.tables.withTokenRow (Tables.rowOfToken token)).token?
        token.place.1 token.place.2 = .ok (some token.rounded) :=
      sound.token?_eq_some_iff.2 ⟨sound.tokenMap_eq_some.2 isStored, rfl, isProper, isRounded⟩
    exact ⟨token.rounded, isRead, Token.rounds_of_row_eq isRounded sameRow.symm,
      sound.agreesOnExpiry isRead⟩

/-- A token of the first account, good until the last nanosecond of 1969. -/
def oldToken : Token :=
  ⟨.replicate 32 0, 1, ⟨-1⟩, .refresh⟩

/-- The token is inserted. -/
def insertionOfOld : Event .argon2id :=
  ⟨.idle, .insertToken oldToken, creation.after⟩

/-- The token is kept until the last millisecond of 1969, and is told to have expired as soon as
that has begun. -/
theorem old_token_expires :
    insertionOfOld.after.tables.AgreesOnExpiry { oldToken with expiry := ⟨-1000000⟩ } ⟨-1000001⟩ ∧
      ({ oldToken with expiry := ⟨-1000000⟩ } : Token).isExpired ⟨-1000001⟩ = false ∧
      insertionOfOld.after.tables.AgreesOnExpiry { oldToken with expiry := ⟨-1000000⟩ } ⟨-1000000⟩ ∧
      ({ oldToken with expiry := ⟨-1000000⟩ } : Token).isExpired ⟨-1000000⟩ = true := by
  have run : Run .argon2id History.AdmitsEdits ([creation] ++ [insertionOfOld])
      insertionOfOld.after := .step (.step .start .idle _ trivial) .idle _ trivial
  have isRead : insertionOfOld.after.tables.token? 1 .refresh =
      .ok (some { oldToken with expiry := ⟨-1000000⟩ }) := by rfl
  obtain ⟨agrees, -⟩ := run.expiry_is_told_alike.1 1 .refresh _ isRead
  exact ⟨agrees _, by decide, agrees _, by decide⟩

end Gatehouse
