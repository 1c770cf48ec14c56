import Gatehouse.Proofs.Store.Writes

/-!
# Integrity of the tables

`Tables.Sound` collects what holds of the stored rows at all times: accounts differ in id, name and
address, tokens differ in digest and in place, and whatever belongs to an account belongs to one
that is there.  Every write of the store keeps the tables sound, given what the write checks.

On sound tables a lookup is exact.  An id stands for one account (`Sound.account?_eq_some`), and a
plaintext for the account of the one row with its digest (`Sound.accountByToken?_eq_some`).
-/

namespace Gatehouse.Tables

set_option autoImplicit false

/-! ## Addresses -/

/-- No other character becomes the null character in lower case. -/
theorem toLower_eq_null {c : Char} : c.toLower = '\x00' ↔ c = '\x00' := by
  constructor
  · intro isNull
    unfold Char.toLower at isNull
    split at isNull
    next isUpper =>
      have sum : c.val + 32 = 0 := congrArg Char.val isNull
      have least : 65 ≤ c.val := isUpper.1
      have greatest : c.val ≤ 90 := isUpper.2
      have number := congrArg UInt32.toNat sum
      simp only [UInt32.toNat_add, UInt32.le_iff_toNat_le, UInt32.reduceToNat]
        at number least greatest
      omega
    next => exact isNull
  · rintro rfl
    decide

theorem sameAddressChars_comm (former latter : List Char) :
    sameAddressChars former latter = sameAddressChars latter former := by
  induction former generalizing latter with
  | nil => cases latter <;> rfl
  | cons c cs ih =>
      cases latter with
      | nil => rfl
      | cons d ds =>
          unfold sameAddressChars
          by_cases same : c.toLower = d.toLower
          · -- both characters are null, or neither is
            have alike : c = '\x00' ↔ d = '\x00' := by
              rw [← toLower_eq_null, same, toLower_eq_null]
            by_cases isNull : d = '\x00'
            · simp [alike.2 isNull, isNull, BEq.comm]
            · simp [same, mt alike.1 isNull, isNull, ih]
          · simp [same, Ne.symm same]

theorem sameAddress_comm (former latter : String) :
    sameAddress former latter = sameAddress latter former :=
  sameAddressChars_comm former.toList latter.toList

theorem takenFault?_eq_none {others : List Account} {username email : String} :
    takenFault? others username email = none ↔
      ∀ other ∈ others, sameAddress other.email email = false ∧ other.username ≠ username := by
  unfold takenFault?
  constructor
  · intro isFree other member
    split at isFree
    next => cases isFree
    next noAddress =>
      split at isFree
      next => cases isFree
      next noName =>
        simp only [List.any_eq_true, not_exists, not_and, Bool.not_eq_true, beq_iff_eq]
          at noAddress noName
        exact ⟨noAddress other member, noName other member⟩
  · intro isFree
    have noAddress : (others.any fun other => sameAddress other.email email) = false :=
      List.any_eq_false.2 fun other member => by simp [(isFree other member).1]
    have noName : (others.any fun other => other.username == username) = false :=
      List.any_eq_false.2 fun other member => by simp [(isFree other member).2]
    simp [noAddress, noName]

/-! ## Sound tables -/

/-- Two accounts that may stand side by side. -/
structure Distinct (former latter : Account) : Prop where
  id : former.id ≠ latter.id
  username : former.username ≠ latter.username
  email : sameAddress former.email latter.email = false

theorem Distinct.symm {former latter : Account} (distinct : Distinct former latter) :
    Distinct latter former :=
  ⟨distinct.id.symm, distinct.username.symm, (sameAddress_comm _ _).trans distinct.email⟩

/-- Two token rows that may stand side by side. -/
structure Apart (former latter : TokenRow) : Prop where
  digest : former.digest ≠ latter.digest
  place : ¬(former.accountId = latter.accountId ∧ former.scope = latter.scope)

/-- What holds of the stored rows at all times. -/
structure Sound (tables : Tables) : Prop where
  accounts : tables.accounts.Pairwise Distinct
  ids : ∀ account ∈ tables.accounts, account.id ≤ tables.lastAccountId
  versions : ∀ account ∈ tables.accounts, 1 ≤ account.version
  tokens : tables.tokens.Pairwise Apart
  owners : ∀ row ∈ tables.tokens, tables.hasAccount row.accountId = true
  grants : tables.grants.Nodup
  holders : ∀ grant ∈ tables.grants, tables.hasAccount grant.1 = true

theorem sound_fresh : Sound .fresh where
  accounts := .nil
  ids := nofun
  versions := nofun
  tokens := .nil
  owners := nofun
  grants := .nil
  holders := nofun

variable {tables after : Tables}

theorem hasAccount_iff {id : Int} :
    tables.hasAccount id = true ↔ ∃ account ∈ tables.accounts, account.id = id := by
  simp [hasAccount, account?]

theorem hasAccount_of_mem {account : Account} (isStored : account ∈ tables.accounts) :
    tables.hasAccount account.id = true :=
  hasAccount_iff.2 ⟨account, isStored, rfl⟩

theorem mem_withAccount {account created : Account} :
    account ∈ (tables.withAccount created).accounts ↔
      account ∈ tables.accounts ∨ account = created := by
  rw [withAccount, List.mem_append, List.mem_singleton]

theorem hasAccount_withAccount (created : Account) :
    (tables.withAccount created).hasAccount created.id = true :=
  hasAccount_of_mem (mem_withAccount.2 (.inr rfl))

/-! ## Lookups -/

/-- In sound tables an id stands for one account. -/
theorem Sound.eq_of_id_eq (sound : tables.Sound) {former latter : Account}
    (isStored : former ∈ tables.accounts) (isStored' : latter ∈ tables.accounts)
    (same : former.id = latter.id) : former = latter := by
  have unique : ∀ ⦃one⦄, one ∈ tables.accounts → ∀ ⦃other⦄, other ∈ tables.accounts →
      one.id = other.id → one = other :=
    List.Pairwise.forall_of_forall_of_flip (fun _ _ _ => rfl)
      (sound.accounts.imp fun distinct same => absurd same distinct.id)
      (sound.accounts.imp fun distinct same => absurd same.symm distinct.id)
  exact unique isStored isStored' same

/-- In sound tables a digest stands for one token. -/
theorem Sound.eq_of_digest_eq (sound : tables.Sound) {former latter : TokenRow}
    (isStored : former ∈ tables.tokens) (isStored' : latter ∈ tables.tokens)
    (same : former.digest = latter.digest) : former = latter := by
  have unique : ∀ ⦃one⦄, one ∈ tables.tokens → ∀ ⦃other⦄, other ∈ tables.tokens →
      one.digest = other.digest → one = other :=
    List.Pairwise.forall_of_forall_of_flip (fun _ _ _ => rfl)
      (sound.tokens.imp fun apart same => absurd same apart.digest)
      (sound.tokens.imp fun apart same => absurd same.symm apart.digest)
  exact unique isStored isStored' same

/-- In sound tables a token is the only one of its account in its scope. -/
theorem Sound.filter_isSlot (sound : tables.Sound) {row : TokenRow} {id : Int} {scope : Scope}
    (isStored : row ∈ tables.tokens) (inPlace : isSlot id scope row = true) :
    tables.tokens.filter (isSlot id scope) = [row] := by
  have isFound : row ∈ tables.tokens.filter (isSlot id scope) :=
    List.mem_filter.2 ⟨isStored, inPlace⟩
  have apart : (tables.tokens.filter (isSlot id scope)).Pairwise Apart := sound.tokens.filter _
  have inPlaces : ∀ other ∈ tables.tokens.filter (isSlot id scope),
      other.accountId = id ∧ other.scope = scope.tag :=
    fun other isOther => isSlot_iff.1 (List.mem_filter.1 isOther).2
  match same : tables.tokens.filter (isSlot id scope) with
  | [] =>
      rw [same] at isFound
      cases isFound
  | [one] =>
      rw [same] at isFound
      rw [List.mem_singleton.1 isFound]
  | one :: another :: rest =>
      rw [same] at apart inPlaces
      have ⟨oneId, oneScope⟩ := inPlaces one (.head _)
      have ⟨anotherId, anotherScope⟩ := inPlaces another (.tail _ (.head _))
      have notSame := ((List.pairwise_cons.1 apart).1 another (.head _)).place
      exact absurd ⟨oneId.trans anotherId.symm, oneScope.trans anotherScope.symm⟩ notSame

theorem mem_of_account?_eq_some {id : Int} {account : Account}
    (search : tables.account? id = some account) : account ∈ tables.accounts ∧ account.id = id :=
  ⟨List.mem_of_find?_eq_some search, by simpa using List.find?_some search⟩

theorem Sound.account?_eq_some (sound : tables.Sound) {id : Int} {account : Account} :
    tables.account? id = some account ↔ account ∈ tables.accounts ∧ account.id = id := by
  refine ⟨mem_of_account?_eq_some, ?_⟩
  rintro ⟨isStored, rfl⟩
  cases search : tables.account? account.id with
  | none =>
      have missing := List.find?_eq_none.1 search account isStored
      simp at missing
  | some found =>
      obtain ⟨isFound, sameId⟩ := mem_of_account?_eq_some search
      rw [sound.eq_of_id_eq isFound isStored sameId]

theorem mem_of_accountByToken?_eq_some {scope : Scope} {digest : List UInt8} {now : Instant}
    {account : Account} (search : tables.accountByToken? scope digest now = some account) :
    account ∈ tables.accounts ∧ ∃ row ∈ tables.tokens, row.digest = digest ∧
      row.scope = scope.tag ∧ now.milliseconds < row.expiry ∧ row.accountId = account.id := by
  obtain ⟨row, found, owned⟩ := Option.bind_eq_some_iff.1 search
  obtain ⟨isStored, sameId⟩ := mem_of_account?_eq_some owned
  have matched := List.find?_some found
  simp only [Bool.and_eq_true, beq_iff_eq, decide_eq_true_eq] at matched
  exact ⟨isStored, row, List.mem_of_find?_eq_some found, matched.1.1, matched.1.2, matched.2,
    sameId.symm⟩

/-- In sound tables a digest leads to the account of the one row that has it, as long as the scope
is that of the row and the row is still good. -/
theorem Sound.accountByToken?_eq_some (sound : tables.Sound) {scope : Scope}
    {digest : List UInt8} {now : Instant} {account : Account} :
    tables.accountByToken? scope digest now = some account ↔
      account ∈ tables.accounts ∧ ∃ row ∈ tables.tokens, row.digest = digest ∧
        row.scope = scope.tag ∧ now.milliseconds < row.expiry ∧ row.accountId = account.id := by
  refine ⟨mem_of_accountByToken?_eq_some, ?_⟩
  rintro ⟨isStored, row, member, sameDigest, sameScope, isGood, sameId⟩
  refine Option.bind_eq_some_iff.2 ⟨row, ?_, sound.account?_eq_some.2 ⟨isStored, sameId.symm⟩⟩
  cases search : tables.tokens.find? fun row =>
      row.digest == digest && row.scope == scope.tag && decide (now.milliseconds < row.expiry) with
  | none =>
      have missing := List.find?_eq_none.1 search row member
      simp [sameDigest, sameScope, isGood] at missing
  | some found =>
      have matched := List.find?_some search
      simp only [Bool.and_eq_true, beq_iff_eq] at matched
      rw [sound.eq_of_digest_eq (List.mem_of_find?_eq_some search) member
        (matched.1.1.trans sameDigest.symm)]

/-! ## Writes keep tables sound -/

/-- The next id has not been given out. -/
theorem Sound.id_ne_next (sound : tables.Sound) {account : Account}
    (isStored : account ∈ tables.accounts) : account.id ≠ tables.lastAccountId + 1 := by
  have bound := sound.ids account isStored
  omega

theorem Sound.withAccount (sound : tables.Sound) {now : Instant} {new : NewAccount}
    (isFree : takenFault? tables.accounts new.username new.email = none) :
    (tables.withAccount (tables.nextAccount now new)).Sound := by
  have others := takenFault?_eq_none.1 isFree
  have stays {id : Int} (isThere : tables.hasAccount id = true) :
      (tables.withAccount (tables.nextAccount now new)).hasAccount id = true := by
    obtain ⟨account, isStored, sameId⟩ := hasAccount_iff.1 isThere
    exact hasAccount_iff.2 ⟨account, mem_withAccount.2 (.inl isStored), sameId⟩
  constructor
  case accounts =>
    refine List.pairwise_append.2 ⟨sound.accounts, List.pairwise_singleton _ _, ?_⟩
    intro stored isStored created isCreated
    obtain rfl := List.mem_singleton.1 isCreated
    exact ⟨sound.id_ne_next isStored, (others stored isStored).2, (others stored isStored).1⟩
  case ids =>
    intro account member
    change account.id ≤ tables.lastAccountId + 1
    rcases mem_withAccount.1 member with isStored | rfl
    · have bound := sound.ids account isStored
      omega
    · exact Int.le_refl _
  case versions =>
    intro account member
    rcases mem_withAccount.1 member with isStored | rfl
    · exact sound.versions account isStored
    · exact Int.le_refl 1
  case tokens => exact sound.tokens
  case owners => exact fun row member => stays (sound.owners row member)
  case grants => exact sound.grants
  case holders => exact fun grant member => stays (sound.holders grant member)

/-- What a stored account is once a changed copy has been written back. -/
def rewritten (changed stored : Account) : Account :=
  if isSource changed stored then applyChange stored changed else stored

theorem id_rewritten (changed stored : Account) : (rewritten changed stored).id = stored.id := by
  unfold rewritten
  split <;> rfl

theorem mem_withChange {changed account : Account} :
    account ∈ (tables.withChange changed).accounts ↔
      ∃ stored ∈ tables.accounts, rewritten changed stored = account :=
  List.mem_map

/-- The rows after a change are the others and the one that has been changed. -/
theorem Sound.mem_withChange_iff (sound : tables.Sound) {changed stored account : Account}
    (isStored : stored ∈ tables.accounts) (sameId : stored.id = changed.id)
    (sameVersion : stored.version = changed.version) :
    account ∈ (tables.withChange changed).accounts ↔
      (account ∈ tables.accounts ∧ account.id ≠ changed.id) ∨
        account = applyChange stored changed := by
  have isWritten : rewritten changed stored = applyChange stored changed :=
    if_pos (isSource_iff.2 ⟨sameId, sameVersion⟩)
  have isKept {other : Account} (notOwn : other.id ≠ changed.id) :
      rewritten changed other = other :=
    if_neg fun source => notOwn (isSource_iff.1 source).1
  rw [mem_withChange]
  constructor
  · rintro ⟨other, isOther, rfl⟩
    by_cases own : other.id = changed.id
    · obtain rfl := sound.eq_of_id_eq isOther isStored (own.trans sameId.symm)
      exact .inr isWritten
    · rw [isKept own]
      exact .inl ⟨isOther, own⟩
  · rintro (⟨isOther, notOwn⟩ | rfl)
    · exact ⟨account, isOther, isKept notOwn⟩
    · exact ⟨stored, isStored, isWritten⟩

theorem hasAccount_withChange {changed : Account} {id : Int} :
    (tables.withChange changed).hasAccount id = tables.hasAccount id := by
  rw [Bool.eq_iff_iff, hasAccount_iff, hasAccount_iff]
  constructor
  · rintro ⟨account, member, rfl⟩
    obtain ⟨stored, isStored, rfl⟩ := mem_withChange.1 member
    exact ⟨stored, isStored, (id_rewritten changed stored).symm⟩
  · rintro ⟨stored, isStored, rfl⟩
    exact ⟨_, mem_withChange.2 ⟨stored, isStored, rfl⟩, id_rewritten changed stored⟩

/-- An account whose name and address are free among the others may stand beside them. -/
theorem distinct_of_accepts {changed stored other : Account} (accepts : tables.Accepts changed)
    (isSource : isSource changed stored = true) (isOther : other ∈ tables.accounts)
    (distinct : Distinct stored other) : Distinct (applyChange stored changed) other := by
  have sameId := (isSource_iff.1 isSource).1
  have isAmong : other ∈ tables.othersThan changed.id := by
    refine List.mem_filter.2 ⟨isOther, ?_⟩
    simp [← sameId, distinct.id.symm]
  obtain ⟨email, username⟩ := takenFault?_eq_none.1 accepts.isFree other isAmong
  exact ⟨distinct.id, username.symm, (sameAddress_comm _ _).trans email⟩

theorem Sound.withChange (sound : tables.Sound) {changed : Account}
    (accepts : tables.Accepts changed) : (tables.withChange changed).Sound := by
  constructor
  case accounts =>
    refine List.pairwise_map.2 (sound.accounts.imp_of_mem ?_)
    intro former latter isFormer isLatter distinct
    by_cases source : isSource changed former = true
    · -- the two differ in id, so the copy was not made from both
      have other : ¬isSource changed latter = true := fun source' =>
        distinct.id ((isSource_iff.1 source).1.trans (isSource_iff.1 source').1.symm)
      simp only [source, other, if_true]
      exact distinct_of_accepts accepts source isLatter distinct
    · by_cases source' : isSource changed latter = true
      · simp only [source, source', if_true]
        exact (distinct_of_accepts accepts source' isFormer distinct.symm).symm
      · simp only [source, source']
        exact distinct
  case ids =>
    intro account member
    obtain ⟨stored, isStored, rfl⟩ := mem_withChange.1 member
    rw [id_rewritten]
    exact sound.ids stored isStored
  case versions =>
    intro account member
    obtain ⟨stored, isStored, rfl⟩ := mem_withChange.1 member
    have least := sound.versions stored isStored
    unfold rewritten
    split
    · change 1 ≤ stored.version + 1
      omega
    · exact least
  case tokens => exact sound.tokens
  case owners => exact fun row member => hasAccount_withChange.trans (sound.owners row member)
  case grants => exact sound.grants
  case holders =>
    exact fun grant member => hasAccount_withChange.trans (sound.holders grant member)

/-- Tables with some of the tokens left out are sound. -/
theorem Sound.filterTokens (sound : tables.Sound) (keep : TokenRow → Bool) :
    Sound { tables with tokens := tables.tokens.filter keep } where
  accounts := sound.accounts
  ids := sound.ids
  versions := sound.versions
  tokens := sound.tokens.filter keep
  owners := fun row member => sound.owners row (List.mem_filter.1 member).1
  grants := sound.grants
  holders := sound.holders

theorem Sound.withoutToken (sound : tables.Sound) (accountId : Int) (scope : Scope) :
    (tables.withoutToken accountId scope).Sound :=
  sound.filterTokens _

theorem Sound.withTokenRow (sound : tables.Sound) {row : TokenRow}
    (isFree : tables.tokenIsTaken row = false)
    (hasAccount : tables.hasAccount row.accountId = true) : (tables.withTokenRow row).Sound where
  accounts := sound.accounts
  ids := sound.ids
  versions := sound.versions
  tokens := by
    refine List.pairwise_append.2 ⟨sound.tokens, List.pairwise_singleton _ _, ?_⟩
    intro stored isStored added isAdded
    obtain rfl := List.mem_singleton.1 isAdded
    obtain ⟨digest, place⟩ := tokenIsTaken_eq_false.1 isFree stored isStored
    exact ⟨digest, place⟩
  owners := by
    intro other member
    rcases List.mem_append.1 member with isStored | isAdded
    · exact sound.owners other isStored
    · rw [List.mem_singleton.1 isAdded]
      exact hasAccount
  grants := sound.grants
  holders := sound.holders

theorem Sound.withToken (sound : tables.Sound) {now : Instant} {accountId : Int} {scope : Scope}
    {issued : IssuedToken} (mints : tables.Mints now accountId scope issued) :
    (tables.withToken issued).Sound := by
  have sameId := mints.accountId_eq
  have sameScope := mints.scope_eq
  refine (sound.withoutToken _ _).withTokenRow ?_ ?_
  · refine tokenIsTaken_eq_false.2 fun row member => ⟨?_, (mem_withoutToken.1 member).2⟩
    exact mints.isNew row (sameId ▸ sameScope ▸ member)
  · change tables.hasAccount issued.token.accountId = true
    rw [sameId]
    exact mints.hasAccount

theorem Sound.withGrant (sound : tables.Sound) {accountId : Int} {code : String}
    (isNew : (accountId, code) ∉ tables.grants) (hasAccount : tables.hasAccount accountId = true) :
    (tables.withGrant accountId code).Sound where
  accounts := sound.accounts
  ids := sound.ids
  versions := sound.versions
  tokens := sound.tokens
  owners := sound.owners
  grants := by
    refine List.pairwise_append.2 ⟨sound.grants, List.pairwise_singleton _ _, ?_⟩
    intro stored isStored added isAdded same
    rw [List.mem_singleton.1 isAdded] at same
    exact isNew (same ▸ isStored)
  holders := by
    intro grant member
    rcases List.mem_append.1 member with isStored | isAdded
    · exact sound.holders grant isStored
    · rw [List.mem_singleton.1 isAdded]
      exact hasAccount

theorem Sound.granted (sound : tables.Sound) {accountId : Int} {permission : Permission}
    (hasAccount : tables.hasAccount accountId = true) :
    (tables.granted accountId permission).Sound := by
  unfold Tables.granted
  split
  next isNew =>
    simp only [Bool.and_eq_true, Bool.not_eq_true', List.contains_eq_mem, decide_eq_false_iff_not]
      at isNew
    exact sound.withGrant isNew.2 hasAccount
  next => exact sound

end Gatehouse.Tables
