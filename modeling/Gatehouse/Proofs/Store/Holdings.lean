import Gatehouse.Proofs.Store.Integrity

/-!
# What the store holds for one account

The row of an account, its tokens and the codes of its permissions are its *holding*.  Each write
of the store is about the rows of one account.  It leaves the holdings of all others as they are
(lemmas that end in `_of_ne`), and what it makes of the one that it is about is said by operations
on holdings alone (lemmas that end in `_self`).
-/

namespace Gatehouse

set_option autoImplicit false

/-- What the store holds for one account. -/
structure Holding where
  account? : Option Account
  tokens : List TokenRow
  codes : List String
  deriving DecidableEq, Repr

namespace Holding

/-- What the store holds for an account that is not there. -/
def empty : Holding := ⟨none, [], []⟩

/-- A holding with tokens that have been made in place of the tokens in some scopes. -/
def replacing (holding : Holding) (scopes : List Scope) (made : List IssuedToken) : Holding :=
  { holding with
    tokens := (holding.tokens.filter fun row => row.scope ∉ scopes.map Scope.tag) ++
      made.map fun issued => Tables.rowOfToken issued.token }

/-- A holding with one more permission, unless it has the permission already. -/
def granting (holding : Holding) (permission : Permission) : Holding :=
  { holding with
    codes := if holding.codes.contains permission.code then holding.codes
      else holding.codes ++ [permission.code] }

theorem mem_tokens_replacing {holding : Holding} {scopes : List Scope} {made : List IssuedToken}
    {row : TokenRow} :
    row ∈ (holding.replacing scopes made).tokens ↔
      (row ∈ holding.tokens ∧ row.scope ∉ scopes.map Scope.tag) ∨
        ∃ issued ∈ made, Tables.rowOfToken issued.token = row := by
  rw [replacing, List.mem_append, List.mem_filter, decide_eq_true_eq]
  exact or_congr_right List.mem_map

theorem mem_codes_granting {holding : Holding} {permission : Permission} {code : String} :
    code ∈ (holding.granting permission).codes ↔
      code ∈ holding.codes ∨ code = permission.code := by
  unfold granting
  split
  next isHeld =>
    constructor
    · exact .inl
    · rintro (isHeld' | rfl)
      · exact isHeld'
      · exact List.contains_iff_mem.1 isHeld
  next => rw [List.mem_append, List.mem_singleton]

theorem replacing_congr (holding : Holding) {scopes scopes' : List Scope}
    (same : ∀ scope, scope ∈ scopes ↔ scope ∈ scopes') (made : List IssuedToken) :
    holding.replacing scopes made = holding.replacing scopes' made := by
  simp only [replacing, List.mem_map, same]

theorem replacing_nil (holding : Holding) : holding.replacing [] [] = holding := by
  refine congrArg (Holding.mk _ · _) ((List.append_nil _).trans ?_)
  exact List.filter_eq_self.2 fun row _ => rfl

/-- Tokens that have been made stay when those in other scopes are replaced. -/
theorem replacing_replacing (holding : Holding) {scopes scopes' : List Scope}
    {made made' : List IssuedToken}
    (apart : ∀ issued ∈ made, issued.token.scope.tag ∉ scopes'.map Scope.tag) :
    (holding.replacing scopes made).replacing scopes' made' =
      holding.replacing (scopes ++ scopes') (made ++ made') := by
  have stays : (made.map fun issued => Tables.rowOfToken issued.token).filter
      (fun row => row.scope ∉ scopes'.map Scope.tag) =
        made.map fun issued => Tables.rowOfToken issued.token := by
    rw [List.filter_eq_self]
    intro row isMade
    obtain ⟨issued, isIssued, rfl⟩ := List.mem_map.1 isMade
    exact decide_eq_true (apart issued isIssued)
  have removed : (holding.tokens.filter fun row => row.scope ∉ scopes.map Scope.tag).filter
      (fun row => row.scope ∉ scopes'.map Scope.tag) =
        holding.tokens.filter fun row => row.scope ∉ (scopes ++ scopes').map Scope.tag := by
    rw [List.filter_filter]
    refine List.filter_congr fun row _ => ?_
    rw [List.map_append, ← Bool.decide_and]
    exact decide_eq_decide.2 (by rw [List.mem_append, not_or, and_comm])
  refine congrArg (Holding.mk _ · _) ?_
  change List.filter _ ((holding.tokens.filter _) ++ _) ++ _ = _ ++ List.map _ (made ++ made')
  rw [List.filter_append, stays, removed, List.append_assoc, ← List.map_append]

/-- Tokens that are removed first are among those replaced. -/
theorem replacing_nil_replacing (holding : Holding) (scopes scopes' : List Scope)
    (made : List IssuedToken) :
    (holding.replacing scopes []).replacing scopes' made =
      holding.replacing (scopes ++ scopes') made :=
  replacing_replacing holding nofun

end Holding

namespace Tables

/-- What the tables hold for the account with an id. -/
def holding (tables : Tables) (id : Int) : Holding where
  account? := tables.account? id
  tokens := tables.tokens.filter fun row => row.accountId == id
  codes := tables.heldCodes id

variable {tables : Tables} {id other : Int} {now : Instant}

theorem mem_tokens_holding {row : TokenRow} :
    row ∈ (tables.holding id).tokens ↔ row ∈ tables.tokens ∧ row.accountId = id := by
  simp [holding]

theorem mem_codes_holding {code : String} :
    code ∈ (tables.holding id).codes ↔ (id, code) ∈ tables.grants := by
  simp [holding, heldCodes]

theorem Sound.holding_of_absent (sound : tables.Sound) (isAbsent : tables.account? id = none) :
    tables.holding id = .empty := by
  have missing : tables.hasAccount id = false := by rw [hasAccount, isAbsent]; rfl
  have noTokens : (tables.holding id).tokens = [] := by
    refine List.eq_nil_iff_forall_not_mem.2 fun row isHeld => ?_
    obtain ⟨isStored, rfl⟩ := mem_tokens_holding.1 isHeld
    cases missing.symm.trans (sound.owners row isStored)
  have noCodes : (tables.holding id).codes = [] := by
    refine List.eq_nil_iff_forall_not_mem.2 fun code isHeld => ?_
    cases missing.symm.trans (sound.holders _ (mem_codes_holding.1 isHeld))
  change (⟨tables.account? id, (tables.holding id).tokens, (tables.holding id).codes⟩ : Holding) = _
  rw [isAbsent, noTokens, noCodes]
  rfl

/-! ## Tokens -/

theorem holding_filterTokens (keep : TokenRow → Bool) :
    holding { tables with tokens := tables.tokens.filter keep } id =
      { tables.holding id with tokens := (tables.holding id).tokens.filter keep } := by
  refine congrArg (Holding.mk _ · _) ?_
  rw [List.filter_filter, holding, List.filter_filter]
  exact List.filter_congr fun row _ => Bool.and_comm _ _

theorem holding_withoutToken_self (scope : Scope) :
    (tables.withoutToken id scope).holding id = (tables.holding id).replacing [scope] [] := by
  rw [withoutToken, holding_filterTokens, Holding.replacing, List.map_nil, List.append_nil]
  refine congrArg (Holding.mk _ · _) (List.filter_congr fun row isHeld => ?_)
  obtain ⟨-, isOwn⟩ := mem_tokens_holding.1 isHeld
  simp [isSlot, isOwn, Bool.beq_eq_decide_eq]

theorem holding_withoutToken_of_ne (isOther : other ≠ id) (scope : Scope) :
    (tables.withoutToken id scope).holding other = tables.holding other := by
  rw [withoutToken, holding_filterTokens]
  refine congrArg (Holding.mk _ · _) (List.filter_eq_self.2 fun row isHeld => ?_)
  obtain ⟨-, isOwn⟩ := mem_tokens_holding.1 isHeld
  simp [isSlot, isOwn, isOther]

theorem holding_withTokenRow_self {row : TokenRow} (isOwn : row.accountId = id) :
    (tables.withTokenRow row).holding id =
      { tables.holding id with tokens := (tables.holding id).tokens ++ [row] } := by
  refine congrArg (Holding.mk _ · _) ?_
  simp [withTokenRow, List.filter_append, isOwn, holding]

theorem holding_withTokenRow_of_ne {row : TokenRow} (isOther : other ≠ row.accountId) :
    (tables.withTokenRow row).holding other = tables.holding other := by
  refine congrArg (Holding.mk _ · _) ?_
  simp [withTokenRow, List.filter_append, isOther.symm]

theorem holding_withToken_self {scope : Scope} {issued : IssuedToken}
    (mints : tables.Mints now id scope issued) :
    (tables.withToken issued).holding id = (tables.holding id).replacing [scope] [issued] := by
  rw [withToken, holding_withTokenRow_self mints.accountId_eq, mints.accountId_eq, mints.scope_eq,
    holding_withoutToken_self]
  simp only [Holding.replacing, List.map_nil, List.append_nil, List.map_singleton]

theorem holding_withToken_of_ne {scope : Scope} {issued : IssuedToken} (isOther : other ≠ id)
    (mints : tables.Mints now id scope issued) :
    (tables.withToken issued).holding other = tables.holding other := by
  have owner : (rowOfToken issued.token).accountId = id := mints.accountId_eq
  rw [withToken, holding_withTokenRow_of_ne (owner.symm ▸ isOther), mints.accountId_eq,
    holding_withoutToken_of_ne isOther]

/-- A token that is removed and then made anew is replaced. -/
theorem holding_replaced_self {scope : Scope} {issued : IssuedToken}
    (mints : (tables.withoutToken id scope).Mints now id scope issued) :
    ((tables.withoutToken id scope).withToken issued).holding id =
      (tables.holding id).replacing [scope] [issued] := by
  rw [holding_withToken_self mints, holding_withoutToken_self, Holding.replacing_nil_replacing]
  exact Holding.replacing_congr _ (fun _ => by simp) _

/-! ## Grants -/

theorem holding_granted_self {permission : Permission}
    (isKnown : permission.code ∈ tables.permissionCodes) :
    (tables.granted id permission).holding id = (tables.holding id).granting permission := by
  have isHeld : tables.grants.contains (id, permission.code) =
      (tables.holding id).codes.contains permission.code := by
    rw [Bool.eq_iff_iff, List.contains_iff_mem, List.contains_iff_mem, mem_codes_holding]
  unfold granted Holding.granting
  rw [isHeld]
  cases (tables.holding id).codes.contains permission.code with
  | true => simp
  | false =>
      simp only [List.contains_iff_mem.2 isKnown, Bool.not_false, Bool.and_self, if_true]
      refine congrArg (Holding.mk _ _) ?_
      simp [withGrant, heldCodes, holding]

theorem holding_granted_of_ne {permission : Permission} (isOther : other ≠ id) :
    (tables.granted id permission).holding other = tables.holding other := by
  unfold granted
  split
  · refine congrArg (Holding.mk _ _) ?_
    simp [withGrant, heldCodes, isOther.symm]
  · rfl

/-! ## Accounts -/

theorem holding_withAccount_of_ne {account : Account} (isOther : other ≠ account.id) :
    (tables.withAccount account).holding other = tables.holding other := by
  refine congrArg (Holding.mk · _ _) ?_
  rw [account?, withAccount, List.find?_append]
  simp [isOther.symm, account?]

theorem Sound.account?_next (sound : tables.Sound) :
    tables.account? (tables.lastAccountId + 1) = none := by
  refine List.find?_eq_none.2 fun account isStored => ?_
  simpa using sound.id_ne_next isStored

/-- A new account has nothing but its row. -/
theorem Sound.holding_withAccount_self (sound : tables.Sound) (now : Instant) (new : NewAccount) :
    (tables.withAccount (tables.nextAccount now new)).holding (tables.nextAccount now new).id =
      { Holding.empty with account? := some (tables.nextAccount now new) } := by
  have isCreated : (tables.withAccount (tables.nextAccount now new)).account?
      (tables.nextAccount now new).id = some (tables.nextAccount now new) := by
    have missing : tables.accounts.find?
        (fun account => account.id == (tables.nextAccount now new).id) = none :=
      sound.account?_next
    rw [account?, Tables.withAccount, List.find?_append, missing]
    simp
  rw [← sound.holding_of_absent sound.account?_next, ← isCreated]
  rfl

theorem Sound.holding_withChange_self (sound : tables.Sound) {changed stored : Account}
    (accepts : tables.Accepts changed) (isStored : stored ∈ tables.accounts)
    (sameId : stored.id = changed.id) :
    (tables.withChange changed).holding changed.id =
      { tables.holding changed.id with account? := some (applyChange stored changed) } := by
  refine congrArg (Holding.mk · _ _) ?_
  obtain ⟨source, isSource, sourceId, sameVersion⟩ := accepts.source
  obtain rfl := sound.eq_of_id_eq isSource isStored (sourceId.trans sameId.symm)
  refine (sound.withChange accepts).account?_eq_some.2 ⟨?_, sameId⟩
  exact (sound.mem_withChange_iff isSource sourceId sameVersion).2 (.inr rfl)

theorem Sound.holding_withChange_of_ne (sound : tables.Sound) {changed : Account}
    (accepts : tables.Accepts changed) (isOther : other ≠ changed.id) :
    (tables.withChange changed).holding other = tables.holding other := by
  refine congrArg (Holding.mk · _ _) (Option.ext fun account => ?_)
  obtain ⟨source, isSource, sameId, sameVersion⟩ := accepts.source
  rw [(sound.withChange accepts).account?_eq_some, sound.account?_eq_some,
    sound.mem_withChange_iff isSource sameId sameVersion]
  constructor
  · rintro ⟨⟨isStored, -⟩ | rfl, rfl⟩
    · exact ⟨isStored, rfl⟩
    · exact absurd sameId isOther
  · rintro ⟨isStored, rfl⟩
    exact ⟨.inl ⟨isStored, isOther⟩, rfl⟩

end Tables

end Gatehouse
