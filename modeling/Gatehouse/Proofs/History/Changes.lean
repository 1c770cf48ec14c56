import Gatehouse.Proofs.History.Addresses
import Gatehouse.Proofs.Store.Holdings

/-!
# What a call changes

A call that succeeds acts for one account.  It leaves the holdings of all others as they are
(`Service.Effect.holding_of_ne`), and `Service.Change` says, call by call, what it makes of the one
that it acts for (`Service.Effect.change`).

A caller who changes an account is taken at the word of a copy, which may be out of date.  The
tables *recall* a copy if it has the content of the row as long as it has its version; then the
change is one of the row as it is stored.
-/

namespace Gatehouse

set_option autoImplicit false

/-! ## Copies that are recalled -/

/-- Whether the tables have the account of a copy, with the content of the copy as long as it has
the version of the copy.  The time of creation is not asked for, since nothing that is written back
changes it. -/
def Tables.Recalls (tables : Tables) (copy : Account) : Prop :=
  ∃ stored ∈ tables.accounts, stored.id = copy.id ∧ copy.version ≤ stored.version ∧
    (stored.version = copy.version → stored = { copy with createdAt := stored.createdAt })

variable {tables before after : Tables} {id other : Int} {now : Instant}

theorem Tables.recalls_of_mem {copy : Account} (isStored : copy ∈ tables.accounts) :
    tables.Recalls copy :=
  ⟨copy, isStored, rfl, Int.le_refl _, fun _ => rfl⟩

/-- What is recalled once is recalled for good. -/
theorem AccountsStep.recalls {updated : Option Int} {copy : Account}
    (step : AccountsStep before after updated) (recalls : before.Recalls copy) :
    after.Recalls copy := by
  obtain ⟨stored, isStored, sameId, notNewer, sameContent⟩ := recalls
  cases step with
  | kept sameAccounts =>
      exact ⟨stored, sameAccounts ▸ isStored, sameId, notNewer, sameContent⟩
  | created now new isAdded =>
      have remains : stored ∈ after.accounts := isAdded ▸ Tables.mem_withAccount.2 (.inl isStored)
      exact ⟨stored, remains, sameId, notNewer, sameContent⟩
  | @changed changed _ _ isWritten =>
      have isAfter : Tables.rewritten changed stored ∈ after.accounts :=
        isWritten ▸ Tables.mem_withChange.2 ⟨stored, isStored, rfl⟩
      refine ⟨_, isAfter, (Tables.id_rewritten changed stored).trans sameId, ?_, ?_⟩
      · rcases Tables.rewritten_cases changed stored with same | raised
        · exact same.symm ▸ notNewer
        · omega
      · intro sameVersion
        rcases Tables.rewritten_cases changed stored with same | raised
        · rw [same] at sameVersion ⊢
          exact sameContent sameVersion
        · omega

/-- A copy that can be written back has the content of its row. -/
theorem Tables.Recalls.stored_of_accepts {copy changed : Account} (recalls : tables.Recalls copy)
    (sound : tables.Sound) (accepts : tables.Accepts changed) (sameId : changed.id = copy.id)
    (sameVersion : changed.version = copy.version) :
    ∃ stored ∈ tables.accounts, stored = { copy with createdAt := stored.createdAt } := by
  obtain ⟨stored, isStored, storedId, -, sameContent⟩ := recalls
  obtain ⟨source, isSource, sourceId, sourceVersion⟩ := accepts.source
  obtain rfl := sound.eq_of_id_eq isSource isStored
    ((sourceId.trans sameId).trans storedId.symm)
  exact ⟨source, isSource, sameContent (sourceVersion.trans sameVersion)⟩

/-- A copy that has been written back has the content of its row. -/
theorem Tables.Sound.recalls_advanced (sound : tables.Sound) {changed : Account}
    (accepts : tables.Accepts changed)
    (isWritten : after.accounts = (tables.withChange changed).accounts) :
    after.Recalls (advanced changed) := by
  obtain ⟨source, isSource, sameId, sameVersion⟩ := accepts.source
  refine ⟨applyChange source changed, ?_, sameId, ?_, fun _ => ?_⟩
  · exact isWritten ▸ (sound.mem_withChange_iff isSource sameId sameVersion).2 (.inr rfl)
  · change changed.version + 1 ≤ source.version + 1
    omega
  · simp only [applyChange, advanced, sameId, sameVersion]

/-! ## Sessions -/

theorem Tables.holding_withSession_self {session : Service.Session}
    (renews : Service.Renews now tables id session) :
    (tables.withSession id session).holding id =
      (tables.holding id).replacing [.access, .refresh] [session.access, session.refresh] := by
  have apart : ∀ issued ∈ [session.access],
      issued.token.scope.tag ∉ [Scope.refresh].map Scope.tag := by
    intro issued isIssued
    rw [List.mem_singleton.1 isIssued, renews.access.scope_eq]
    decide
  rw [withSession, holding_withToken_self renews.refresh, holding_withToken_self renews.access,
    holding_withoutToken_self, holding_withoutToken_self, Holding.replacing_replacing _ apart,
    Holding.replacing_nil_replacing, Holding.replacing_nil_replacing]
  refine Holding.replacing_congr _ (fun scope => ?_) _
  cases scope <;> decide

theorem Tables.holding_withSession_of_ne {session : Service.Session}
    (renews : Service.Renews now tables id session) (isOther : other ≠ id) :
    (tables.withSession id session).holding other = tables.holding other := by
  rw [withSession, holding_withToken_of_ne isOther renews.refresh,
    holding_withToken_of_ne isOther renews.access, holding_withoutToken_of_ne isOther,
    holding_withoutToken_of_ne isOther]

/-! ## What each call changes -/

/-- Whether a token has just been made for an account and a scope. -/
def IssuedToken.IsMade (issued : IssuedToken) (now : Instant) (accountId : Int) (scope : Scope) :
    Prop :=
  ∃ draw, issued = .ofDraw draw now accountId scope.lifetime scope

namespace Service

/-- Whether a call only looks something up. -/
def Call.isLookup : Call → Bool
  | .getAccount _ _ | .authenticate _ | .requirePermissions _ _ | .sessionExpiry _ => true
  | _ => false

/-- Whether a text is what an account keeps for its password after a change that may set it. -/
def KeepsPassword (scheme : PasswordScheme) (former : Account) (passwordHash : String) :
    Option String → Prop
  | none => passwordHash = former.passwordHash
  | some password => ∃ salt, scheme.hash password salt = .ok passwordHash

/-- What a call that succeeds and is answered with a reply makes of the holding of the account that
it acts for. -/
inductive Change (scheme : PasswordScheme) (now : Instant) (id : Int) (before : Holding) :
    Call → Reply → Holding → Prop
  /-- A registration begins with nothing, and adds the row, one permission and one token. -/
  | register {username email password passwordHash : String} {salt : Draw} {account : Account}
      {token : IssuedToken} (isNew : before = .empty)
      (isHashed : scheme.hash password salt = .ok passwordHash)
      (isNext : account = ⟨id, now, username, email, passwordHash, false, 1⟩)
      (isMade : token.IsMade now id .activation) :
      Change scheme now id before (.register username email password)
        (.registration ⟨account, token⟩)
        ⟨some account, [Tables.rowOfToken token.token], [Permission.readUser.code]⟩
  | activate {token : String} {former latter : Account} (isStored : before.account? = some former)
      (isChanged : latter = { former with isActivated := true, version := former.version + 1 }) :
      Change scheme now id before (.activate token) (.account latter)
        (({ before with account? := some latter }.granting .writeUser).replacing [.activation] [])
  | login {username password : String} {access refresh : IssuedToken}
      (isAccess : access.IsMade now id .access) (isRefresh : refresh.IsMade now id .refresh) :
      Change scheme now id before (.login username password) (.session ⟨access, refresh⟩)
        (before.replacing [.access, .refresh] [access, refresh])
  | refresh {token : String} {access refresh : IssuedToken}
      (isAccess : access.IsMade now id .access) (isRefresh : refresh.IsMade now id .refresh) :
      Change scheme now id before (.refresh token) (.session ⟨access, refresh⟩)
        (before.replacing [.access, .refresh] [access, refresh])
  | logout {identity : Identity} :
      Change scheme now id before (.logout identity) .done
        (before.replacing [.access, .refresh] [])
  | requestPasswordReset {email : String} {token : IssuedToken}
      (isMade : token.IsMade now id .passwordReset) :
      Change scheme now id before (.requestPasswordReset email) (.token token)
        (before.replacing [.passwordReset] [token])
  | updatePassword {token password passwordHash : String} {salt : Draw} {former latter : Account}
      (isStored : before.account? = some former)
      (isHashed : scheme.hash password salt = .ok passwordHash)
      (isChanged : latter =
        { former with passwordHash := passwordHash, version := former.version + 1 }) :
      Change scheme now id before (.updatePassword token password) (.account latter)
        ({ before with account? := some latter }.replacing [.passwordReset] [])
  /-- A change of an account replaces its activation token if and only if the address changes in
  more than case, which also takes the activation back. -/
  | updateAccount {identity : Identity} {username : String} {email password : Option String}
      {former latter copy : Account} {made : Option IssuedToken}
      (isStored : before.account? = some former)
      (isKept : KeepsPassword scheme former latter.passwordHash password)
      (isChanged : latter = { former with
        email := email.getD former.email
        passwordHash := latter.passwordHash
        isActivated := former.isActivated && sameUpToCase former.email latter.email
        version := former.version + 1 })
      (isRenewed : made.isSome = !sameUpToCase former.email latter.email)
      (isMade : ∀ token ∈ made, token.IsMade now id .activation) :
      Change scheme now id before (.updateAccount identity username email password)
        (.update ⟨copy, made⟩)
        ({ before with account? := some latter }.replacing
          (if made.isSome then [.activation] else []) made.toList)
  | lookup {call : Call} {reply : Reply} (isLookup : call.isLookup = true)
      (noTokens : reply.tokens = []) :
      Change scheme now id before call reply before

variable {scheme : PasswordScheme} {call : Call} {reply : Reply} {letters : List Mail.Letter}

/-- Who holds a token is the account that a call with the token acts for. -/
theorem Call.ownerId?_eq_some {scope : Scope} {plaintext : String} {stored : Account}
    (holds : before.accountByToken? scope (Token.digestOf plaintext) now = some stored) :
    Call.subject?.ownerId? now before scope plaintext = some stored.id :=
  congrArg (Option.map Account.id) holds

/-- A call that succeeds acts for an account and leaves the holdings of all others as they are,
whoever makes it. -/
theorem Effect.holding_of_ne (effect : Effect scheme now before call reply letters after)
    (sound : before.Sound) :
    ∃ id, call.subject? now before = some id ∧
      ∀ other, other ≠ id → after.holding other = before.holding other := by
  cases effect with
  | register _ _ _ isNext mints =>
      refine ⟨_, congrArg (some <| Account.id ·) isNext.symm, fun other isOther => ?_⟩
      rw [Tables.holding_withToken_of_ne isOther mints, Tables.holding_granted_of_ne isOther,
        Tables.holding_withAccount_of_ne isOther]
  | activate _ holds accepts =>
      refine ⟨_, Call.ownerId?_eq_some holds, fun other isOther => ?_⟩
      rw [Tables.holding_withoutToken_of_ne isOther, Tables.holding_granted_of_ne isOther,
        sound.holding_withChange_of_ne accepts isOther]
  | login _ isNamed _ renews =>
      exact ⟨_, congrArg (Option.map Account.id) isNamed,
        fun _ => Tables.holding_withSession_of_ne renews⟩
  | refresh _ holds renews =>
      exact ⟨_, Call.ownerId?_eq_some holds, fun _ => Tables.holding_withSession_of_ne renews⟩
  | logout =>
      refine ⟨_, rfl, fun other isOther => ?_⟩
      rw [Tables.holding_withoutToken_of_ne isOther, Tables.holding_withoutToken_of_ne isOther]
  | requestPasswordReset _ isAt mints =>
      refine ⟨_, congrArg (Option.map Account.id) isAt, fun other isOther => ?_⟩
      rw [Tables.holding_withToken_of_ne isOther mints, Tables.holding_withoutToken_of_ne isOther]
  | updatePassword _ _ holds accepts =>
      refine ⟨_, Call.ownerId?_eq_some holds, fun other isOther => ?_⟩
      rw [Tables.holding_withoutToken_of_ne isOther, sound.holding_withChange_of_ne accepts isOther]
  | updateInPlace _ _ isSet accepts =>
      refine ⟨_, rfl, fun other isOther => ?_⟩
      exact sound.holding_withChange_of_ne accepts (isSet.id_eq ▸ isOther)
  | updateAddress _ _ isSet accepts mints =>
      refine ⟨_, rfl, fun other isOther => ?_⟩
      rw [← isSet.id_eq] at isOther
      rw [Tables.holding_withToken_of_ne isOther mints, Tables.holding_withoutToken_of_ne isOther,
        sound.holding_withChange_of_ne accepts isOther]
  | getAccount => exact ⟨_, rfl, fun _ _ => rfl⟩
  | authenticate _ holds => exact ⟨_, Call.ownerId?_eq_some holds, fun _ _ => rfl⟩
  | requirePermissions => exact ⟨_, rfl, fun _ _ => rfl⟩
  | sessionExpiry => exact ⟨_, rfl, fun _ _ => rfl⟩

/-! ## The account that a call acts for -/

theorem SetsPassword.keepsPassword {former changed : Account} {password : Option String}
    (isSet : SetsPassword scheme former changed password) :
    KeepsPassword scheme former changed.passwordHash password := by
  cases password with
  | none => exact congrArg Account.passwordHash isSet
  | some password =>
      obtain ⟨salt, passwordHash, isHashed, rfl⟩ := isSet
      exact ⟨salt, isHashed⟩

/-- What a change of an account makes of its row, if the copy that it is made from has the content
of the row. -/
theorem SetsPassword.applyChange_eq {caller changed stored : Account}
    {email password : Option String}
    (isSet : SetsPassword scheme (withAddress caller email) changed password)
    (sameContent : stored = { caller with createdAt := stored.createdAt }) :
    isNewAddress caller email = (!sameUpToCase stored.email changed.email) ∧
      Tables.applyChange stored changed = { stored with
        email := email.getD stored.email
        passwordHash := changed.passwordHash
        isActivated := stored.isActivated && sameUpToCase stored.email changed.email
        version := stored.version + 1 } := by
  have isNew : isNewAddress caller email = !sameUpToCase stored.email changed.email := by
    rw [Bool.eq_iff_iff, isNewAddress_iff, Bool.not_eq_true', isSet.email_eq, sameContent]
  refine ⟨isNew, ?_⟩
  have isActivated := isSet.isActivated_eq
  rw [isNew, Bool.not_not] at isActivated
  rw [Tables.applyChange, isActivated, isSet.email_eq]
  rw [isSet.eq, sameContent]
  rfl

/-- What a change that is written back makes of the holding of its account, before the activation
token is replaced. -/
theorem SetsPassword.change {caller changed : Account} {email password : Option String}
    (isSet : SetsPassword scheme (withAddress caller email) changed password)
    (sound : before.Sound) (recalls : before.Recalls caller) (accepts : before.Accepts changed)
    (made : Option IssuedToken) (isRenewed : made.isSome = isNewAddress caller email)
    (isMade : ∀ token ∈ made, token.IsMade now caller.id .activation) :
    Change scheme now caller.id (before.holding caller.id)
      (.updateAccount (.known caller) caller.username email password)
      (.update ⟨Tables.advanced changed, made⟩)
      (((before.withChange changed).holding caller.id).replacing
        (if made.isSome then [.activation] else []) made.toList) := by
  obtain ⟨stored, isStored, sameContent⟩ :=
    recalls.stored_of_accepts sound accepts isSet.id_eq isSet.version_eq
  have sameId : stored.id = caller.id := by rw [sameContent]
  obtain ⟨isNew, isChanged⟩ := isSet.applyChange_eq sameContent
  have written := sound.holding_withChange_self accepts isStored (sameId.trans isSet.id_eq.symm)
  rw [isSet.id_eq] at written
  rw [written]
  refine .updateAccount (sound.account?_eq_some.2 ⟨isStored, sameId⟩) ?_ isChanged
    (isRenewed.trans isNew) isMade
  have isKept := isSet.keepsPassword
  cases password with
  | none =>
      have sameHash : stored.passwordHash = caller.passwordHash := by rw [sameContent]
      exact isKept.trans sameHash.symm
  | some password => exact isKept

/-- **What a call that succeeds makes of the account that it acts for.** -/
theorem Effect.change (effect : Effect scheme now before call reply letters after)
    (sound : before.Sound) (isKnown : ∀ permission, Permission.code permission ∈
      before.permissionCodes)
    (recalls : ∀ caller, call.identity = .known caller → before.Recalls caller)
    (subject : call.subject? now before = some id) :
    Change scheme now id (before.holding id) call reply (after.holding id) := by
  have isOwner {scope : Scope} {plaintext : String} {stored : Account}
      (holds : before.accountByToken? scope (Token.digestOf plaintext) now = some stored)
      (subject : Call.subject?.ownerId? now before scope plaintext = some id) :
      stored.id = id ∧ stored ∈ before.accounts ∧ before.account? id = some stored := by
    obtain rfl := Option.some.inj ((Call.ownerId?_eq_some holds).symm.trans subject)
    obtain ⟨isStored, -⟩ := Tables.mem_of_accountByToken?_eq_some holds
    exact ⟨rfl, isStored, sound.account?_eq_some.2 ⟨isStored, rfl⟩⟩
  cases effect with
  | @register username email _ passwordHash _ _ _ _ isHashed _ isNext mints =>
      obtain rfl := Option.some.inj subject
      subst isNext
      have isKnown : Permission.readUser.code ∈ (before.withAccount
        (before.nextAccount now ⟨username, email, passwordHash⟩)).permissionCodes := isKnown _
      have made := Tables.holding_withToken_self mints
      rw [Tables.holding_granted_self isKnown, sound.holding_withAccount_self now] at made
      have isNew := sound.holding_of_absent sound.account?_next
      exact made ▸ .register isNew isHashed rfl mints.draw
  | @activate _ stored _ holds accepts =>
      obtain ⟨rfl, isStored, isFound⟩ := isOwner holds subject
      have isKnown : Permission.writeUser.code ∈
        (before.withChange { stored with isActivated := true }).permissionCodes := isKnown _
      rw [Tables.holding_withoutToken_self, Tables.holding_granted_self isKnown,
        sound.holding_withChange_self accepts isStored rfl]
      exact .activate isFound rfl
  | login _ isNamed _ renews =>
      rw [Call.subject?, isNamed] at subject
      obtain rfl := Option.some.inj subject
      rw [Tables.holding_withSession_self renews]
      exact .login renews.access.draw renews.refresh.draw
  | refresh _ holds renews =>
      obtain ⟨rfl, -⟩ := isOwner holds subject
      rw [Tables.holding_withSession_self renews]
      exact .refresh renews.access.draw renews.refresh.draw
  | logout =>
      obtain rfl := Option.some.inj subject
      rw [Tables.holding_withoutToken_self, Tables.holding_withoutToken_self,
        Holding.replacing_nil_replacing]
      exact .logout
  | requestPasswordReset _ isAt mints =>
      rw [Call.subject?, isAt] at subject
      obtain rfl := Option.some.inj subject
      rw [Tables.holding_replaced_self mints]
      exact .requestPasswordReset mints.draw
  | updatePassword _ isHashed holds accepts =>
      obtain ⟨rfl, isStored, isFound⟩ := isOwner holds subject
      rw [Tables.holding_withoutToken_self, sound.holding_withChange_self accepts isStored rfl]
      exact .updatePassword isFound isHashed rfl
  | updateInPlace _ isSame isSet accepts =>
      obtain rfl := Option.some.inj subject
      rw [← Holding.replacing_nil ((before.withChange _).holding _)]
      exact isSet.change sound (recalls _ rfl) accepts none isSame.symm
        fun token isMade => absurd isMade (Option.not_mem_none token)
  | @updateAddress _ _ _ _ token _ isNew isSet accepts mints =>
      obtain rfl := Option.some.inj subject
      have isMade := mints.draw
      have minted := Tables.holding_replaced_self mints
      rw [isSet.id_eq] at isMade minted
      rw [isSet.id_eq, minted]
      refine isSet.change sound (recalls _ rfl) accepts (some token) isNew.symm ?_
      rintro _ ⟨⟩
      exact isMade
  | getAccount | authenticate | requirePermissions | sessionExpiry => exact .lookup rfl rfl

end Service

end Gatehouse
