import Gatehouse.Proofs.History.Isolation

/-!
# Activation, tokens and permissions agree

Whether an account is activated, whether an activation token is stored for it, and which permissions
it holds are kept in three tables.  What a call makes of the three together is one of three things
(`Service.Change.activation`): the account waits for its activation, it has been activated, or all
is as it was.  So they agree at every point of every run, with each other and with what has happened
(`Run.activation_agrees`): only the removal of tokens that are no longer good can leave an account
with neither an activation nor a token for it.
-/

namespace Gatehouse

set_option autoImplicit false

/-! ## Permissions and tokens of a holding -/

theorem Permission.ofCode?_eq_some {code : String} {permission : Permission} :
    ofCode? code = some permission ↔ code = permission.code := by
  constructor
  · intro isRead
    have same := List.find?_some isRead
    exact (beq_iff_eq.1 same).symm
  · rintro rfl
    cases permission <;> decide

/-- The permissions of an account are those whose codes it holds. -/
theorem Tables.includes_permissionsOf {tables : Tables} {id : Int} {permission : Permission} :
    (tables.permissionsOf id).includes permission = true ↔
      permission.code ∈ (tables.holding id).codes := by
  have isListed : (tables.permissionsOf id).includes permission = true ↔
      permission ∈ (tables.heldCodes id).filterMap Permission.ofCode? := by
    cases permission <;> exact List.contains_iff_mem
  rw [isListed, List.mem_filterMap]
  constructor
  · rintro ⟨code, isHeld, isRead⟩
    exact Permission.ofCode?_eq_some.1 isRead ▸ isHeld
  · intro isHeld
    exact ⟨permission.code, isHeld, Permission.ofCode?_eq_some.2 rfl⟩

namespace Holding

/-- Whether an account has a token in a scope, still good or not. -/
def HasToken (holding : Holding) (scope : Scope) : Prop :=
  ∃ row ∈ holding.tokens, row.scope = scope.tag

/-- Whether an account is activated, if there is one. -/
def isActivated? (holding : Holding) : Option Bool :=
  holding.account?.map Account.isActivated

theorem hasToken_replacing {holding : Holding} {scopes : List Scope} {made : List IssuedToken}
    {scope : Scope} :
    (holding.replacing scopes made).HasToken scope ↔
      (holding.HasToken scope ∧ scope ∉ scopes) ∨ ∃ issued ∈ made, issued.token.scope = scope := by
  have isReplaced {tag : String} (sameTag : tag = scope.tag) :
      tag ∈ scopes.map Scope.tag ↔ scope ∈ scopes := by
    rw [sameTag, List.mem_map]
    constructor
    · rintro ⟨other, isMember, same⟩
      exact Scope.tag_injective same ▸ isMember
    · intro isMember
      exact ⟨scope, isMember, rfl⟩
  constructor
  · rintro ⟨row, isHeld, sameScope⟩
    rcases mem_tokens_replacing.1 isHeld with ⟨isOld, isKept⟩ | ⟨issued, isMade, rfl⟩
    · exact .inl ⟨⟨row, isOld, sameScope⟩, mt (isReplaced sameScope).2 isKept⟩
    · exact .inr ⟨issued, isMade, Scope.tag_injective sameScope⟩
  · rintro (⟨⟨row, isOld, sameScope⟩, isKept⟩ | ⟨issued, isMade, rfl⟩)
    · exact ⟨row, mem_tokens_replacing.2 (.inl ⟨isOld, mt (isReplaced sameScope).1 isKept⟩),
        sameScope⟩
    · exact ⟨_, mem_tokens_replacing.2 (.inr ⟨issued, isMade, rfl⟩), rfl⟩

/-- Replacing tokens in other scopes does not matter to a scope. -/
theorem hasToken_replacing_of_ne {holding : Holding} {scopes : List Scope}
    {made : List IssuedToken} {scope : Scope} (isOther : scope ∉ scopes)
    (noneMade : ∀ issued ∈ made, issued.token.scope ≠ scope) :
    (holding.replacing scopes made).HasToken scope ↔ holding.HasToken scope := by
  rw [hasToken_replacing, and_iff_left isOther, or_iff_left]
  rintro ⟨issued, isMade, same⟩
  exact noneMade issued isMade same

end Holding

/-! ## What a call makes of an activation -/

namespace Service

/-- What a call makes of the activation of the account that it acts for. -/
inductive ActivationChange (before after : Holding) (call : Call) (reply : Reply) : Prop
  /-- The account waits for its activation, for the first time or anew. -/
  | waits (isInactive : after.isActivated? = some false) (hasToken : after.HasToken .activation)
      (notActivated : ∀ token, call ≠ .activate token)
      (sameWrites : Permission.writeUser.code ∈ after.codes ↔
        Permission.writeUser.code ∈ before.codes)
  /-- The account has been activated. -/
  | activated (isActivated : after.isActivated? = some true)
      (noToken : ¬after.HasToken .activation) (isActivation : ∃ token, call = .activate token)
      (writes : Permission.writeUser.code ∈ after.codes)
  /-- Nothing of the activation is touched. -/
  | kept (sameActivation : after.isActivated? = before.isActivated?)
      (sameToken : after.HasToken .activation ↔ before.HasToken .activation)
      (notActivated : ∀ token, call ≠ .activate token)
      (noneMade : ∀ issued ∈ reply.tokens, issued.token.scope ≠ .activation)
      (sameWrites : Permission.writeUser.code ∈ after.codes ↔
        Permission.writeUser.code ∈ before.codes)

variable {scheme : PasswordScheme} {now : Instant} {id : Int} {before after : Holding} {call : Call}
  {reply : Reply}

/-- What a call makes of the activation, the activation token and the permissions of the account
that it acts for. -/
theorem Change.activation (change : Change scheme now id before call reply after) :
    ActivationChange before after call reply := by
  cases change with
  | register isNew _ isNext isMade =>
      subst isNew
      refine .waits ?_ ?_ nofun ?_
      · rw [isNext]
        rfl
      · exact ⟨_, .head _, congrArg Scope.tag isMade.scope_eq⟩
      · have notHeld : Permission.writeUser.code ∉ [Permission.readUser.code] := by decide
        exact iff_of_false notHeld List.not_mem_nil
  | activate isStored isChanged =>
      subst isChanged
      refine .activated rfl ?_ ⟨_, rfl⟩ (Holding.mem_codes_granting.2 (.inr rfl))
      rw [Holding.hasToken_replacing]
      simp
  | @login _ _ access refresh isAccess isRefresh
  | @refresh _ access refresh isAccess isRefresh =>
      have noneMade : ∀ issued ∈ [access, refresh], issued.token.scope ≠ .activation := by
        simp [isAccess.scope_eq, isRefresh.scope_eq]
      exact .kept rfl (Holding.hasToken_replacing_of_ne (by decide) noneMade) nofun noneMade .rfl
  | logout =>
      exact .kept rfl (Holding.hasToken_replacing_of_ne (by decide) nofun) nofun nofun .rfl
  | @requestPasswordReset _ token isMade =>
      have noneMade : ∀ issued ∈ [token], issued.token.scope ≠ .activation := by
        simp [isMade.scope_eq]
      exact .kept rfl (Holding.hasToken_replacing_of_ne (by decide) noneMade) nofun noneMade .rfl
  | updatePassword isStored _ isChanged =>
      refine .kept ?_ (Holding.hasToken_replacing_of_ne (by decide) nofun) nofun nofun .rfl
      rw [isChanged, Holding.isActivated?, Holding.isActivated?, isStored]
      rfl
  | @updateAccount _ _ _ _ former latter _ made isStored _ isChanged isRenewed isMade =>
      have isActivated : latter.isActivated = (former.isActivated && !made.isSome) := by
        rw [isRenewed, Bool.not_not]
        exact congrArg Account.isActivated isChanged
      cases made with
      | none =>
          refine .kept ?_ (Holding.hasToken_replacing_of_ne nofun nofun) nofun nofun .rfl
          have sameFlag : latter.isActivated = former.isActivated := by simpa using isActivated
          rw [Holding.isActivated?, Holding.isActivated?, isStored]
          exact congrArg some sameFlag
      | some token =>
          refine .waits ?_ ?_ nofun .rfl
          · exact congrArg some (isActivated.trans (Bool.and_false _))
          · exact Holding.hasToken_replacing.2 (.inr ⟨token, .head _, (isMade token rfl).scope_eq⟩)
  | lookup isLookup noTokens =>
      refine .kept rfl .rfl ?_ ?_ .rfl
      · rintro token rfl
        cases isLookup
      · rw [noTokens]
        exact nofun

/-- An account may read itself from its registration on. -/
theorem Change.readsUser (change : Change scheme now id before call reply after)
    (reads : before.account?.isSome = true → Permission.readUser.code ∈ before.codes)
    (isThere : after.account?.isSome = true) : Permission.readUser.code ∈ after.codes := by
  cases change with
  | register => exact .head _
  | activate isStored =>
      exact Holding.mem_codes_granting.2 (.inl (reads (isStored ▸ rfl)))
  | updatePassword isStored | updateAccount isStored => exact reads (isStored ▸ rfl)
  | login | refresh | logout | requestPasswordReset | lookup => exact reads isThere

end Service

/-! ## Histories -/

namespace History

variable {scheme : PasswordScheme}

/-- Whether an activation of an account has succeeded. -/
def HasActivated (past : History scheme) (id : Int) : Prop :=
  ∃ event ∈ past, ∃ token, event.Served (.activate token) id

/-- Whether the activation token of an account has been removed because it was no longer good, and
none has been made for the account since. -/
def HasLost (past : History scheme) (id : Int) : Prop :=
  past.Since
    (fun _ event => event.action = .purgeExpired ∧
      (event.before.tables.holding id).HasToken .activation ∧
        ¬(event.after.tables.holding id).HasToken .activation)
    fun event => ∃ issued ∈ event.minted,
      issued.token.accountId = id ∧ issued.token.scope = .activation

/-- Whether what is held for an account agrees with what has happened. -/
structure Explains (past : History scheme) (id : Int) (holding : Holding) : Prop where
  reads : holding.account?.isSome = true → Permission.readUser.code ∈ holding.codes
  writes : Permission.writeUser.code ∈ holding.codes ↔ past.HasActivated id
  activated : holding.isActivated? = some true →
    past.HasActivated id ∧ ¬holding.HasToken .activation
  waits : holding.isActivated? = some false → holding.HasToken .activation ∨ past.HasLost id

variable {past : History scheme} {event : Event scheme} {id : Int} {before after : Holding}

theorem hasActivated_concat :
    (past ++ [event]).HasActivated id ↔
      past.HasActivated id ∨ ∃ token, event.Served (.activate token) id := by
  simp only [HasActivated, List.mem_append, List.mem_singleton, or_and_right, exists_or,
    exists_eq_left]

/-- An event that touches nothing of an activation keeps the agreement. -/
theorem Explains.kept (explains : past.Explains id before)
    (reads : after.account?.isSome = true → Permission.readUser.code ∈ after.codes)
    (sameActivation : after.isActivated? = before.isActivated?)
    (sameToken : after.HasToken .activation ↔ before.HasToken .activation)
    (sameWrites : Permission.writeUser.code ∈ after.codes ↔
      Permission.writeUser.code ∈ before.codes)
    (notActivated : ∀ token, ¬event.Served (.activate token) id)
    (noneMade : ¬∃ issued ∈ event.minted,
      issued.token.accountId = id ∧ issued.token.scope = .activation) :
    (past ++ [event]).Explains id after := by
  have sameHistory : (past ++ [event]).HasActivated id ↔ past.HasActivated id := by
    rw [hasActivated_concat, or_iff_left (not_exists.2 notActivated)]
  constructor
  case reads => exact reads
  case writes => rw [sameWrites, sameHistory, explains.writes]
  case activated =>
    rw [sameActivation, sameToken, sameHistory]
    exact explains.activated
  case waits =>
    rw [sameActivation, sameToken]
    intro isInactive
    exact (explains.waits isInactive).imp_right fun lost => since_concat.2 (.inl ⟨lost, noneMade⟩)

/-- An event keeps the agreement, whatever it is to the account. -/
theorem Explains.step (explains : past.Explains id (event.before.tables.holding id))
    (affects : event.Affects id) : (past ++ [event]).Explains id (event.after.tables.holding id) := by
  cases affects with
  | spared sameHolding notServed notMinted =>
      rw [sameHolding]
      refine explains.kept explains.reads rfl .rfl .rfl (fun _ => notServed _) ?_
      rintro ⟨issued, isMinted, owner, -⟩
      exact notMinted issued isMinted owner
  | purged isPurge notMinted sameAccount sameCodes isLeft =>
      have sameHistory : (past ++ [event]).HasActivated id ↔ past.HasActivated id := by
        refine hasActivated_concat.trans (or_iff_left ?_)
        rintro ⟨token, again⟩
        exact Event.not_served_of_purge isPurge _ _ again
      have noneMade : ¬∃ issued ∈ event.minted,
          issued.token.accountId = id ∧ issued.token.scope = .activation := by
        rw [notMinted]
        rintro ⟨_, isMinted, -⟩
        cases isMinted
      have wasHeld : (event.after.tables.holding id).HasToken .activation →
          (event.before.tables.holding id).HasToken .activation := by
        rintro ⟨row, isHeld, sameScope⟩
        rw [isLeft] at isHeld
        exact ⟨row, (List.mem_filter.1 isHeld).1, sameScope⟩
      have sameActivation : (event.after.tables.holding id).isActivated? =
          (event.before.tables.holding id).isActivated? :=
        congrArg (Option.map Account.isActivated) sameAccount
      constructor
      case reads =>
        rw [sameAccount, sameCodes]
        exact explains.reads
      case writes => rw [sameCodes, sameHistory, explains.writes]
      case activated =>
        intro isActivated
        obtain ⟨hasActivated, noToken⟩ := explains.activated (sameActivation ▸ isActivated)
        exact ⟨sameHistory.2 hasActivated, mt wasHeld noToken⟩
      case waits =>
        intro isInactive
        by_cases isHeld : (event.after.tables.holding id).HasToken .activation
        · exact .inl isHeld
        · -- the token has just been removed, or it was removed before
          refine .inr (since_concat.2 ?_)
          rcases explains.waits (sameActivation ▸ isInactive) with wasHeld | hasLost
          · exact .inr ⟨isPurge, wasHeld, isHeld⟩
          · exact .inl ⟨hasLost, noneMade⟩
  | served served isMinted change =>
      have reads := change.readsUser explains.reads
      cases change.activation with
      | waits isInactive hasToken notActivated sameWrites =>
          have sameHistory : (past ++ [event]).HasActivated id ↔ past.HasActivated id := by
            refine hasActivated_concat.trans (or_iff_left ?_)
            rintro ⟨token, again⟩
            exact notActivated token (served.call_eq again)
          refine ⟨reads, ?_, fun isActivated => ?_, fun _ => .inl hasToken⟩
          · rw [sameWrites, sameHistory, explains.writes]
          · cases isInactive.symm.trans isActivated
      | activated isActivated noToken isActivating writes =>
          obtain ⟨token, rfl⟩ := isActivating
          have hasActivated : (past ++ [event]).HasActivated id :=
            hasActivated_concat.2 (.inr ⟨token, served⟩)
          refine ⟨reads, iff_of_true writes hasActivated, fun _ => ⟨hasActivated, noToken⟩, ?_⟩
          intro isInactive
          cases isActivated.symm.trans isInactive
      | kept sameActivation sameToken notActivated noneMade sameWrites =>
          refine explains.kept reads sameActivation sameToken sameWrites ?_ ?_
          · exact fun token again => notActivated token (served.call_eq again)
          · rw [isMinted]
            rintro ⟨issued, isMade, -, sameScope⟩
            exact noneMade issued isMade sameScope

end History

/-! ## Grants only grow -/

variable {scheme : PasswordScheme} {past : History scheme} {database : Database}

theorem Tables.grants_subset_granted (tables : Tables) (id : Int) (permission : Permission) :
    tables.grants ⊆ (tables.granted id permission).grants := by
  unfold granted
  split
  · exact List.subset_append_left _ _
  · exact List.Subset.refl _

theorem Tables.grants_subset_of_grant {tables after : Tables} {id : Int}
    {permissions : List Permission} (done : tables.grant id permissions = .ok after) :
    tables.grants ⊆ after.grants := by
  induction permissions generalizing tables with
  | nil =>
      cases done
      exact List.Subset.refl _
  | cons permission rest ih =>
      rw [Tables.grant] at done
      split at done
      next => cases done
      next granted isGranted =>
        obtain rfl := Tables.eq_granted_of_grantOne isGranted
        exact List.Subset.trans (grants_subset_granted tables id permission) (ih done)

theorem Service.Effect.grants_subset {now : Instant} {before after : Tables} {call : Call}
    {reply : Reply} {letters : List Mail.Letter}
    (effect : Effect scheme now before call reply letters after) : before.grants ⊆ after.grants := by
  cases effect with
  | register => exact Tables.grants_subset_granted (before.withAccount _) _ _
  | activate => exact Tables.grants_subset_granted (before.withChange _) _ _
  | _ => exact List.Subset.refl _

/-- No event takes a permission away from anybody. -/
theorem Event.grants_subset (event : Event scheme) :
    event.before.tables.grants ⊆ event.after.tables.grants := by
  have leads := event.leads
  simp only [Event.after]
  generalize event.outcome = outcome at leads
  generalize event.action = action at leads
  cases leads with
  | failed | closed => exact List.Subset.refl _
  | done effect =>
      cases effect with
      | call effect => exact effect.grants_subset
      | grant isGranted => exact Tables.grants_subset_of_grant isGranted
      | _ => exact List.Subset.refl _

/-- What is granted at some point of a run stays granted. -/
theorem Run.grants_subset {admits : History scheme → Action → Prop}
    (run : Run scheme admits past database) :
    ∀ event ∈ past, event.before.tables.grants ⊆ event.after.tables.grants ∧
      event.after.tables.grants ⊆ database.tables.grants := by
  induction run with
  | start => exact fun event member => absurd member List.not_mem_nil
  | @step past database run moment action admitted ih =>
      intro event member
      refine ⟨event.grants_subset, ?_⟩
      rcases List.mem_append.1 member with isEarlier | isLast
      · exact List.Subset.trans (ih event isEarlier).2
          (⟨moment, action, database⟩ : Event scheme).grants_subset
      · rw [List.mem_singleton.1 isLast]
        exact List.Subset.refl _

/-! ## Runs -/

/-- In a run of calls and of removals of tokens, what is held for each account agrees with what has
happened. -/
theorem Run.explains (run : Run scheme History.AdmitsCallsAndPurges past database) (id : Int) :
    past.Explains id (database.tables.holding id) := by
  refine run.invariant_of_affects id (History.Explains · id) ?_ fun explains => explains.step
  have notActivated : ¬History.HasActivated ([] : History scheme) id := by
    rintro ⟨event, member, -⟩
    cases member
  exact ⟨nofun, iff_of_false List.not_mem_nil notActivated, nofun, nofun⟩

/-- Whether the activation of a stored account, its activation token and its permissions agree with
each other and with what has happened. -/
structure History.Agrees (past : History scheme) (tables : Tables) (stored : Account) : Prop where
  readsUser : (tables.permissionsOf stored.id).includes .readUser = true
  /-- An account may change itself if and only if it has been activated once. -/
  writesUser : (tables.permissionsOf stored.id).includes .writeUser = true ↔
    past.HasActivated stored.id
  activated : stored.isActivated = true →
    (tables.permissionsOf stored.id).includes .writeUser = true ∧
      ¬(tables.holding stored.id).HasToken .activation
  /-- An account that is not activated has a token to activate it with, still good or not, unless
  the token was removed because it was no longer good. -/
  waits : stored.isActivated = false →
    (tables.holding stored.id).HasToken .activation ∨ past.HasLost stored.id

/-- **Activation, tokens and permissions agree.**  At every point of every run of calls and of
removals of the tokens that are no longer good, this is so for every stored account, and no event
takes a grant away. -/
theorem Run.activation_agrees (run : Run scheme History.AdmitsCallsAndPurges past database) :
    (∀ stored ∈ database.tables.accounts, past.Agrees database.tables stored) ∧
      ∀ event ∈ past, event.before.tables.grants ⊆ event.after.tables.grants ∧
        event.after.tables.grants ⊆ database.tables.grants := by
  refine ⟨fun stored isStored => ?_, run.grants_subset⟩
  have explains := run.explains stored.id
  have isFound : (database.tables.holding stored.id).account? = some stored :=
    run.sound.account?_eq_some.2 ⟨isStored, rfl⟩
  have flag : (database.tables.holding stored.id).isActivated? = some stored.isActivated :=
    congrArg (Option.map Account.isActivated) isFound
  constructor
  case readsUser => exact Tables.includes_permissionsOf.2 (explains.reads (isFound ▸ rfl))
  case writesUser => exact Tables.includes_permissionsOf.trans explains.writes
  case activated =>
    intro isActivated
    obtain ⟨hasActivated, noToken⟩ := explains.activated (flag.trans (congrArg some isActivated))
    exact ⟨Tables.includes_permissionsOf.2 (explains.writes.2 hasActivated), noToken⟩
  case waits => exact fun isInactive => explains.waits (flag.trans (congrArg some isInactive))

/-- Who activates an account after registering it may read and change it, and the token is gone. -/
theorem activated_account_may_change_itself :
    Run sampleScheme History.AdmitsCallsAndPurges ([sampleRegistration] ++ [sampleActivation])
        sampleActivation.after ∧
      ∃ stored ∈ sampleActivation.after.tables.accounts, stored.isActivated = true ∧
        (sampleActivation.after.tables.permissionsOf stored.id).includes .readUser = true ∧
        (sampleActivation.after.tables.permissionsOf stored.id).includes .writeUser = true ∧
        ¬(sampleActivation.after.tables.holding stored.id).HasToken .activation := by
  have run := run_sampleActivation.mono fun _ _ => History.admitsCallsAndPurges_of_admitsCalls
  obtain ⟨stored, isStored, isActivated⟩ :
      ∃ stored ∈ sampleActivation.after.tables.accounts, stored.isActivated = true := by
    decide +kernel
  have agrees := (Run.activation_agrees run).1 stored isStored
  exact ⟨run, stored, isStored, isActivated, agrees.readsUser, agrees.activated isActivated⟩

end Gatehouse
