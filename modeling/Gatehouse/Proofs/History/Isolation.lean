import Gatehouse.Proofs.History.Changes
import Gatehouse.Proofs.History.Tokens

/-!
# Accounts are kept apart

Whatever a run has led to, a call that succeeds touches the rows of one account only, and those in
no other way than it is meant to (`Run.call_changes_its_account_only`).  That no other account is
touched holds for any caller.  What becomes of the account itself takes a caller whose copy was
handed out before, since a change is made from the copy.

Every copy that has been handed out is recalled (`Run.recalls`), whatever else was asked of the
service and of its store in between.
-/

namespace Gatehouse

set_option autoImplicit false

variable {scheme : PasswordScheme} {past : History scheme} {database : Database}

/-! ## Copies that are handed out -/

/-- A call hands out copies of what is stored after it, or the copy that the caller has. -/
theorem Service.Effect.recalls_copies {now : Instant} {before after : Tables} {call : Call}
    {reply : Reply} {letters : List Mail.Letter}
    (effect : Effect scheme now before call reply letters after) (sound : before.Sound)
    (known : ∀ copy, past.Knows copy → before.Recalls copy)
    (admitted : past.AdmitsUses (.call call)) : ∀ copy ∈ reply.copies, after.Recalls copy := by
  intro copy isCopy
  cases effect with
  | register =>
      obtain rfl := List.mem_singleton.1 isCopy
      refine Tables.recalls_of_mem ?_
      exact (Tables.accounts_granted _ _).symm ▸ Tables.mem_withAccount.2 (.inr rfl)
  | activate _ _ accepts =>
      obtain rfl := List.mem_singleton.1 isCopy
      exact sound.recalls_advanced accepts (Tables.accounts_granted _ _)
  | updatePassword _ _ _ accepts | updateInPlace _ _ _ accepts | updateAddress _ _ _ accepts =>
      obtain rfl := List.mem_singleton.1 isCopy
      exact sound.recalls_advanced accepts rfl
  | getAccount isStored =>
      obtain rfl := List.mem_singleton.1 isCopy
      exact Tables.recalls_of_mem (Tables.mem_of_account?_eq_some isStored).1
  | authenticate _ holds =>
      obtain rfl := List.mem_singleton.1 isCopy
      exact Tables.recalls_of_mem (Tables.mem_of_accountByToken?_eq_some holds).1
  | requirePermissions =>
      obtain rfl := List.mem_singleton.1 isCopy
      exact known _ (admitted _ rfl)
  | login | refresh | logout | requestPasswordReset | sessionExpiry => cases isCopy

theorem Action.Effect.recalls_copies {now : Instant} {before after : Tables} {action : Action}
    {answer : Answer} {letters : List Mail.Letter}
    (effect : Effect scheme now before action answer letters after) (sound : before.Sound)
    (known : ∀ copy, past.Knows copy → before.Recalls copy)
    (admitted : past.AdmitsUses action) : ∀ copy ∈ answer.copies, after.Recalls copy := by
  have found {copy : Account} {isSought : Account → Bool}
      (isCopy : copy ∈ (before.accounts.find? isSought).toList) : before.Recalls copy :=
    Tables.recalls_of_mem (List.mem_of_find?_eq_some (Option.mem_toList.1 isCopy))
  intro copy isCopy
  cases effect with
  | call effect => exact effect.recalls_copies sound known admitted copy isCopy
  | createAccount =>
      obtain rfl := List.mem_singleton.1 isCopy
      exact Tables.recalls_of_mem (Tables.mem_withAccount.2 (.inr rfl))
  | updateAccount accepts =>
      obtain rfl := List.mem_singleton.1 isCopy
      exact sound.recalls_advanced accepts rfl
  | accountById | accountNamed | accountAt => exact found isCopy
  | accountByToken =>
      have holds := Option.mem_toList.1 isCopy
      exact Tables.recalls_of_mem (Tables.mem_of_accountByToken?_eq_some holds).1
  | createToken | breakOff | insertToken | token | removeToken | purgeExpired | grant | permissions =>
      cases isCopy

/-- Every copy that an event hands out is recalled after it. -/
theorem Event.recalls_copies {event : Event scheme} (sound : event.before.tables.Sound)
    (known : ∀ copy, past.Knows copy → event.before.tables.Recalls copy)
    (admitted : past.AdmitsUses event.action) :
    ∀ copy ∈ event.copies, event.after.tables.Recalls copy := by
  have leads := event.leads
  simp only [Event.copies, Event.answer?, Event.after]
  generalize event.outcome = outcome at leads
  intro copy isCopy
  cases leads with
  | failed | closed => cases isCopy
  | done effect => exact effect.recalls_copies sound known admitted copy isCopy

/-- Every copy that a run has handed out is recalled. -/
theorem Run.recalls (run : Run scheme History.AdmitsUses past database) :
    ∀ copy, past.Knows copy → database.tables.Recalls copy := by
  induction run with
  | start =>
      rintro copy ⟨event, member, -⟩
      cases member
  | step run moment action admitted ih =>
      rintro copy ⟨event, member, isCopy⟩
      rcases List.mem_append.1 member with isEarlier | isLast
      · exact (Event.accountsStep _).recalls (ih copy ⟨event, isEarlier, isCopy⟩)
      · rw [List.mem_singleton.1 isLast] at isCopy
        exact Event.recalls_copies run.sound ih admitted copy isCopy

/-! ## Permissions that exist -/

theorem Tables.permissionCodes_of_grant {tables after : Tables} {accountId : Int}
    {permissions : List Permission} (done : tables.grant accountId permissions = .ok after) :
    after.permissionCodes = tables.permissionCodes := by
  induction permissions generalizing tables with
  | nil =>
      cases done
      rfl
  | cons permission rest ih =>
      rw [Tables.grant] at done
      split at done
      next => cases done
      next granted isGranted =>
        rw [ih done, Tables.eq_granted_of_grantOne isGranted, permissionCodes_granted]

/-- No event adds or removes a permission as such. -/
theorem Event.permissionCodes_after (event : Event scheme) :
    event.after.tables.permissionCodes = event.before.tables.permissionCodes := by
  have leads := event.leads
  simp only [Event.after]
  generalize event.outcome = outcome at leads
  generalize event.action = action at leads
  cases leads with
  | failed | closed => rfl
  | done effect =>
      cases effect with
      | call effect =>
          cases effect with
          | register | activate => exact Tables.permissionCodes_granted _ _
          | _ => rfl
      | grant isGranted => exact Tables.permissionCodes_of_grant isGranted
      | _ => rfl

/-- The permissions that the service knows are those that exist. -/
theorem Run.permission_mem {admits : History scheme → Action → Prop}
    (run : Run scheme admits past database) (permission : Permission) :
    permission.code ∈ database.tables.permissionCodes := by
  induction run with
  | start => cases permission <;> decide
  | step run moment action admitted ih => exact (Event.permissionCodes_after _).symm ▸ ih

/-! ## Calls -/

/-- A change keeps the id, the time of creation and the name of an account. -/
theorem Service.Change.keeps {now : Instant} {id : Int} {before after : Holding} {call : Call}
    {reply : Reply} (change : Change scheme now id before call reply after) {former : Account}
    (isStored : before.account? = some former) :
    ∃ latter, after.account? = some latter ∧ latter.id = former.id ∧
      latter.createdAt = former.createdAt ∧ latter.username = former.username := by
  cases change with
  | register isNew =>
      rw [isNew] at isStored
      cases isStored
  | activate isFormer isChanged | updatePassword isFormer _ isChanged
  | updateAccount isFormer _ isChanged =>
      obtain rfl := Option.some.inj (isFormer.symm.trans isStored)
      rw [isChanged]
      exact ⟨_, rfl, rfl, rfl, rfl⟩
  | login | refresh | logout | requestPasswordReset | lookup =>
      exact ⟨former, isStored, rfl, rfl, rfl⟩

/-- A call that only looks something up writes nothing. -/
theorem Service.Effect.eq_of_isLookup {now : Instant} {before after : Tables} {call : Call}
    {reply : Reply} {letters : List Mail.Letter}
    (effect : Effect scheme now before call reply letters after) (isLookup : call.isLookup = true) :
    after = before := by
  cases effect with
  | getAccount | authenticate | requirePermissions | sessionExpiry => rfl
  | _ => cases isLookup

/-- A call that succeeds on the tables of a run acts for an account, leaves all others alone, and
changes that one as it is meant to. -/
theorem Run.change_of_effect (run : Run scheme History.AdmitsUses past database) {now : Instant}
    {call : Service.Call} {reply : Service.Reply} {letters : List Mail.Letter} {after : Tables}
    (effect : Service.Effect scheme now database.tables call reply letters after) :
    ∃ id, call.subject? now database.tables = some id ∧
      (∀ other, other ≠ id → after.holding other = database.tables.holding other) ∧
      ((∀ caller, call.identity = .known caller → past.Knows caller) →
        Service.Change scheme now id (database.tables.holding id) call reply
          (after.holding id)) := by
  obtain ⟨id, subject, others⟩ := effect.holding_of_ne run.sound
  refine ⟨id, subject, others, fun isKnown => ?_⟩
  exact effect.change run.sound run.permission_mem
    (fun caller isCaller => run.recalls caller (isKnown caller isCaller)) subject

/-! ## Events -/

theorem Event.Served.call_eq {event : Event scheme} {call other : Service.Call} {id id' : Int}
    (served : event.Served call id) (again : event.Served other id') : call = other :=
  Action.call.inj (served.1.symm.trans again.1)

theorem Event.not_served_of_purge {event : Event scheme} (isPurge : event.action = .purgeExpired)
    (call : Service.Call) (id : Int) : ¬event.Served call id := by
  rintro ⟨isCall, -⟩
  cases isPurge.symm.trans isCall

theorem IssuedToken.IsMade.accountId_eq {issued : IssuedToken} {now : Instant} {id : Int}
    {scope : Scope} (isMade : issued.IsMade now id scope) : issued.token.accountId = id := by
  obtain ⟨draw, rfl⟩ := isMade
  rfl

theorem IssuedToken.IsMade.scope_eq {issued : IssuedToken} {now : Instant} {id : Int}
    {scope : Scope} (isMade : issued.IsMade now id scope) : issued.token.scope = scope := by
  obtain ⟨draw, rfl⟩ := isMade
  rfl

/-- The tokens that a call hands out are those of the account that it acts for. -/
theorem Service.Change.owner {now : Instant} {id : Int} {before after : Holding} {call : Call}
    {reply : Reply} (change : Change scheme now id before call reply after) :
    ∀ issued ∈ reply.tokens, issued.token.accountId = id := by
  intro issued isIssued
  cases change with
  | register _ _ _ isMade | requestPasswordReset isMade =>
      rw [List.mem_singleton.1 isIssued]
      exact isMade.accountId_eq
  | login isAccess isRefresh | refresh isAccess isRefresh =>
      rcases List.mem_cons.1 isIssued with rfl | isLast
      · exact isAccess.accountId_eq
      · rw [List.mem_singleton.1 isLast]
        exact isRefresh.accountId_eq
  | updateAccount _ _ _ _ isMade => exact (isMade issued (Option.mem_toList.1 isIssued)).accountId_eq
  | lookup _ noTokens =>
      rw [noTokens] at isIssued
      cases isIssued
  | activate | logout | updatePassword => cases isIssued

/-- What an event is to the account with an id, if it is a call of the service or the removal of
tokens that are no longer good. -/
inductive Event.Affects (event : Event scheme) (id : Int) : Prop
  /-- It fails, or it is about another account. -/
  | spared (sameHolding : event.after.tables.holding id = event.before.tables.holding id)
      (notServed : ∀ call, ¬event.Served call id)
      (notMinted : ∀ issued ∈ event.minted, issued.token.accountId ≠ id)
  /-- It is a call that acts for the account. -/
  | served {call : Service.Call} {reply : Service.Reply} (served : event.Served call id)
      (isMinted : event.minted = reply.tokens)
      (change : Service.Change scheme event.moment.now id (event.before.tables.holding id) call
        reply (event.after.tables.holding id))
  /-- It removes the tokens that are no longer good. -/
  | purged (isPurge : event.action = .purgeExpired) (notMinted : event.minted = [])
      (sameAccount : (event.after.tables.holding id).account? =
        (event.before.tables.holding id).account?)
      (sameCodes : (event.after.tables.holding id).codes = (event.before.tables.holding id).codes)
      (isLeft : (event.after.tables.holding id).tokens =
        (event.before.tables.holding id).tokens.filter fun row =>
          !Tables.isPast event.moment.now row)

theorem History.admitsUses_of_admitsCallsAndPurges {action : Action}
    (admitted : past.AdmitsCallsAndPurges action) : past.AdmitsUses action := by
  cases action with
  | call call =>
      cases call with
      | requirePermissions => exact admitted
      | _ => trivial
  | _ => trivial

theorem History.admitsCallsAndPurges_of_admitsCalls {action : Action}
    (admitted : past.AdmitsCalls action) : past.AdmitsCallsAndPurges action := by
  cases action with
  | purgeExpired => trivial
  | _ => exact admitted

/-- A removal of tokens that succeeds leaves those that are still good. -/
theorem Event.effect_of_purge {event : Event scheme} {answer : Answer}
    (isPurge : event.action = .purgeExpired) (answered : event.answer? = some answer) :
    event.after.tables = (event.before.tables.purgeExpired event.moment.now).2 ∧
      answer.tokens = [] := by
  have leads := event.leads
  simp only [answer?, after] at answered ⊢
  generalize event.outcome = outcome at leads answered
  rw [isPurge] at leads
  cases leads with
  | failed => cases answered
  | closed isClose => cases isClose
  | done effect =>
      cases effect
      cases answered
      exact ⟨rfl, rfl⟩

/-- A call of a run, or a removal of tokens, is one of these to each account. -/
theorem Event.affects {event : Event scheme} (run : Run scheme History.AdmitsUses past event.before)
    (admitted : past.AdmitsCallsAndPurges event.action) (id : Int) : event.Affects id := by
  cases answered : event.answer? with
  | none =>
      refine .spared (by rw [(unchanged_of_failed answered).1]) ?_ ?_
      · rintro call ⟨-, succeeded, -⟩
        simp [answered] at succeeded
      · simp [minted, answered]
  | some answer =>
      cases isAction : event.action with
      | call call =>
          rw [isAction] at admitted
          obtain ⟨reply, rfl, effect⟩ := effect_of_call isAction answered
          obtain ⟨subject, isSubject, others, own⟩ := run.change_of_effect effect
          have change := own admitted
          have isMinted : event.minted = reply.tokens := by
            rw [minted, answered]
            rfl
          by_cases isOwn : id = subject
          · subst isOwn
            exact .served ⟨isAction, answered ▸ rfl, isSubject⟩ isMinted change
          · refine .spared (others id isOwn) ?_ ?_
            · rintro other ⟨isOther, -, isSubject'⟩
              obtain rfl : call = other := Action.call.inj (isAction.symm.trans isOther)
              exact isOwn (Option.some.inj (isSubject'.symm.trans isSubject))
            · intro issued isIssued same
              rw [isMinted] at isIssued
              exact isOwn (same.symm.trans (change.owner issued isIssued))
      | purgeExpired =>
          obtain ⟨isLeft, noTokens⟩ := effect_of_purge isAction answered
          have held := (congrArg (Tables.holding · id) isLeft).trans (Tables.holding_filterTokens _)
          refine .purged isAction ?_ (by rw [held]) (by rw [held]) (by rw [held])
          rw [minted, answered]
          exact noTokens
      | _ =>
          rw [isAction] at admitted
          exact admitted.elim

/-- What is so for an account at the start, and stays so whatever an event is to the account, is so
at every point of a run of calls and of removals of tokens. -/
theorem Run.invariant_of_affects (run : Run scheme History.AdmitsCallsAndPurges past database)
    (id : Int) (invariant : History scheme → Holding → Prop) (start : invariant [] .empty)
    (step : ∀ {past : History scheme} {event : Event scheme},
      invariant past (event.before.tables.holding id) → event.Affects id →
        invariant (past ++ [event]) (event.after.tables.holding id)) :
    invariant past (database.tables.holding id) := by
  induction run with
  | start => exact start
  | step run moment action admitted ih =>
      refine step ih (Event.affects (run.mono fun _ _ => ?_) admitted id)
      exact History.admitsUses_of_admitsCallsAndPurges

/-! ## Calls that succeed -/

/-- **Accounts are kept apart.**  After any run of calls of the service and of uses of the store, a
call that succeeds acts for one account: the one that is created next, the owner of the token that
is presented, the one with the name or the address that is given, or that of the caller.

* The row, the tokens and the permissions of every other account stay as they are, whoever calls.
* A call by nobody in particular or with a copy that was handed out before makes of the account
  itself what `Service.Change` says for the call, and keeps the id, the time of creation and the
  name of every account.
* A call that only looks something up leaves the database as it is. -/
theorem Run.call_changes_its_account_only (run : Run scheme History.AdmitsUses past database)
    (moment : Moment) (call : Service.Call) {reply : Service.Reply}
    (done : (Service.perform scheme moment database call).result = .ok reply) :
    ∃ id after, (Service.perform scheme moment database call).database =
        { database with tables := after } ∧
      call.subject? moment.now database.tables = some id ∧
      (∀ other, other ≠ id → after.holding other = database.tables.holding other) ∧
      ((∀ caller, call.identity = .known caller → past.Knows caller) →
        Service.Change scheme moment.now id (database.tables.holding id) call reply
            (after.holding id) ∧
          ∀ former ∈ database.tables.accounts, ∃ latter ∈ after.accounts, latter.id = former.id ∧
            latter.createdAt = former.createdAt ∧ latter.username = former.username) ∧
      (call.isLookup = true → after = database.tables) := by
  obtain ⟨-, after, effect, isAfter⟩ := Service.effect_of_perform done
  obtain ⟨id, subject, others, own⟩ := run.change_of_effect effect
  refine ⟨id, after, isAfter, subject, others, fun isKnown => ⟨own isKnown, ?_⟩, ?_⟩
  · intro former isStored
    have isFormer : (database.tables.holding former.id).account? = some former :=
      run.sound.account?_eq_some.2 ⟨isStored, rfl⟩
    have isLatter : ∃ latter, (after.holding former.id).account? = some latter ∧
        latter.id = former.id ∧ latter.createdAt = former.createdAt ∧
          latter.username = former.username := by
      by_cases isOwn : former.id = id
      · subst isOwn
        exact (own isKnown).keeps isFormer
      · exact ⟨former, others _ isOwn ▸ isFormer, rfl, rfl, rfl⟩
    obtain ⟨latter, isFound, kept⟩ := isLatter
    exact ⟨latter, (Tables.mem_of_account?_eq_some isFound).1, kept⟩
  · exact effect.eq_of_isLookup

/-- Somebody else has an account beside the one that has been registered. -/
def sampleNeighbour : Event sampleScheme :=
  ⟨.idle, .createAccount ⟨"bob", "bob@example.com", "stored"⟩, sampleRegistration.after⟩

theorem run_sampleNeighbour :
    Run sampleScheme History.AdmitsUses ([sampleRegistration] ++ [sampleNeighbour])
      sampleNeighbour.after :=
  .step (.step .start _ _ trivial) _ _ trivial

/-- When the first of two accounts is activated, the second one keeps what it has. -/
theorem activation_leaves_neighbour_alone :
    ∃ reply, ∃ after : Tables,
      (Service.perform sampleScheme ⟨⟨0⟩, []⟩ sampleNeighbour.after
        (.activate sampleToken.plaintext)).result = .ok reply ∧
      Service.Change sampleScheme ⟨0⟩ 1 (sampleNeighbour.after.tables.holding 1)
        (.activate sampleToken.plaintext) reply (after.holding 1) ∧
      after.holding 2 = sampleNeighbour.after.tables.holding 2 ∧
      (after.holding 2).account? =
        some ⟨2, ⟨0⟩, "bob", "bob@example.com", "stored", false, 1⟩ := by
  obtain ⟨reply, done⟩ : ∃ reply, (Service.perform sampleScheme ⟨⟨0⟩, []⟩ sampleNeighbour.after
      (.activate sampleToken.plaintext)).result = .ok reply := by
    have succeeds : (Service.perform sampleScheme ⟨⟨0⟩, []⟩ sampleNeighbour.after
      (.activate sampleToken.plaintext)).result.toOption.isSome = true := by decide +kernel
    revert succeeds
    cases (Service.perform sampleScheme ⟨⟨0⟩, []⟩ sampleNeighbour.after
      (.activate sampleToken.plaintext)).result with
    | ok reply => exact fun _ => ⟨reply, rfl⟩
    | error fault => exact nofun
  obtain ⟨id, after, -, subject, others, own, -⟩ :=
    Run.call_changes_its_account_only run_sampleNeighbour _ _ done
  have isFirst : (Service.Call.activate sampleToken.plaintext).subject? ⟨0⟩
      sampleNeighbour.after.tables = some 1 := by decide +kernel
  obtain rfl : id = 1 := Option.some.inj (subject.symm.trans isFirst)
  have isKept := others 2 (by decide)
  exact ⟨reply, after, done, (own nofun).1, isKept, isKept ▸ by decide +kernel⟩

end Gatehouse
