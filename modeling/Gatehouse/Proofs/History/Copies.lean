import Gatehouse.Proofs.History.Reachable

/-!
# Copies of accounts

Callers keep copies of accounts, of which some are out of date.  The tables *remember* a copy if
they have its account, created at the same time, and with the content of the copy as long as it has
the version of the copy.  What has been remembered once is remembered for good: each change of an
account raises its version (`AccountsStep.remembers`).  In a run every copy that has been handed out
is remembered (`Run.remembers`), and so a copy that can still be written back is the stored account
up to what the caller has changed.  What writing back leaves of a copy is remembered too, unless its
name or its address is taken (`Run.remembers_left`).
-/

namespace Gatehouse

set_option autoImplicit false

/-! ## What happens to accounts -/

/-- What an event does to the stored accounts.  It keeps them, it adds the next one, or it changes
the one with the id that is given. -/
inductive AccountsStep (before after : Tables) : Option Int → Prop
  | kept (sameAccounts : after.accounts = before.accounts)
      (sameLast : after.lastAccountId = before.lastAccountId) : AccountsStep before after none
  | created (now : Instant) (new : NewAccount)
      (isAdded : after.accounts = (before.withAccount (before.nextAccount now new)).accounts)
      (isNext : after.lastAccountId = before.lastAccountId + 1) : AccountsStep before after none
  | changed {changed : Account} {id : Int} (accepts : before.Accepts changed)
      (isWritten : after.accounts = (before.withChange changed).accounts)
      (sameLast : after.lastAccountId = before.lastAccountId) (sameId : changed.id = id) :
      AccountsStep before after (some id)

/-- Granting changes nothing but the grants. -/
theorem Tables.exists_grants_of_grant {tables after : Tables} {accountId : Int}
    {permissions : List Permission} (done : tables.grant accountId permissions = .ok after) :
    ∃ grants, after = { tables with grants } := by
  induction permissions generalizing tables with
  | nil =>
      cases done
      exact ⟨_, rfl⟩
  | cons permission rest ih =>
      rw [Tables.grant] at done
      split at done
      next => cases done
      next granted isGranted =>
        obtain ⟨grants, rfl⟩ := ih done
        rw [Tables.eq_granted_of_grantOne isGranted, Tables.granted]
        split <;> exact ⟨grants, rfl⟩

theorem Service.SetsPassword.eq {scheme : PasswordScheme} {former changed : Account}
    {password : Option String} (isSet : Service.SetsPassword scheme former changed password) :
    changed = { former with passwordHash := changed.passwordHash } := by
  cases password with
  | none =>
      cases isSet
      rfl
  | some password =>
      obtain ⟨_, _, _, rfl⟩ := isSet
      rfl

/-- A change of a caller's account is a change of the row that has its id. -/
theorem Service.SetsPassword.id_eq {scheme : PasswordScheme} {caller changed : Account}
    {email password : Option String}
    (isSet : Service.SetsPassword scheme (Service.withAddress caller email) changed password) :
    changed.id = caller.id := by
  rw [isSet.eq]
  rfl

theorem Service.Effect.accountsStep {scheme : PasswordScheme} {now : Instant}
    {tables after : Tables} {call : Call} {reply : Reply} {letters : List Mail.Letter}
    (effect : Effect scheme now tables call reply letters after) :
    AccountsStep tables after
      (if call.changesAccount then call.subject? now tables else none) := by
  cases effect with
  | register _ _ _ isNext =>
      subst isNext
      exact .created now _ (Tables.accounts_granted _ _) (Tables.lastAccountId_granted _ _)
  | activate _ holds accepts =>
      simp only [Call.changesAccount, Call.subject?, Call.subject?.ownerId?, holds]
      exact .changed accepts (Tables.accounts_granted _ _) (Tables.lastAccountId_granted _ _) rfl
  | updatePassword _ _ holds accepts =>
      simp only [Call.changesAccount, Call.subject?, Call.subject?.ownerId?, holds]
      exact .changed accepts rfl rfl rfl
  | updateInPlace _ _ isSet accepts =>
      exact .changed accepts rfl rfl isSet.id_eq
  | updateAddress _ _ isSet accepts =>
      exact .changed accepts rfl rfl isSet.id_eq
  | login | refresh | logout | requestPasswordReset | getAccount | authenticate
  | requirePermissions | sessionExpiry => exact .kept rfl rfl

/-- What any event does to the stored accounts. -/
theorem Event.accountsStep {scheme : PasswordScheme} (event : Event scheme) :
    AccountsStep event.before.tables event.after.tables event.updated? := by
  obtain ⟨moment, action, before⟩ := event
  have leads := Action.leads scheme moment before action
  simp only [Event.updated?, Event.answer?, Event.after, Event.outcome]
  generalize action.perform scheme moment before = outcome at leads
  cases leads with
  | failed => cases action <;> exact .kept rfl rfl
  | closed isClose =>
      subst isClose
      exact .kept rfl rfl
  | done effect =>
      cases effect with
      | call effect => exact effect.accountsStep
      | createAccount => exact .created _ _ rfl rfl
      | updateAccount accepts => exact .changed accepts rfl rfl rfl
      | grant isGranted =>
          obtain ⟨_, rfl⟩ := Tables.exists_grants_of_grant isGranted
          exact .kept rfl rfl
      | accountById | accountNamed | accountAt | accountByToken | createToken | breakOff
      | insertToken | token | removeToken | purgeExpired | permissions => exact .kept rfl rfl

/-! ## Remembered copies -/

/-- Whether the tables have the account of a copy, with the content of the copy as long as it has
the version of the copy. -/
def Tables.Remembers (tables : Tables) (copy : Account) : Prop :=
  ∃ stored ∈ tables.accounts, stored.id = copy.id ∧ stored.createdAt = copy.createdAt ∧
    copy.version ≤ stored.version ∧ (stored.version = copy.version → stored = copy)

/-- Whether the tables have an account with the id and the time of creation of a copy. -/
def Tables.HasOrigin (tables : Tables) (copy : Account) : Prop :=
  ∃ stored ∈ tables.accounts, stored.id = copy.id ∧ stored.createdAt = copy.createdAt

variable {before after tables : Tables}

theorem Tables.remembers_of_mem {copy : Account} (isStored : copy ∈ tables.accounts) :
    tables.Remembers copy :=
  ⟨copy, isStored, rfl, rfl, Int.le_refl _, fun _ => rfl⟩

/-- A change leaves an account as it is, or raises its version. -/
theorem Tables.rewritten_cases (changed stored : Account) :
    rewritten changed stored = stored ∨
      (rewritten changed stored).version = stored.version + 1 := by
  unfold rewritten
  split
  · exact .inr rfl
  · exact .inl rfl

theorem Tables.createdAt_rewritten (changed stored : Account) :
    (rewritten changed stored).createdAt = stored.createdAt := by
  unfold rewritten
  split <;> rfl

/-- What is remembered once is remembered for good. -/
theorem AccountsStep.remembers {updated : Option Int} {copy : Account}
    (step : AccountsStep before after updated) (remembers : before.Remembers copy) :
    after.Remembers copy := by
  obtain ⟨stored, isStored, sameId, sameTime, notNewer, sameContent⟩ := remembers
  cases step with
  | kept sameAccounts =>
      exact ⟨stored, sameAccounts ▸ isStored, sameId, sameTime, notNewer, sameContent⟩
  | created now new isAdded =>
      have remains : stored ∈ after.accounts := isAdded ▸ Tables.mem_withAccount.2 (.inl isStored)
      exact ⟨stored, remains, sameId, sameTime, notNewer, sameContent⟩
  | @changed changed _ _ isWritten =>
      -- the row of the copy is another one, or its version is now past that of the copy
      refine ⟨Tables.rewritten changed stored, ?_, ?_, ?_, ?_, ?_⟩
      · exact isWritten ▸ Tables.mem_withChange.2 ⟨stored, isStored, rfl⟩
      · exact (Tables.id_rewritten changed stored).trans sameId
      · exact (Tables.createdAt_rewritten changed stored).trans sameTime
      · rcases Tables.rewritten_cases changed stored with same | raised
        · exact same.symm ▸ notNewer
        · omega
      · intro sameVersion
        rcases Tables.rewritten_cases changed stored with same | raised
        · rw [same] at sameVersion ⊢
          exact sameContent sameVersion
        · omega

/-- A copy of a stored account that has been written back is stored as it then stands. -/
theorem Tables.Sound.advanced_mem (sound : tables.Sound) {changed : Account}
    (accepts : tables.Accepts changed) (origin : tables.HasOrigin changed) :
    advanced changed ∈ (tables.withChange changed).accounts := by
  obtain ⟨source, isSource, sameId, sameVersion⟩ := accepts.source
  obtain ⟨stored, isStored, sameId', sameTime⟩ := origin
  obtain rfl := sound.eq_of_id_eq isSource isStored (sameId.trans sameId'.symm)
  refine mem_withChange.2 ⟨source, isSource, ?_⟩
  rw [rewritten, if_pos (isSource_iff.2 ⟨sameId, sameVersion⟩)]
  simp only [applyChange, advanced, sameId, sameTime, sameVersion]

/-! ## Copies that are handed out -/

variable {scheme : PasswordScheme} {past : History scheme}

/-- What is written back in a run comes from a stored account. -/
theorem History.KnowsOrigin.hasOrigin {account : Account} (origin : past.KnowsOrigin account)
    (known : ∀ copy, past.Knows copy → tables.Remembers copy) : tables.HasOrigin account := by
  obtain ⟨copy, isKnown, sameId, sameTime, -⟩ := origin
  obtain ⟨stored, isStored, sameId', sameTime', -⟩ := known copy isKnown
  exact ⟨stored, isStored, sameId'.trans sameId.symm, sameTime'.trans sameTime.symm⟩

/-- A call hands out stored accounts only, or the copy that the caller has. -/
theorem Service.Effect.remembers_copies {now : Instant} {call : Call} {reply : Reply}
    {letters : List Mail.Letter} (effect : Effect scheme now before call reply letters after)
    (sound : before.Sound) (known : ∀ copy, past.Knows copy → before.Remembers copy)
    (admitted : past.AdmitsEdits (.call call)) :
    ∀ copy ∈ reply.copies, after.Remembers copy := by
  have written {caller changed : Account} {email password : Option String}
      (origin : past.KnowsOrigin caller)
      (isSet : SetsPassword scheme (withAddress caller email) changed password)
      (accepts : before.Accepts changed) :
      (before.withChange changed).Remembers (Tables.advanced changed) := by
    refine Tables.remembers_of_mem (sound.advanced_mem accepts ?_)
    rw [isSet.eq]
    exact origin.hasOrigin known
  intro copy isCopy
  cases effect with
  | register =>
      obtain rfl := List.mem_singleton.1 isCopy
      refine Tables.remembers_of_mem ?_
      exact (Tables.accounts_granted _ _).symm ▸ Tables.mem_withAccount.2 (.inr rfl)
  | activate _ holds accepts =>
      obtain rfl := List.mem_singleton.1 isCopy
      obtain ⟨isStored, -⟩ := Tables.mem_of_accountByToken?_eq_some holds
      refine Tables.remembers_of_mem ?_
      exact (Tables.accounts_granted _ _).symm ▸
        sound.advanced_mem accepts ⟨_, isStored, rfl, rfl⟩
  | updatePassword _ _ holds accepts =>
      obtain rfl := List.mem_singleton.1 isCopy
      obtain ⟨isStored, -⟩ := Tables.mem_of_accountByToken?_eq_some holds
      exact Tables.remembers_of_mem
        (sound.advanced_mem accepts ⟨_, isStored, rfl, rfl⟩)
  | updateInPlace _ _ isSet accepts =>
      obtain rfl := List.mem_singleton.1 isCopy
      exact written (admitted _ rfl) isSet accepts
  | updateAddress _ _ isSet accepts =>
      obtain rfl := List.mem_singleton.1 isCopy
      exact written (admitted _ rfl) isSet accepts
  | getAccount isStored =>
      obtain rfl := List.mem_singleton.1 isCopy
      exact Tables.remembers_of_mem (Tables.mem_of_account?_eq_some isStored).1
  | authenticate _ holds =>
      obtain rfl := List.mem_singleton.1 isCopy
      exact Tables.remembers_of_mem (Tables.mem_of_accountByToken?_eq_some holds).1
  | requirePermissions =>
      obtain rfl := List.mem_singleton.1 isCopy
      exact known _ (admitted _ rfl)
  | login | refresh | logout | requestPasswordReset | sessionExpiry => cases isCopy

theorem Action.Effect.remembers_copies {now : Instant} {action : Action} {answer : Answer}
    {letters : List Mail.Letter} (effect : Effect scheme now before action answer letters after)
    (sound : before.Sound) (known : ∀ copy, past.Knows copy → before.Remembers copy)
    (admitted : past.AdmitsEdits action) :
    ∀ copy ∈ answer.copies, after.Remembers copy := by
  have found {copy : Account} {p : Account → Bool}
      (isCopy : copy ∈ (before.accounts.find? p).toList) : before.Remembers copy :=
    Tables.remembers_of_mem (List.mem_of_find?_eq_some (Option.mem_toList.1 isCopy))
  intro copy isCopy
  cases effect with
  | call effect => exact effect.remembers_copies sound known admitted copy isCopy
  | createAccount =>
      obtain rfl := List.mem_singleton.1 isCopy
      exact Tables.remembers_of_mem (Tables.mem_withAccount.2 (.inr rfl))
  | updateAccount accepts =>
      obtain rfl := List.mem_singleton.1 isCopy
      exact Tables.remembers_of_mem (sound.advanced_mem accepts (admitted.hasOrigin known))
  | accountById | accountNamed | accountAt => exact found isCopy
  | accountByToken =>
      have holds := Option.mem_toList.1 isCopy
      exact Tables.remembers_of_mem (Tables.mem_of_accountByToken?_eq_some holds).1
  | createToken | breakOff | insertToken | token | removeToken | purgeExpired | grant
  | permissions => cases isCopy

/-- An event hands out copies that are remembered. -/
theorem Event.remembers_copies {event : Event scheme} (sound : event.before.tables.Sound)
    (known : ∀ copy, past.Knows copy → event.before.tables.Remembers copy)
    (admitted : past.AdmitsEdits event.action) :
    ∀ copy ∈ event.copies, event.after.tables.Remembers copy := by
  have leads := event.leads
  simp only [Event.copies, Event.answer?, Event.after]
  generalize event.outcome = outcome at leads
  intro copy isCopy
  cases leads with
  | failed | closed => cases isCopy
  | done effect => exact effect.remembers_copies sound known admitted copy isCopy

/-- Every copy that a run has handed out is remembered. -/
theorem Run.remembers {database : Database} (run : Run scheme History.AdmitsEdits past database) :
    ∀ copy, past.Knows copy → database.tables.Remembers copy := by
  induction run with
  | start =>
      rintro copy ⟨event, member, -⟩
      cases member
  | step run moment action admitted ih =>
      rintro copy ⟨event, member, isCopy⟩
      rcases List.mem_append.1 member with isEarlier | isLast
      · exact (Event.accountsStep _).remembers (ih copy ⟨event, isEarlier, isCopy⟩)
      · rw [List.mem_singleton.1 isLast] at isCopy
        exact Event.remembers_copies run.sound ih admitted copy isCopy

/-- Writing back leaves a copy that is remembered, unless its name or its address is taken.  If it
was out of date, the row has a version that the copy will never have. -/
theorem Event.remembers_left {event : Event scheme} {result : Except Fault Unit} {left : Account}
    (sound : event.before.tables.Sound)
    (known : ∀ copy, past.Knows copy → event.before.tables.Remembers copy)
    (admitted : past.AdmitsEdits event.action) (leaves : event.Leaves result left)
    (isFree : ∀ field message, result ≠ .error (.conflict field message)) :
    event.after.tables.Remembers left := by
  obtain ⟨isOpen, changed, after, isAction, leads⟩ := leaves
  have performed : event.outcome = _ := isAction ▸ Action.perform_updateAccount changed isOpen
  rw [isAction] at admitted
  rcases event.before.tables.writeBack_cases changed with ⟨isStale, same⟩ | ⟨_, _, same⟩ |
    ⟨accepts, same⟩
  · cases same.symm.trans leads
    obtain ⟨copy, isKnown, sameId, sameTime, sameVersion⟩ := admitted
    obtain ⟨stored, isStored, sameId', sameTime', notNewer, -⟩ := known copy isKnown
    have isOwn : stored.id = left.id := sameId'.trans sameId.symm
    refine event.accountsStep.remembers ⟨stored, isStored, isOwn, sameTime'.trans sameTime.symm,
      sameVersion ▸ notNewer, ?_⟩
    exact fun isCurrent => absurd isCurrent (isStale stored isStored isOwn)
  · cases same.symm.trans leads
    exact absurd rfl (isFree _ _)
  · cases same.symm.trans leads
    rw [Event.after, performed, same]
    exact Tables.remembers_of_mem (sound.advanced_mem accepts (admitted.hasOrigin known))

/-- Every copy that writing back has left in a run is remembered, unless its name or its address was
taken. -/
theorem Run.remembers_left {database : Database}
    (run : Run scheme History.AdmitsEdits past database) :
    ∀ copy, past.Leaves copy → database.tables.Remembers copy := by
  induction run with
  | start =>
      rintro copy ⟨event, member, -⟩
      cases member
  | step run moment action admitted ih =>
      rintro copy ⟨event, member, result, leaves, isFree⟩
      rcases List.mem_append.1 member with isEarlier | isLast
      · exact (Event.accountsStep _).remembers (ih copy ⟨event, isEarlier, result, leaves, isFree⟩)
      · rw [List.mem_singleton.1 isLast] at leaves
        exact Event.remembers_left run.sound run.remembers admitted leaves isFree

/-- Every copy that a run of calls has handed out is remembered. -/
theorem Run.remembers_of_calls {database : Database}
    (run : Run scheme History.AdmitsCalls past database) :
    ∀ copy, past.Knows copy → database.tables.Remembers copy :=
  (run.mono fun _ _ => History.admitsEdits_of_admitsCalls).remembers

/-- An event of a run of calls fails, or it has the effect of a call that is made by nobody in
particular or with a copy that is remembered. -/
theorem Event.failed_or_effect {event : Event scheme}
    (known : ∀ copy, past.Knows copy → event.before.tables.Remembers copy)
    (admitted : past.AdmitsCalls event.action) :
    event.answer? = none ∨ ∃ call reply, event.action = .call call ∧
      event.answer? = some (.reply reply) ∧
      Service.Effect scheme event.moment.now event.before.tables call reply event.outcome.letters
        event.after.tables ∧
      ∀ caller, call.identity = .known caller → event.before.tables.Remembers caller := by
  cases answered : event.answer? with
  | none => exact .inl rfl
  | some answer =>
      cases isCall : event.action with
      | call call =>
          rw [isCall] at admitted
          obtain ⟨reply, rfl, effect⟩ := Event.effect_of_call isCall answered
          exact .inr ⟨call, reply, rfl, rfl, effect, fun caller isCaller =>
            known caller (admitted caller isCaller)⟩
      | _ =>
          rw [isCall] at admitted
          exact admitted.elim

end Gatehouse
