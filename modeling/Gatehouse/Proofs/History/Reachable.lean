import Gatehouse.Proofs.History.Actions
import Gatehouse.Proofs.Store.Integrity

/-!
# Reachable tables are sound

Whatever is asked of the service and of its store, in any order and with any arguments, the tables
stay sound: every effect is made of writes that keep them so, and an action that fails writes
nothing (`Run.sound`).
-/

namespace Gatehouse

set_option autoImplicit false

variable {scheme : PasswordScheme} {now : Instant} {database : Database} {tables after : Tables}

/-! ## Effects of calls -/

theorem Tables.Sound.withSession (sound : tables.Sound) {accountId : Int}
    {session : Service.Session} (renews : Service.Renews now tables accountId session) :
    (tables.withSession accountId session).Sound :=
  (((sound.withoutToken _ _).withoutToken _ _).withToken renews.access).withToken renews.refresh

theorem Service.Effect.sound {call : Call} {reply : Reply} {letters : List Mail.Letter}
    (effect : Effect scheme now tables call reply letters after) (sound : tables.Sound) :
    after.Sound := by
  cases effect with
  | register _ _ isFree isNext mints =>
      have created := isNext ▸ sound.withAccount isFree
      exact (created.granted (Tables.hasAccount_withAccount _)).withToken mints
  | @activate _ stored _ holds accepts =>
      obtain ⟨isStored, -⟩ := Tables.mem_of_accountByToken?_eq_some holds
      refine ((sound.withChange accepts).granted ?_).withoutToken _ _
      exact Tables.hasAccount_withChange.trans (Tables.hasAccount_of_mem isStored)
  | login _ _ _ renews => exact sound.withSession renews
  | refresh _ _ renews => exact sound.withSession renews
  | logout => exact (sound.withoutToken _ _).withoutToken _ _
  | requestPasswordReset _ _ mints => exact (sound.withoutToken _ _).withToken mints
  | updatePassword _ _ _ accepts => exact (sound.withChange accepts).withoutToken _ _
  | updateInPlace _ _ _ accepts => exact sound.withChange accepts
  | updateAddress _ _ _ accepts mints =>
      exact ((sound.withChange accepts).withoutToken _ _).withToken mints
  | getAccount | authenticate | requirePermissions | sessionExpiry => exact sound

/-! ## Effects of actions -/

theorem Tables.Sound.grant (sound : tables.Sound) {accountId : Int}
    {permissions : List Permission} (done : tables.grant accountId permissions = .ok after) :
    after.Sound := by
  induction permissions generalizing tables with
  | nil =>
      cases done
      exact sound
  | cons permission rest ih =>
      rw [Tables.grant, Tables.grantOne_eq] at done
      split at done
      next => cases done
      next granted isGranted =>
        split at isGranted
        next either =>
          cases isGranted
          refine ih ?_ done
          rcases either with same | isThere
          · exact same.symm ▸ sound
          · exact sound.granted isThere
        next => cases isGranted

theorem Action.Effect.sound {action : Action} {answer : Answer} {letters : List Mail.Letter}
    (effect : Effect scheme now tables action answer letters after) (sound : tables.Sound) :
    after.Sound := by
  cases effect with
  | call effect => exact effect.sound sound
  | createAccount isFree => exact sound.withAccount isFree
  | updateAccount accepts => exact sound.withChange accepts
  | createToken _ isFree hasAccount => exact sound.withTokenRow isFree hasAccount
  | insertToken isFree hasAccount => exact sound.withTokenRow isFree hasAccount
  | removeToken => exact sound.withoutToken _ _
  | purgeExpired => exact sound.filterTokens _
  | grant isGranted => exact sound.grant isGranted
  | breakOff | accountById | accountNamed | accountAt | accountByToken | token | permissions =>
      exact sound

theorem Action.Leads.sound {action : Action} {outcome : Outcome Answer}
    (leads : Leads scheme now database action outcome) (sound : database.tables.Sound) :
    outcome.database.tables.Sound := by
  cases leads with
  | failed => exact sound
  | done effect => exact effect.sound sound
  | closed => exact sound

/-! ## Events -/

namespace Event

/-- What an event leads to. -/
theorem leads (event : Event scheme) :
    Action.Leads scheme event.moment.now event.before event.action event.outcome :=
  Action.leads scheme event.moment event.before event.action

variable {event : Event scheme}

theorem sound_after (sound : event.before.tables.Sound) : event.after.tables.Sound :=
  event.leads.sound sound

/-- An event that fails changes nothing and queues no letter. -/
theorem unchanged_of_failed (failed : event.answer? = none) :
    event.after = event.before ∧ event.outcome.letters = [] := by
  have leads := event.leads
  simp only [answer?, after] at failed ⊢
  generalize event.outcome = outcome at leads failed
  cases leads with
  | failed => exact ⟨rfl, rfl⟩
  | done | closed => cases failed

/-- An event that is not the closing of the database leaves it open. -/
theorem isOpen_after (notClose : event.action ≠ .close) :
    event.after.isOpen = event.before.isOpen := by
  have leads := event.leads
  simp only [Event.after]
  generalize event.outcome = outcome at leads
  cases leads with
  | failed | done => rfl
  | closed isClose => exact absurd isClose notClose

/-- A call that succeeds has its effect. -/
theorem effect_of_call {call : Service.Call} {answer : Answer} (isCall : event.action = .call call)
    (answered : event.answer? = some answer) :
    ∃ reply, answer = .reply reply ∧ Service.Effect scheme event.moment.now event.before.tables
      call reply event.outcome.letters event.after.tables := by
  have leads := event.leads
  simp only [answer?, after] at answered ⊢
  generalize event.outcome = outcome at leads answered
  rw [isCall] at leads
  cases leads with
  | failed => cases answered
  | done effect =>
      cases effect with
      | call effect =>
          cases answered
          exact ⟨_, rfl, effect⟩
  | closed isClose => cases isClose

end Event

/-! ## Histories -/

namespace History

variable {past earlier later : History scheme} {event last : Event scheme}

/-- The event at which a history is split is its last one or an earlier one. -/
theorem concat_eq_append_cons :
    past ++ [last] = earlier ++ event :: later ↔
      (past = earlier ∧ last = event ∧ later = []) ∨
        ∃ between, past = earlier ++ event :: between ∧ later = between ++ [last] := by
  constructor
  · intro same
    rcases List.eq_nil_or_concat later with rfl | ⟨between, final, rfl⟩
    · obtain ⟨samePast, sameEvent⟩ := List.append_inj' same rfl
      exact .inl ⟨samePast, (List.cons.inj sameEvent).1, rfl⟩
    · rw [List.concat_eq_append, ← List.cons_append, ← List.append_assoc] at same
      obtain ⟨samePast, sameEvent⟩ := List.append_inj' same rfl
      rw [List.concat_eq_append, (List.cons.inj sameEvent).1]
      exact .inr ⟨between, samePast, rfl⟩
  · rintro (⟨rfl, rfl, rfl⟩ | ⟨between, rfl, rfl⟩)
    · rfl
    · simp

/-- What has occurred and not ended is so after one more event if it was before and the event does
not end it, or if it occurs with the event. -/
theorem since_concat {occurs : History scheme → Event scheme → Prop} {ends : Event scheme → Prop} :
    (past ++ [event]).Since occurs ends ↔
      (past.Since occurs ends ∧ ¬ends event) ∨ occurs past event := by
  constructor
  · rintro ⟨earlier, one, later, same, occurred, unended⟩
    rcases concat_eq_append_cons.1 same with ⟨rfl, rfl, rfl⟩ | ⟨between, rfl, rfl⟩
    · exact .inr occurred
    · refine .inl ⟨⟨earlier, one, between, rfl, occurred, fun next isNext => ?_⟩, ?_⟩
      · exact unended next (List.mem_append_left _ isNext)
      · exact unended _ (List.mem_append_right _ (.head _))
  · rintro (⟨⟨earlier, one, later, rfl, occurred, unended⟩, isKept⟩ | occurs)
    · refine ⟨earlier, one, later ++ [event], by simp, occurred, fun next isNext => ?_⟩
      rcases List.mem_append.1 isNext with isLater | isLast
      · exact unended next isLater
      · rw [List.mem_singleton.1 isLast]
        exact isKept
    · exact ⟨past, event, [], rfl, occurs, fun _ isNext => absurd isNext List.not_mem_nil⟩

end History

/-! ## Runs -/

/-- A run may take place wherever more is admitted. -/
theorem Run.mono {admits admits' : History scheme → Action → Prop} {past : History scheme}
    (weaker : ∀ past action, admits past action → admits' past action)
    (run : Run scheme admits past database) : Run scheme admits' past database := by
  induction run with
  | start => exact .start
  | step run moment action admitted ih => exact .step ih moment action (weaker _ _ admitted)

/-- The events before one in a run are a run that leads to the database as that one finds it. -/
theorem Run.before {admits : History scheme → Action → Prop} {past earlier later : History scheme}
    {event : Event scheme} (run : Run scheme admits past database)
    (isSplit : past = earlier ++ event :: later) :
    Run scheme admits earlier event.before ∧ admits earlier event.action := by
  induction run generalizing later with
  | start => simp at isSplit
  | step run moment action admitted ih =>
      rcases History.concat_eq_append_cons.1 isSplit with ⟨rfl, rfl, rfl⟩ | ⟨between, rfl, rfl⟩
      · exact ⟨run, admitted⟩
      · exact ih rfl

/-- Calls by holders of copies write back only what comes from copies. -/
theorem History.admitsEdits_of_admitsCalls {past : History scheme} {action : Action}
    (admitted : past.AdmitsCalls action) : past.AdmitsEdits action := by
  cases action with
  | call call =>
      cases call with
      | updateAccount =>
          intro account isCaller
          exact ⟨account, admitted account isCaller, rfl, rfl, rfl⟩
      | requirePermissions => exact admitted
      | _ => trivial
  | _ => exact admitted.elim

/-- The database is open after a run in which nobody closes it. -/
theorem Run.isOpen_of_admits {admits : History scheme → Action → Prop} {past : History scheme}
    (run : Run scheme admits past database)
    (keepsOpen : ∀ past action, admits past action → action ≠ .close) :
    database.isOpen = true := by
  induction run with
  | start => rfl
  | step run moment action admitted ih =>
      exact (Event.isOpen_after (keepsOpen _ _ admitted)).trans ih

/-- The tables are sound after any run. -/
theorem Run.sound {admits : History scheme → Action → Prop} {past : History scheme}
    (run : Run scheme admits past database) : database.tables.Sound := by
  induction run with
  | start => exact Tables.sound_fresh
  | step run moment action admitted ih => exact Event.sound_after ih

end Gatehouse
