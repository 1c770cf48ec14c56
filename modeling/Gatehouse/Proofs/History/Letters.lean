import Gatehouse.Proofs.History.Addresses
import Gatehouse.Proofs.History.Tokens
import Gatehouse.Service.Office

/-!
# Letters follow commits

What an event mails is borne out by what it has committed (`Event.sendsWhatIsDue`): the letter goes
to the address as it is stored by then, whatever the caller has typed, and the token in it is the
one that is stored.  Nothing else is mailed.

What comes of a letter is of no consequence.  Every task that hands one over ends, so an office
always comes to the end of its work, and it has then answered and stored what the service alone
would have (`Run.office_eq`).  Both are put together in `Run.letters_follow_commits`.
-/

namespace Gatehouse

set_option autoImplicit false

variable {scheme : PasswordScheme}

/-! ## Letters and what is stored -/

theorem Service.tells_activationLetter (account : Account) (issued : IssuedToken) :
    (activationLetter account issued).Tells account.email issued.plaintext .activation := by
  refine .activation ?_ fun name notToken => ?_
  · rw [Mail.get?_activationValues, if_pos rfl]
  · rw [Mail.get?_activationValues, if_neg notToken]

theorem Service.tells_resetLetter (account : Account) (issued : IssuedToken) :
    (resetLetter account issued).Tells account.email issued.plaintext .passwordReset := by
  refine .passwordReset ?_ ?_ fun name notToken notAddress => ?_
  · rw [Mail.get?_resetValues, if_pos rfl]
  · rw [Mail.get?_resetValues, if_neg (by decide), if_pos rfl]
  · rw [Mail.get?_resetValues, if_neg notToken, if_neg notAddress]

/-- A letter with a token that has been made and stored is borne out. -/
theorem Tables.Sound.bearOut {tables after : Tables} (sound : after.Sound) {now : Instant}
    {stored : Account} {id : Int} {issued : IssuedToken} {template : Mail.Template}
    {letter : Mail.Letter} (isStored : stored ∈ after.accounts) (sameId : stored.id = id)
    (mints : tables.Mints now id template.scope issued)
    (isKept : rowOfToken issued.token ∈ after.tokens)
    (tells : letter.Tells stored.email issued.plaintext template) :
    after.BearOut id template [letter] := by
  refine ⟨stored, rowOfToken issued.token, issued.plaintext, letter, ?_, ?_, mints.digest_eq, rfl,
    tells⟩
  · exact sound.account?_eq_some.2 ⟨isStored, sameId⟩
  · refine sound.filter_isSlot isKept (isSlot_iff.2 ⟨mints.accountId_eq, ?_⟩)
    exact congrArg Scope.tag mints.scope_eq

/-- A call that succeeds sends the letter that is due, if one is. -/
theorem Service.Effect.sends {now : Instant} {before after : Tables} {call : Call} {reply : Reply}
    {letters : List Mail.Letter} (effect : Effect scheme now before call reply letters after)
    (sound : before.Sound) :
    match call.template? with
    | some template =>
        ∃ id, call.subject? now before = some id ∧ after.BearOut id template letters
    | none => letters = [] := by
  have soundAfter := effect.sound sound
  have isKept {tables : Tables} {issued : IssuedToken} :
      Tables.rowOfToken issued.token ∈ (tables.withToken issued).tokens :=
    Tables.mem_withToken.2 (.inr rfl)
  cases effect with
  | register _ _ _ isNext mints =>
      refine ⟨_, congrArg (some <| Account.id ·) isNext.symm, ?_⟩
      refine soundAfter.bearOut ?_ rfl mints isKept (tells_activationLetter _ _)
      exact (Tables.accounts_granted _ _).symm ▸ Tables.mem_withAccount.2 (.inr rfl)
  | requestPasswordReset _ isAt mints =>
      refine ⟨_, congrArg (Option.map Account.id) isAt, ?_⟩
      exact soundAfter.bearOut (List.mem_of_find?_eq_some isAt) rfl mints isKept
        (tells_resetLetter _ _)
  | updateInPlace _ isSame => simp only [Call.template?, isSame, Bool.false_eq_true, if_false]
  | @updateAddress _ changed _ _ _ _ isNew isSet accepts mints =>
      simp only [Call.template?, isNew, if_true]
      obtain ⟨source, isSource, sameId, sameVersion⟩ := accepts.source
      refine ⟨_, congrArg some isSet.id_eq.symm, ?_⟩
      -- the letter is made from the caller's copy, and goes to the address that the row now has
      have isStored : Tables.applyChange source changed ∈ (before.withChange changed).accounts :=
        (sound.mem_withChange_iff isSource sameId sameVersion).2 (.inr rfl)
      exact soundAfter.bearOut isStored sameId mints isKept (tells_activationLetter _ _)
  | activate | login | refresh | logout | updatePassword | getAccount | authenticate
  | requirePermissions | sessionExpiry => rfl

namespace Event

variable {event : Event scheme}

/-- What is not a call queues no letter. -/
theorem letters_of_not_call (notCall : ∀ call, event.action ≠ .call call) :
    event.outcome.letters = [] := by
  have leads := event.leads
  generalize event.outcome = outcome at leads
  cases leads with
  | failed | closed => rfl
  | done effect =>
      generalize isAction : event.action = action at effect
      cases effect with
      | call => exact absurd isAction (notCall _)
      | _ => rfl

/-- An event sends the letter that is due, if one is, and no other. -/
theorem sendsWhatIsDue (sound : event.before.tables.Sound) : event.SendsWhatIsDue := by
  unfold SendsWhatIsDue
  cases answered : event.answer? with
  | none =>
      have silent := (unchanged_of_failed answered).2
      cases event.action <;> exact silent
  | some answer =>
      cases isAction : event.action with
      | call call =>
          obtain ⟨reply, -, effect⟩ := effect_of_call isAction answered
          exact effect.sends sound
      | _ => exact letters_of_not_call fun call isCall => nomatch isAction.symm.trans isCall

/-- With a copy that is remembered, the address that a change asks for is new to the caller if and
only if the change moves the stored address. -/
theorem changesAddress_iff {caller : Account} {username : String} {email password : Option String}
    (sound : event.before.tables.Sound) (remembers : event.before.tables.Remembers caller)
    (isCall : event.action = .call (.updateAccount (.known caller) username email password))
    (succeeded : event.answer?.isSome = true) :
    Service.isNewAddress caller email = true ↔ event.ChangesAddress caller.id := by
  obtain ⟨answer, answered⟩ := Option.isSome_iff_exists.1 succeeded
  obtain ⟨reply, -, effect⟩ := effect_of_call isCall answered
  unfold ChangesAddress
  generalize event.outcome.letters = letters, event.after.tables = after at effect
  cases effect with
  | updateInPlace _ _ isSet accepts =>
      exact (isSet.changesAddress_iff sound remembers accepts _ rfl).symm
  | updateAddress _ _ isSet accepts =>
      exact (isSet.changesAddress_iff sound remembers accepts _ rfl).symm

end Event

/-! ## Tasks that hand letters over -/

/-- Tasks that all come to an end are drained, in the order of spawning. -/
theorem Tasks.drain?_of_finishes {α : Type} {tasks : Tasks α}
    (finishing : ∀ task ∈ tasks.waiting, task.finishes = true) :
    tasks.drain? = some ⟨[], tasks.ran ++ tasks.waiting.map Task.id⟩ := by
  have noneWaits : tasks.waiting.filter (fun task => !task.finishes) = [] := by
    refine List.filter_eq_nil_iff.2 fun task isWaiting => ?_
    rw [finishing task isWaiting]
    exact Bool.false_ne_true
  have allRun : tasks.waiting.filter Task.finishes = tasks.waiting :=
    List.filter_eq_self.2 finishing
  have ran : tasks.run = ⟨[], tasks.ran ++ tasks.waiting.map Task.id⟩ := by
    rw [Tasks.run, noneWaits, allRun]
  rw [drain?, ran]
  rfl

/-- Whatever comes of a letter, its task ends. -/
theorem Mail.Delivery.ending_ne_never (delivery : Delivery) : delivery.ending ≠ .never := by
  cases delivery <;> exact TaskEnding.noConfusion

namespace Office

/-- Letters are handed over once each, in order. -/
theorem drain?_dispatched (carrier : Mail.Carrier) (letters : List Mail.Letter)
    {tasks : Tasks Mail.Letter} (finishing : ∀ task ∈ tasks.waiting, task.finishes = true) :
    (letters.foldl (dispatch carrier) tasks).drain? =
      some ⟨[], tasks.ran ++ tasks.waiting.map Task.id ++ letters⟩ := by
  induction letters generalizing tasks with
  | nil => rw [List.foldl_nil, Tasks.drain?_of_finishes finishing, List.append_nil]
  | cons letter rest ih =>
      have finishing' : ∀ task ∈ (dispatch carrier tasks letter).waiting,
          task.finishes = true := by
        intro task isWaiting
        rcases List.mem_append.1 isWaiting with isEarlier | isLast
        · exact finishing task isEarlier
        · rw [List.mem_singleton.1 isLast]
          exact bne_iff_ne.2 (Mail.Delivery.ending_ne_never _)
      rw [List.foldl_cons, ih finishing']
      simp [dispatch, Tasks.spawn]

/-- An office that waits for no task does what it is asked for, and waits for none again. -/
theorem attend?_of_idle (carrier : Mail.Carrier) {office : Office}
    (idle : office.tasks.waiting = []) (asked : Moment × Action) :
    let outcome := asked.2.perform scheme asked.1 office.database
    attend? scheme carrier office asked =
      some ⟨outcome.database, ⟨[], office.tasks.ran ++ outcome.letters⟩,
        office.records ++ [(outcome.result, outcome.database)]⟩ := by
  intro outcome
  have noneWaits : ∀ task ∈ office.tasks.waiting, task.finishes = true := by
    rw [idle]
    nofun
  have drained := drain?_dispatched carrier outcome.letters noneWaits
  rw [idle, List.map_nil, List.append_nil] at drained
  change (_ >>= fun tasks => _) = _
  rw [drained]
  rfl

theorem run?_concat (carrier : Mail.Carrier) (office : Office) (asked : List (Moment × Action))
    (last : Moment × Action) :
    run? scheme carrier office (asked ++ [last]) =
      (run? scheme carrier office asked).bind fun office => attend? scheme carrier office last := by
  simp [run?]

end Office

variable {past : History scheme} {database : Database}

/-- An office that is asked for what a run has been asked for comes to the end of its work.  What it
has answered and stored is what the run has, and every letter of the run has been handed over. -/
theorem Run.office_eq {admits : History scheme → Action → Prop}
    (run : Run scheme admits past database) (carrier : Mail.Carrier) :
    Office.run? scheme carrier .opened past.asked =
      some ⟨database, ⟨[], past.letters⟩, past.records⟩ := by
  -- the run grows at its end, and each event finds the office with no task left
  induction run with
  | start => rfl
  | step run moment action admitted ih =>
      rw [History.asked, List.map_append, List.map_singleton, Office.run?_concat, ← History.asked,
        ih]
      refine (Office.attend?_of_idle carrier rfl (moment, action)).trans ?_
      simp [History.letters, History.records, Event.outcome, Event.after]

/-- **Letters follow commits, and nothing depends on them.**  Take any run, whoever makes the calls.

* An event sends what is due and nothing else.  A registration and the request for a reset token
  that succeed send one letter each, and so does a change of an account that asks for an address
  which differs in more than case from that of the caller's copy.  The letter goes to the address
  that is stored by then, with the token that is stored by then.
* If the copies with which calls are made have all been handed out before, such a change of an
  account is one that moves the stored address.
* Whatever two mailers do with the letters, an office that waits for its tasks after each event has
  with both the same answers and, each time, the same database.  These are the ones of the run; no
  task is left, and each letter has been handed over once. -/
theorem Run.letters_follow_commits {admits : History scheme → Action → Prop}
    (run : Run scheme admits past database) :
    (∀ event ∈ past, event.SendsWhatIsDue) ∧
      (Run scheme History.AdmitsCalls past database →
        ∀ event ∈ past, ∀ caller username email password,
          event.action = .call (.updateAccount (.known caller) username email password) →
          event.answer?.isSome = true →
            (Service.isNewAddress caller email = true ↔ event.ChangesAddress caller.id)) ∧
      ∀ first second : Mail.Carrier,
        Office.run? scheme first .opened past.asked =
            Office.run? scheme second .opened past.asked ∧
          Office.run? scheme first .opened past.asked =
            some ⟨database, ⟨[], past.letters⟩, past.records⟩ := by
  refine ⟨fun event isPast => ?_, fun runOfCalls event isPast => ?_, fun first second => ?_⟩
  · obtain ⟨earlier, later, isSplit⟩ := List.append_of_mem isPast
    exact Event.sendsWhatIsDue (run.before isSplit).1.sound
  · intro caller username email password isCall succeeded
    obtain ⟨earlier, later, isSplit⟩ := List.append_of_mem isPast
    obtain ⟨runBefore, admitted⟩ := runOfCalls.before isSplit
    rw [isCall] at admitted
    have remembers := runBefore.remembers_of_calls caller (admitted caller rfl)
    exact Event.changesAddress_iff runBefore.sound remembers isCall succeeded
  · exact ⟨(run.office_eq first).trans (run.office_eq second).symm, run.office_eq first⟩

/-- The copy of the first account that its registration hands out. -/
def sampleCopy : Account :=
  ⟨1, ⟨0⟩, "alice", "alice@example.com",
    (sampleScheme.hash "Abcdef1!" (.replicate 16 0)).toOption.getD "", false, 1⟩

/-- The holder of the first account moves to another address. -/
def sampleMove : Event sampleScheme :=
  ⟨⟨⟨0⟩, [.replicate 16 1]⟩,
    .call (.updateAccount (.known sampleCopy) "alice" (some "alice@example.org") none),
    sampleRegistration.after⟩

theorem run_sampleMove :
    Run sampleScheme History.AdmitsCalls ([sampleRegistration] ++ [sampleMove])
      sampleMove.after := by
  have isHandedOut : sampleRegistration.copies = [sampleCopy] := by decide +kernel
  refine .step run_sampleRegistration _ _ ?_
  rintro _ ⟨⟩
  exact ⟨sampleRegistration, .head _, isHandedOut ▸ .head _⟩

/-- A letter goes to each of the two addresses, and it does not matter that it is not delivered. -/
theorem letters_of_registration_and_move :
    (History.letters ([sampleRegistration] ++ [sampleMove])).map Mail.Letter.recipient =
        ["alice@example.com", "alice@example.org"] ∧
      sampleMove.SendsWhatIsDue ∧ sampleMove.ChangesAddress 1 ∧
      Office.run? sampleScheme (fun _ _ => .brokenOff) .opened
          (History.asked ([sampleRegistration] ++ [sampleMove])) =
        Office.run? sampleScheme .logging .opened
          (History.asked ([sampleRegistration] ++ [sampleMove])) := by
  obtain ⟨sends, moves, harmless⟩ := Run.letters_follow_commits run_sampleMove
  have isLast : sampleMove ∈ [sampleRegistration] ++ [sampleMove] := .tail _ (.head _)
  have isMove := moves run_sampleMove sampleMove isLast sampleCopy "alice" _ none rfl
    (by decide +kernel)
  exact ⟨by decide +kernel, sends _ isLast, isMove.1 (by decide +kernel), (harmless _ _).1⟩

end Gatehouse
