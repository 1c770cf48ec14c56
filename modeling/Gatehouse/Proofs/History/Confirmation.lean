import Gatehouse.Proofs.History.Tokens

/-!
# Confirmed addresses

An account is activated with a token that only a letter to its address has told.  What makes this
so is kept by every call (`Vouches.step`): the stored activation token of an account is the one that
was mailed to the address that the account has, and the address has not changed since.  A change of
the address puts another token in its place and takes the activation back, and a change in case
alone does neither.

So the address of an activated account has been confirmed (`Run.activated_address_is_confirmed`),
and a token that was mailed to an address before does not activate the account under the next one.
-/

namespace Gatehouse

set_option autoImplicit false

namespace History

variable {scheme : PasswordScheme}

/-- Whether an account's address, as it is now up to case, was mailed a token to activate the
account with, and the address has not changed since. -/
def Mails (past : History scheme) (account : Account) (token : String) : Prop :=
  past.Since
    (fun _ mailing => ∃ recipient, mailing.MailsActivation recipient token ∧
      Service.sameUpToCase recipient account.email = true)
    fun event => event.ChangesAddress account.id

/-- Whether an account was activated with a token that its address, as it is now up to case, had
been mailed, and the address has not changed since it was mailed. -/
def Confirms (past : History scheme) (account : Account) : Prop :=
  past.Since
    (fun earlier activation => ∃ token, activation.Served (.activate token) account.id ∧
      ¬activation.ChangesAddress account.id ∧ earlier.Mails account token)
    fun event => event.ChangesAddress account.id

variable {past : History scheme} {former latter : Account} {token : String}

theorem Since.imp {occurs occurs' : History scheme → Event scheme → Prop}
    {ends : Event scheme → Prop} (since : past.Since occurs ends)
    (weaker : ∀ earlier event, occurs earlier event → occurs' earlier event) :
    past.Since occurs' ends := by
  obtain ⟨earlier, event, later, isSplit, occurred, unended⟩ := since
  exact ⟨earlier, event, later, isSplit, weaker _ _ occurred, unended⟩

theorem Mails.of_sameAddress (mails : past.Mails former token) (sameId : former.id = latter.id)
    (sameAddress : Service.sameUpToCase former.email latter.email = true) :
    past.Mails latter token := by
  unfold Mails at mails ⊢
  rw [← sameId]
  refine mails.imp ?_
  rintro _ mailing ⟨recipient, isMailed, same⟩
  exact ⟨recipient, isMailed, Service.sameUpToCase_trans same sameAddress⟩

theorem Confirms.of_sameAddress (confirms : past.Confirms former) (sameId : former.id = latter.id)
    (sameAddress : Service.sameUpToCase former.email latter.email = true) :
    past.Confirms latter := by
  unfold Confirms at confirms ⊢
  rw [← sameId]
  refine confirms.imp ?_
  rintro earlier activation ⟨token, served, isKept, mails⟩
  exact ⟨token, served, isKept, mails.of_sameAddress sameId sameAddress⟩

end History

/-! ## What becomes of an account -/

/-- Where a stored account comes from.  It is new and not activated; or it has the address that it
had, up to case, and unless it has just been activated it is activated only if it was; or its
address has been moved, which takes the activation back. -/
inductive Tables.Yields (before : Tables) (activates moves : Int → Prop) (latter : Account) : Prop
  | created (isNew : ∀ former ∈ before.accounts, former.id ≠ latter.id)
      (isInactive : latter.isActivated = false) : Yields before activates moves latter
  | kept {former : Account} (isStored : former ∈ before.accounts) (sameId : former.id = latter.id)
      (sameAddress : Service.sameUpToCase former.email latter.email = true)
      (wasActivated : latter.isActivated = true → former.isActivated = true ∨ activates latter.id) :
      Yields before activates moves latter
  | moved (isMoved : moves latter.id) (isInactive : latter.isActivated = false) :
      Yields before activates moves latter

namespace Tables

variable {before after : Tables} {activates moves : Int → Prop} {latter : Account}

theorem Yields.imp {activates' moves' : Int → Prop}
    (yields : before.Yields activates moves latter)
    (activation : ∀ id, activates id → activates' id) (move : ∀ id, moves id → moves' id) :
    before.Yields activates' moves' latter := by
  cases yields with
  | created isNew isInactive => exact .created isNew isInactive
  | kept isStored sameId sameAddress wasActivated =>
      exact .kept isStored sameId sameAddress fun isActivated =>
        (wasActivated isActivated).imp_right (activation _)
  | moved isMoved isInactive => exact .moved (move _ isMoved) isInactive

/-- A stored account that is left alone. -/
theorem yields_of_mem (isStored : latter ∈ before.accounts) :
    before.Yields activates moves latter :=
  .kept isStored rfl (Service.sameUpToCase_refl _) .inl

/-- A change of a stored account is about that account only. -/
theorem Sound.yields_of_withChange (sound : before.Sound) {changed stored : Account}
    (isAfter : latter ∈ (before.withChange changed).accounts) (isStored : stored ∈ before.accounts)
    (sameId : stored.id = changed.id) (sameVersion : stored.version = changed.version)
    (own : before.Yields activates moves (applyChange stored changed)) :
    before.Yields activates moves latter := by
  rw [sound.mem_withChange_iff isStored sameId sameVersion] at isAfter
  rcases isAfter with ⟨isOther, -⟩ | rfl
  · exact yields_of_mem isOther
  · exact own

end Tables

namespace Service

variable {scheme : PasswordScheme} {now : Instant} {before after : Tables} {call : Call}
  {reply : Reply} {letters : List Mail.Letter}

/-- Where the accounts come from that are stored after a call. -/
theorem Effect.yields (effect : Effect scheme now before call reply letters after)
    (sound : before.Sound)
    (remembers : ∀ caller, call.identity = .known caller → before.Remembers caller) :
    ∀ latter ∈ after.accounts, before.Yields
      (fun id => ∃ token, call = .activate token ∧ call.subject? now before = some id)
      (fun id => call.subject? now before = some id ∧
        call.Ends (before.ChangesAddress after id) .activation) latter := by
  intro latter isAfter
  cases effect with
  | register _ _ _ isNext =>
      subst isNext
      have isAfter : latter ∈ (before.withAccount _).accounts :=
        Tables.accounts_granted _ _ ▸ isAfter
      rcases Tables.mem_withAccount.1 isAfter with isStored | rfl
      · exact Tables.yields_of_mem isStored
      · exact .created (fun _ isStored => sound.id_ne_next isStored) rfl
  | @activate token stored _ holds =>
      obtain ⟨isStored, -⟩ := Tables.mem_of_accountByToken?_eq_some holds
      have isAfter : latter ∈ (before.withChange { stored with isActivated := true }).accounts :=
        Tables.accounts_granted _ _ ▸ isAfter
      refine sound.yields_of_withChange isAfter isStored rfl rfl ?_
      refine .kept isStored rfl (sameUpToCase_refl _) fun _ => .inr ⟨token, rfl, ?_⟩
      exact congrArg (Option.map Account.id) holds
  | @updatePassword _ _ passwordHash _ stored _ _ holds =>
      obtain ⟨isStored, -⟩ := Tables.mem_of_accountByToken?_eq_some holds
      have isAfter :
          latter ∈ (before.withChange { stored with passwordHash := passwordHash }).accounts :=
        isAfter
      refine sound.yields_of_withChange isAfter isStored rfl rfl ?_
      exact .kept isStored rfl (sameUpToCase_refl _) .inl
  | @updateInPlace caller changed email _ _ isSame isSet accepts =>
      have isStored := isSet.caller_mem sound (remembers _ rfl) accepts
      refine sound.yields_of_withChange isAfter isStored isSet.id_eq.symm isSet.version_eq.symm ?_
      refine .kept isStored rfl ?_ fun isActivated => .inl ?_
      · change sameUpToCase caller.email changed.email = true
        rw [isSet.email_eq, ← Bool.not_eq_false, ← isNewAddress_iff, isSame]
        exact Bool.false_ne_true
      · have isActivated : changed.isActivated = true := isActivated
        rw [isSet.isActivated_eq, isSame, Bool.not_false, Bool.and_true] at isActivated
        exact isActivated
  | updateAddress _ isNew isSet accepts =>
      have isStored := isSet.caller_mem sound (remembers _ rfl) accepts
      refine sound.yields_of_withChange isAfter isStored isSet.id_eq.symm isSet.version_eq.symm ?_
      refine .moved ⟨rfl, ?_, rfl⟩ ?_
      · exact (isSet.changesAddress_iff sound (remembers _ rfl) accepts _ rfl).2 isNew
      · exact isSet.isActivated_eq.trans (by rw [isNew, Bool.not_true, Bool.and_false])
  | login | refresh | logout | requestPasswordReset | getAccount | authenticate
  | requirePermissions | sessionExpiry => exact Tables.yields_of_mem isAfter

/-- A call that hands out an activation token mails it to the account's address. -/
theorem Effect.mails (effect : Effect scheme now before call reply letters after)
    (sound : before.Sound)
    (remembers : ∀ caller, call.identity = .known caller → before.Remembers caller) :
    ∀ issued ∈ reply.tokens, issued.token.scope = .activation →
      ∃ stored ∈ after.accounts, stored.id = issued.token.accountId ∧
        activationLetter stored issued ∈ letters := by
  intro issued isIssued isActivation
  cases effect with
  | register _ _ _ isNext mints =>
      obtain rfl := List.mem_singleton.1 isIssued
      refine ⟨_, ?_, mints.accountId_eq.symm, .head _⟩
      exact (Tables.accounts_granted _ _).symm ▸ Tables.mem_withAccount.2 (.inr rfl)
  | updateAddress _ _ isSet accepts mints =>
      obtain rfl := List.mem_singleton.1 isIssued
      have isStored := isSet.caller_mem sound (remembers _ rfl) accepts
      refine ⟨_, sound.advanced_mem accepts ?_, mints.accountId_eq.symm, .head _⟩
      exact ⟨_, isStored, isSet.id_eq.symm, isSet.createdAt_eq.symm⟩
  | login _ _ _ renews | refresh _ _ renews =>
      rcases List.mem_cons.1 isIssued with rfl | isRefresh
      · cases renews.access.scope_eq.symm.trans isActivation
      · rw [List.mem_singleton.1 isRefresh, renews.refresh.scope_eq] at isActivation
        cases isActivation
  | requestPasswordReset _ _ mints =>
      rw [List.mem_singleton.1 isIssued, mints.scope_eq] at isActivation
      cases isActivation
  | activate | logout | updatePassword | updateInPlace | getAccount | authenticate
  | requirePermissions | sessionExpiry => cases isIssued

/-- The text of an activation letter tells its token. -/
theorem activationValues_injective {former latter : String}
    (same : Mail.activationValues former = Mail.activationValues latter) : former = latter := by
  have told (token : String) :
      (Mail.activationValues token).get? "activationToken" = some token :=
    (Mail.get?_activationValues token _).trans (if_pos rfl)
  rw [← Option.some.injEq, ← told former, same, told]

/-- A call that mails an activation token has handed it out, and mails nothing else. -/
theorem Effect.mailed (effect : Effect scheme now before call reply letters after)
    {recipient token : String}
    (isMailed : ⟨recipient, .activation, Mail.activationValues token⟩ ∈ letters) :
    (∃ issued ∈ reply.tokens, issued.plaintext = token) ∧
      letters = [⟨recipient, .activation, Mail.activationValues token⟩] := by
  cases effect with
  | register | updateAddress =>
      have isLetter := List.mem_singleton.1 isMailed
      refine ⟨⟨_, .head _, ?_⟩, congrArg (fun letter => [letter]) isLetter.symm⟩
      exact activationValues_injective (congrArg Mail.Letter.values isLetter).symm
  | requestPasswordReset =>
      have isLetter := List.mem_singleton.1 isMailed
      cases congrArg Mail.Letter.template isLetter
  | activate | login | refresh | logout | updatePassword | updateInPlace | getAccount
  | authenticate | requirePermissions | sessionExpiry => cases isMailed

end Service

/-! ## Events -/

variable {scheme : PasswordScheme} {past : History scheme} {database : Database}
  {event : Event scheme}

namespace Event

/-- Where the accounts come from that are stored after an event. -/
theorem yields (sound : event.before.tables.Sound)
    (known : ∀ copy, past.Knows copy → event.before.tables.Remembers copy)
    (admitted : past.AdmitsCalls event.action) :
    ∀ latter ∈ event.after.tables.accounts, event.before.tables.Yields
      (fun id => ∃ token, event.Served (.activate token) id)
      (fun id => event.Retires id .activation) latter := by
  intro latter isAfter
  rcases failed_or_effect known admitted with
    failed | ⟨call, reply, isCall, answered, effect, remembers⟩
  · rw [(unchanged_of_failed failed).1] at isAfter
    exact Tables.yields_of_mem isAfter
  · have succeeded : event.answer?.isSome = true := answered ▸ rfl
    refine (effect.yields sound remembers latter isAfter).imp ?_ ?_
    · rintro id ⟨token, rfl, subject⟩
      exact ⟨token, isCall, succeeded, subject⟩
    · exact fun id => (retires_iff isCall succeeded).2

/-- An event that hands out an activation token mails it to the address of the account. -/
theorem mails (sound : event.before.tables.Sound)
    (known : ∀ copy, past.Knows copy → event.before.tables.Remembers copy)
    (admitted : past.AdmitsCalls event.action) :
    ∀ issued ∈ event.minted, issued.token.scope = .activation →
      ∃ stored ∈ event.after.tables.accounts, stored.id = issued.token.accountId ∧
        event.MailsActivation stored.email issued.plaintext := by
  intro issued isIssued isActivation
  rw [minted] at isIssued
  rcases failed_or_effect known admitted with failed | ⟨call, reply, -, answered, effect, remembers⟩
  · rw [failed] at isIssued
    cases isIssued
  · rw [answered] at isIssued
    exact effect.mails sound remembers issued isIssued isActivation

/-- An event that mails an activation token has handed it out, and mails nothing else. -/
theorem mailed {recipient token : String} (isMailed : event.MailsActivation recipient token) :
    token ∈ event.minted.map IssuedToken.plaintext ∧
      event.outcome.letters = [⟨recipient, .activation, Mail.activationValues token⟩] := by
  have leads := event.leads
  simp only [MailsActivation, minted, answer?] at isMailed ⊢
  generalize event.outcome = outcome at leads isMailed
  generalize event.action = action at leads
  cases leads with
  | failed | closed => cases isMailed
  | done effect =>
      cases effect with
      | call effect =>
          obtain ⟨⟨issued, isIssued, rfl⟩, letters⟩ := effect.mailed isMailed
          exact ⟨List.mem_map_of_mem isIssued, letters⟩
      | _ => cases isMailed

end Event

/-! ## Runs -/

/-- A token that has been mailed has been handed out. -/
theorem History.Mails.minted {account : Account} {token : String}
    (mails : past.Mails account token) : token ∈ past.minted := by
  obtain ⟨earlier, mailing, later, rfl, ⟨recipient, isMailed, -⟩, -⟩ := mails
  exact List.mem_flatMap.2 ⟨mailing, by simp, (Event.mailed isMailed).1⟩

/-- Whether the stored activation tokens were mailed to the addresses that their accounts have, and
the addresses of the accounts that are activated have been confirmed. -/
structure History.Vouches (past : History scheme) (tables : Tables) : Prop where
  pending : ∀ row ∈ tables.tokens, row.scope = Scope.activation.tag →
    ∀ stored ∈ tables.accounts, stored.id = row.accountId →
      ∃ token, row.digest = Token.digestOf token ∧ past.Mails stored token
  confirmed : ∀ stored ∈ tables.accounts, stored.isActivated = true → past.Confirms stored

/-- The letter to an account that activates it now has gone to the address that it has. -/
theorem History.Vouches.mails_of_served {stored : Account} {token : String}
    (vouches : past.Vouches event.before.tables)
    (separates : Token.Separates (token :: past.minted))
    (isStored : stored ∈ event.before.tables.accounts)
    (served : event.Served (.activate token) stored.id) : past.Mails stored token := by
  obtain ⟨owner, holds, sameId⟩ := Option.map_eq_some_iff.1 served.2.2
  obtain ⟨-, row, isRow, digest, scope, -, owns⟩ := Tables.mem_of_accountByToken?_eq_some holds
  obtain ⟨mailedToken, sameDigest, mails⟩ :=
    vouches.pending row isRow scope stored isStored (sameId.symm.trans owns.symm)
  have same := separates token (.head _) mailedToken (.tail _ mails.minted)
    (digest.symm.trans sameDigest)
  exact same ▸ mails

/-- Accounts that have the same address before and after an event, up to case, show that the event
does not change it. -/
theorem Event.not_changesAddress_of_sameAddress {former latter : Account}
    (sound : event.before.tables.Sound) (isFormer : former ∈ event.before.tables.accounts)
    (isLatter : latter ∈ event.after.tables.accounts) (sameId : former.id = latter.id)
    (sameAddress : Service.sameUpToCase former.email latter.email = true) :
    ¬event.ChangesAddress latter.id := by
  have found := sound.account?_eq_some.2 ⟨isFormer, sameId⟩
  have found' := (sound_after sound).account?_eq_some.2 ⟨isLatter, rfl⟩
  rw [ChangesAddress, Tables.changesAddress_iff_of_stored found found', sameAddress]
  exact Bool.noConfusion

/-- What an event stores is vouched for. -/
theorem History.Vouches.step (vouches : past.Vouches event.before.tables)
    (sound : event.before.tables.Sound)
    (known : ∀ copy, past.Knows copy → event.before.tables.Remembers copy)
    (admitted : past.AdmitsCalls event.action)
    (separates : ∀ token, event.action = .call (.activate token) →
      Token.Separates (token :: past.minted)) :
    (past ++ [event]).Vouches event.after.tables where
  pending := by
    intro row isRow isActivation latter isLatter owns
    rcases (Event.mem_tokens sound known admitted).1 isRow with
      ⟨isRow, unended⟩ | ⟨issued, isMinted, rfl⟩
    · -- a token that stays belongs to an account that keeps its address
      have remains : ¬event.Retires latter.id .activation := fun ended =>
        unended ⟨.activation, isActivation, owns ▸ ended⟩
      cases Event.yields sound known admitted latter isLatter with
      | created isNew =>
          obtain ⟨owner, isOwner, sameId⟩ := Tables.hasAccount_iff.1 (sound.owners row isRow)
          exact absurd (sameId.trans owns.symm) (isNew owner isOwner)
      | kept isFormer sameId sameAddress =>
          obtain ⟨token, digest, mails⟩ :=
            vouches.pending row isRow isActivation _ isFormer (sameId.trans owns)
          refine ⟨token, digest, since_concat.2 (.inl ⟨?_, ?_⟩)⟩
          · exact mails.of_sameAddress sameId sameAddress
          · exact Event.not_changesAddress_of_sameAddress sound isFormer isLatter sameId sameAddress
      | moved isMoved => exact absurd isMoved remains
    · -- a token that is handed out has just been mailed to the address that is stored
      obtain ⟨stored, isStored, sameId, isMailed⟩ :=
        Event.mails sound known admitted issued isMinted (Scope.tag_injective isActivation)
      obtain rfl := (Event.sound_after sound).eq_of_id_eq isStored isLatter
        (sameId.trans owns.symm)
      refine ⟨issued.plaintext, Event.digest_eq isMinted, since_concat.2 (.inr ?_)⟩
      exact ⟨stored.email, isMailed, Service.sameUpToCase_refl _⟩
  confirmed := by
    intro latter isLatter isActivated
    cases Event.yields sound known admitted latter isLatter with
    | created _ isInactive | moved _ isInactive =>
        cases isInactive.symm.trans isActivated
    | kept isFormer sameId sameAddress wasActivated =>
        have isKept := Event.not_changesAddress_of_sameAddress sound isFormer isLatter sameId
          sameAddress
        rcases wasActivated isActivated with wasActivated | ⟨token, served⟩
        · have confirms := vouches.confirmed _ isFormer wasActivated
          exact since_concat.2 (.inl ⟨confirms.of_sameAddress sameId sameAddress, isKept⟩)
        · -- the token used was pending until now
          have mails := vouches.mails_of_served (separates token served.1) isFormer
            (sameId.symm ▸ served)
          refine since_concat.2 (.inr ⟨token, served, isKept, ?_⟩)
          exact mails.of_sameAddress sameId sameAddress

theorem Token.Separates.of_subset {plaintexts plaintexts' : List String}
    (separates : Token.Separates plaintexts) (subset : plaintexts' ⊆ plaintexts) :
    Token.Separates plaintexts' :=
  fun former isFormer latter isLatter => separates former (subset isFormer) latter (subset isLatter)

/-- The plaintexts that a history had to do with it has to do with later. -/
theorem History.plaintexts_subset (earlier later : History scheme) :
    earlier.plaintexts ⊆ (earlier ++ later).plaintexts := by
  intro text isInvolved
  simp only [plaintexts, presented, minted, List.filterMap_append, List.flatMap_append,
    List.mem_append] at isInvolved ⊢
  exact isInvolved.imp .inl .inl

/-- The plaintext that an event presents is among those of the history, and so are those that have
been handed out before. -/
theorem History.presented_subset {earlier later : History scheme} {call : Service.Call}
    {text : String} (isCall : event.action = .call call) (presents : call.presented? = some text) :
    text :: earlier.minted ⊆ (earlier ++ event :: later).plaintexts := by
  refine List.cons_subset.2 ⟨List.mem_append_left _ ?_, fun other isMinted => ?_⟩
  · exact List.mem_filterMap.2 ⟨event, by simp, by simp only [isCall, presents]⟩
  · exact plaintexts_subset _ _ (List.mem_append_right _ isMinted)

/-- In a run of calls everything that is stored is vouched for. -/
theorem Run.vouches (run : Run scheme History.AdmitsCalls past database)
    (separates : Token.Separates past.plaintexts) : past.Vouches database.tables := by
  induction run with
  | start => exact ⟨nofun, nofun⟩
  | step run moment action admitted ih =>
      have earlier := ih (separates.of_subset (History.plaintexts_subset _ _))
      refine earlier.step run.sound run.remembers_of_calls admitted fun token isCall => ?_
      exact separates.of_subset (History.presented_subset isCall rfl)

/-- A token is mailed to one address only, if no plaintext is handed out twice. -/
theorem History.recipient_unique (distinct : past.minted.Nodup) {mailing mailing' : Event scheme}
    (member : mailing ∈ past) (member' : mailing' ∈ past) {recipient recipient' token : String}
    (isMailed : mailing.MailsActivation recipient token)
    (isMailed' : mailing'.MailsActivation recipient' token) : recipient = recipient' := by
  have apart := (List.pairwise_flatMap.1 distinct).2
  have unique : ∀ ⦃one⦄, one ∈ past → ∀ ⦃other⦄, other ∈ past → ∀ recipient recipient',
      one.MailsActivation recipient token → other.MailsActivation recipient' token →
        recipient = recipient' := by
    refine List.Pairwise.forall_of_forall_of_flip ?_ (apart.imp ?_) (apart.imp ?_)
    · intro one _ recipient recipient' isMailed isMailed'
      have letters := (Event.mailed isMailed).2.symm.trans (Event.mailed isMailed').2
      exact congrArg Mail.Letter.recipient (List.cons.inj letters).1
    · intro one other differ _ _ isMailed isMailed'
      exact absurd rfl (differ _ (Event.mailed isMailed).1 _ (Event.mailed isMailed').1)
    · intro one other differ _ _ isMailed isMailed'
      exact absurd rfl (differ _ (Event.mailed isMailed').1 _ (Event.mailed isMailed).1)
  exact unique member member' _ _ isMailed isMailed'

/-- **The address of an activated account has been confirmed.**  At every point of every run of
calls, an activated account was activated with a token that had been mailed to the address that the
account has, up to case, and no call has changed the address in more than case since the token was
mailed.  Whenever a token activates an account, no letter with the token has gone to another address
than the one that the account has at that time. -/
theorem Run.activated_address_is_confirmed (run : Run scheme History.AdmitsCalls past database)
    (separates : Token.Separates past.plaintexts) (distinct : past.minted.Nodup) :
    (∀ stored ∈ database.tables.accounts, stored.isActivated = true → past.Confirms stored) ∧
    ∀ activation ∈ past, ∀ stored ∈ activation.before.tables.accounts, ∀ token,
      activation.Served (.activate token) stored.id → ∀ mailing ∈ past, ∀ recipient,
        mailing.MailsActivation recipient token →
          Service.sameUpToCase recipient stored.email = true := by
  refine ⟨(run.vouches separates).confirmed, ?_⟩
  intro activation member stored isStored token served mailing member' recipient isMailed
  obtain ⟨earlier, later, rfl⟩ := List.append_of_mem member
  have vouches := (run.before rfl).1.vouches
    (separates.of_subset (History.plaintexts_subset _ _))
  obtain ⟨_, former, _, rfl, ⟨address, isMailed', sameAddress⟩, -⟩ := vouches.mails_of_served
    (separates.of_subset (History.presented_subset served.1 rfl)) isStored served
  have same := History.recipient_unique distinct member' (by simp) isMailed isMailed'
  exact same ▸ sameAddress

/-- An account that is activated after its registration has had its address confirmed. -/
theorem registered_address_is_confirmed :
    Run sampleScheme History.AdmitsCalls ([sampleRegistration] ++ [sampleActivation])
        sampleActivation.after ∧
      ∃ stored ∈ sampleActivation.after.tables.accounts, stored.isActivated = true ∧
        History.Confirms ([sampleRegistration] ++ [sampleActivation]) stored := by
  obtain ⟨stored, isStored, isActivated⟩ :
      ∃ stored ∈ sampleActivation.after.tables.accounts, stored.isActivated = true := by
    decide +kernel
  have minted := minted_run_sampleActivation
  have involved : History.plaintexts ([sampleRegistration] ++ [sampleActivation]) =
      [sampleToken.plaintext, sampleToken.plaintext] := by
    rw [History.plaintexts, minted]
    rfl
  have distinct : (History.minted ([sampleRegistration] ++ [sampleActivation])).Nodup := by
    rw [minted]
    exact List.pairwise_singleton _ _
  obtain ⟨confirmed, -⟩ := Run.activated_address_is_confirmed run_sampleActivation
    (involved ▸ Token.separates_replicate 2 _) distinct
  exact ⟨run_sampleActivation, stored, isStored, isActivated,
    confirmed stored isStored isActivated⟩

end Gatehouse
