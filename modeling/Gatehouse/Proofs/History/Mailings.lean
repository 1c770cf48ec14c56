import Gatehouse.Proofs.History.Letters
import Gatehouse.Proofs.History.Registrations
import Gatehouse.Proofs.Mail.Templates

/-!
# Letters do no harm

Nothing is escaped when a template is filled, so it is on the values that the form of a letter
rests.  They are of two kinds.  The text of a token is made of letters and digits.  An address is
one that is stored, and every stored address has the form of one (`Tables.HasAddresses`): a
registration and a change are refused with any other, a change that asks for no address keeps that
of the caller's copy, which is the stored one, and nothing else writes an address.

`Run.letters_do_no_harm` puts this together with what the templates make of such values.
-/

namespace Gatehouse

set_option autoImplicit false

variable {scheme : PasswordScheme}

/-! ## Values of letters -/

namespace Mail

theorem isHarmless_of_isEmail {address : String} (isAddress : Validation.isEmail address = true) :
    IsHarmless address := by
  obtain ⟨parts, rfl⟩ := Validation.isEmail_iff_exists_parts.1 isAddress
  constructor <;> rw [parts.toList_text]
  · simp [Validation.AddressParts.characters]
  · exact fun c inText => parts.mem_characters inText

theorem isHarmless_plaintextOf (draw : Draw) : IsHarmless (Token.plaintextOf draw) := by
  have characters : (Token.plaintextOf draw).toList = Encoding.Base32.encode draw.toList :=
    String.toList_ofList
  constructor
  · rw [characters, ← List.length_pos_iff, Encoding.Base32.length_encode, Vector.length_toList]
    decide
  · intro c inText
    rw [characters] at inText
    have isAlphanum := Encoding.Base32.isAlphanum_of_mem_encode inText
    exact .inl (.inl (Validation.isLetterOrDigit_iff.1 isAlphanum))

/-- Whether a letter goes to an address, has a value for each name of its template and no value that
could be mistaken for a part of a text. -/
structure Letter.IsHarmless (letter : Letter) : Prop where
  recipient : Validation.isEmail letter.recipient = true
  isComplete : ∀ name ∈ letter.template.names, ∃ value, letter.values.get? name = some value
  values : ∀ name value, letter.values.get? name = some value → Mail.IsHarmless value

/-- A letter that tells an address and a token does no harm if these do none. -/
theorem Letter.Tells.isHarmless {letter : Letter} {template : Template} {address token : String}
    (tells : letter.Tells address token template) (isAddress : Validation.isEmail address = true)
    (isHarmless : Mail.IsHarmless token) : letter.IsHarmless := by
  cases tells with
  | activation tellsToken noOther =>
      refine ⟨isAddress, ?_, fun name value isGiven => ?_⟩
      · simp [Template.names, tellsToken]
      · by_cases isToken : name = "activationToken"
        · subst isToken
          exact Option.some.inj (tellsToken.symm.trans isGiven) ▸ isHarmless
        · cases (noOther name isToken).symm.trans isGiven
  | passwordReset tellsToken tellsAddress noOther =>
      refine ⟨isAddress, ?_, fun name value isGiven => ?_⟩
      · simp [Template.names, tellsToken, tellsAddress]
      · by_cases isToken : name = "resetPasswordToken"
        · subst isToken
          exact Option.some.inj (tellsToken.symm.trans isGiven) ▸ isHarmless
        · by_cases isEmail : name = "email"
          · subst isEmail
            have isAddressee := Option.some.inj (tellsAddress.symm.trans isGiven)
            exact isAddressee ▸ isHarmless_of_isEmail isAddress
          · cases (noOther name isToken isEmail).symm.trans isGiven

end Mail

theorem Tables.Mints.isHarmless {tables : Tables} {now : Instant} {accountId : Int} {scope : Scope}
    {issued : IssuedToken} (mints : tables.Mints now accountId scope issued) :
    Mail.IsHarmless issued.plaintext := by
  obtain ⟨draw, rfl⟩ := mints.draw
  exact Mail.isHarmless_plaintextOf draw

/-! ## Stored addresses -/

/-- Whether every stored address has the form of one. -/
def Tables.HasAddresses (tables : Tables) : Prop :=
  ∀ stored ∈ tables.accounts, Validation.isEmail stored.email = true

namespace Tables

variable {tables after : Tables}

theorem HasAddresses.withAccount (hasAddresses : tables.HasAddresses) {created : Account}
    (isAdded : after.accounts = (tables.withAccount created).accounts)
    (isAddress : Validation.isEmail created.email = true) : after.HasAddresses := by
  intro stored isStored
  rcases mem_withAccount.1 (isAdded ▸ isStored) with isOld | rfl
  · exact hasAddresses stored isOld
  · exact isAddress

theorem HasAddresses.withChange (hasAddresses : tables.HasAddresses) {changed : Account}
    (isWritten : after.accounts = (tables.withChange changed).accounts)
    (isAddress : Validation.isEmail changed.email = true) : after.HasAddresses := by
  intro account isStored
  obtain ⟨stored, isOld, rfl⟩ := mem_withChange.1 (isWritten ▸ isStored)
  unfold rewritten
  split
  · exact isAddress
  · exact hasAddresses stored isOld

end Tables

namespace Service

variable {now : Instant} {tables after : Tables}

theorem isEmail_of_registration {username email password : String}
    (isAccepted : (Validation.registrationReport username email password).isAcceptable = true) :
    Validation.isEmail email = true :=
  (Validation.isEmail_and_meetsPasswordPolicy (isAcceptable_registrationReport.1 isAccepted)).1

/-- A change of an account leaves it an address if it had one. -/
theorem SetsPassword.isEmail {caller changed : Account} {email password : Option String}
    (isSet : SetsPassword scheme (withAddress caller email) changed password)
    (isAccepted : (updateReport email password).isAcceptable = true)
    (isAddress : email = none → Validation.isEmail caller.email = true) :
    Validation.isEmail changed.email = true := by
  have isAcceptable := isAcceptable_updateReport.1 isAccepted
  rw [isSet.email_eq]
  cases email with
  | none => exact isAddress rfl
  | some email => exact isAcceptable.email email rfl

/-- A call that succeeds keeps addresses, if it is made by nobody in particular or with a copy that
is remembered. -/
theorem Effect.hasAddresses {call : Call} {reply : Reply} {letters : List Mail.Letter}
    (effect : Effect scheme now tables call reply letters after) (sound : tables.Sound)
    (remembers : ∀ caller, call.identity = .known caller → tables.Remembers caller)
    (hasAddresses : tables.HasAddresses) : after.HasAddresses := by
  cases effect with
  | register isAccepted _ _ isNext =>
      subst isNext
      exact hasAddresses.withAccount (Tables.accounts_granted _ _)
        (isEmail_of_registration isAccepted)
  | activate _ holds =>
      obtain ⟨isStored, -⟩ := Tables.mem_of_accountByToken?_eq_some holds
      have isAddress := hasAddresses _ isStored
      exact hasAddresses.withChange (Tables.accounts_granted _ _) isAddress
  | updatePassword _ _ holds =>
      obtain ⟨isStored, -⟩ := Tables.mem_of_accountByToken?_eq_some holds
      have isAddress := hasAddresses _ isStored
      exact hasAddresses.withChange rfl isAddress
  | updateInPlace isAccepted _ isSet accepts =>
      refine hasAddresses.withChange rfl (isSet.isEmail isAccepted fun _ => ?_)
      exact hasAddresses _ (isSet.caller_mem sound (remembers _ rfl) accepts)
  | updateAddress isAccepted _ isSet accepts =>
      refine hasAddresses.withChange rfl (isSet.isEmail isAccepted fun _ => ?_)
      exact hasAddresses _ (isSet.caller_mem sound (remembers _ rfl) accepts)
  | login | refresh | logout | requestPasswordReset | getAccount | authenticate
  | requirePermissions | sessionExpiry => exact hasAddresses

/-- The letters of a call do no harm if the stored addresses have the form of addresses. -/
theorem Effect.isHarmless {call : Call} {reply : Reply} {letters : List Mail.Letter}
    (effect : Effect scheme now tables call reply letters after)
    (hasAddresses : tables.HasAddresses) : ∀ letter ∈ letters, letter.IsHarmless := by
  intro letter isQueued
  cases effect with
  | @register _ email _ _ _ account token isAccepted _ _ isNext mints =>
      obtain rfl := List.mem_singleton.1 isQueued
      have sameAddress : account.email = email := isNext ▸ rfl
      refine (tells_activationLetter _ _).isHarmless ?_ mints.isHarmless
      exact sameAddress ▸ isEmail_of_registration isAccepted
  | requestPasswordReset _ isAt mints =>
      obtain rfl := List.mem_singleton.1 isQueued
      refine (tells_resetLetter _ _).isHarmless ?_ mints.isHarmless
      exact hasAddresses _ (List.mem_of_find?_eq_some isAt)
  | updateAddress isAccepted isNew isSet _ mints =>
      obtain rfl := List.mem_singleton.1 isQueued
      refine (tells_activationLetter _ _).isHarmless ?_ mints.isHarmless
      -- a change that asks for no address asks for none that is new
      exact isSet.isEmail isAccepted fun noAddress => by cases noAddress; cases isNew
  | activate | login | refresh | logout | updatePassword | updateInPlace | getAccount
  | authenticate | requirePermissions | sessionExpiry => cases isQueued

end Service

/-! ## Runs -/

theorem History.admitsEdits_of_admitsCallsAndPurges {past : History scheme} {action : Action}
    (admitted : past.AdmitsCallsAndPurges action) : past.AdmitsEdits action := by
  cases action with
  | purgeExpired => trivial
  | _ => exact History.admitsEdits_of_admitsCalls admitted

/-- An event of a run keeps addresses, and its letters do no harm. -/
theorem Event.hasAddresses {past : History scheme} (event : Event scheme)
    (run : Run scheme History.AdmitsCallsAndPurges past event.before)
    (admitted : past.AdmitsCallsAndPurges event.action)
    (hasAddresses : event.before.tables.HasAddresses) :
    event.after.tables.HasAddresses ∧ ∀ letter ∈ event.outcome.letters, letter.IsHarmless := by
  cases answered : event.answer? with
  | none =>
      obtain ⟨unchanged, noLetters⟩ := unchanged_of_failed answered
      rw [unchanged, noLetters]
      exact ⟨hasAddresses, nofun⟩
  | some answer =>
      cases isAction : event.action with
      | call call =>
          rw [isAction] at admitted
          obtain ⟨reply, -, effect⟩ := effect_of_call isAction answered
          refine ⟨effect.hasAddresses run.sound (fun caller isCaller => ?_) hasAddresses,
            effect.isHarmless hasAddresses⟩
          have runOfEdits := run.mono fun _ _ => History.admitsEdits_of_admitsCallsAndPurges
          exact runOfEdits.remembers caller (admitted caller isCaller)
      | purgeExpired =>
          rw [(effect_of_purge isAction answered).1,
            letters_of_not_call fun call isCall => nomatch isAction.symm.trans isCall]
          exact ⟨hasAddresses, nofun⟩
      | _ =>
          rw [isAction] at admitted
          exact admitted.elim

variable {past : History scheme} {database : Database}

/-- Every address that a run has stored has the form of one, and no letter that it has queued does
harm. -/
theorem Run.hasAddresses (run : Run scheme History.AdmitsCallsAndPurges past database) :
    database.tables.HasAddresses ∧ ∀ letter ∈ past.letters, letter.IsHarmless := by
  induction run with
  | start => exact ⟨nofun, nofun⟩
  | step run moment action admitted ih =>
      obtain ⟨hasAddresses, areHarmless⟩ := ih
      obtain ⟨hasAddresses, lastHarmless⟩ :=
        Event.hasAddresses ⟨moment, action, _⟩ run admitted hasAddresses
      refine ⟨hasAddresses, fun letter isQueued => ?_⟩
      rw [History.letters, List.flatMap_append, List.flatMap_singleton] at isQueued
      exact (List.mem_append.1 isQueued).elim (areHarmless letter) (lastHarmless letter)

/-- **Every letter is filled, and its values put nothing into it.**  Take any run of calls of the
service and of removals of tokens, each call made by nobody in particular or with a copy that was
handed out before, and any letter that it has queued.

* The letter goes to an address.
* Each of its values is made of `A-Za-z0-9._%+@-`, and so holds no brace of a placeholder, no quote
  or backslash of a JSON text, no character that HTML gives a meaning and no line break.
* Its template is filled.  The subject, the plain text and the formatted text that come out have
  each as many `<`, `>`, `&` and `"` as the template's own, and no two braces in a row that could
  begin or end a placeholder. -/
theorem Run.letters_do_no_harm (run : Run scheme History.AdmitsCallsAndPurges past database) :
    ∀ letter ∈ past.letters,
      Validation.isEmail letter.recipient = true ∧
      (∀ name value, letter.values.get? name = some value →
        (∀ c ∈ value.toList, c ∈ Mail.valueClass) ∧ ∀ c ∈ Mail.specialChars, c ∉ value.toList) ∧
      ∃ texts, letter.template.render letter.values = .ok texts ∧
        Mail.KeepsForm letter.template.texts.subject texts.subject ∧
        Mail.KeepsForm letter.template.texts.plain texts.plain ∧
        Mail.KeepsForm letter.template.texts.html texts.html := by
  intro letter isQueued
  have isHarmless := run.hasAddresses.2 letter isQueued
  refine ⟨isHarmless.recipient, fun name value isGiven => ?_, ?_⟩
  · have harmless := isHarmless.values name value isGiven
    exact ⟨harmless.mem_valueClass, fun c isSpecial => harmless.notMem isSpecial⟩
  · refine Mail.Template.render_of_harmless fun name isName => ?_
    obtain ⟨value, isGiven⟩ := isHarmless.isComplete name isName
    exact ⟨value, isGiven, isHarmless.values name value isGiven⟩

/-- Somebody who has registered asks for a reset token, and types the address in another case. -/
def sampleReset : Event sampleScheme :=
  ⟨⟨⟨0⟩, [.replicate 16 2]⟩, .call (.requestPasswordReset "ALICE@example.com"),
    sampleRegistration.after⟩

theorem run_sampleReset :
    Run sampleScheme History.AdmitsCallsAndPurges ([sampleRegistration] ++ [sampleReset])
      sampleReset.after :=
  .step (run_sampleRegistration.mono fun _ _ => History.admitsCallsAndPurges_of_admitsCalls) _ _
    nofun

/-- Both letters go to the address as it was registered, and the formatted text of the second one
keeps its form with the address in it. -/
theorem letters_of_registration_and_reset :
    (History.letters ([sampleRegistration] ++ [sampleReset])).map
          (fun letter => (letter.template, letter.recipient)) =
        [(.activation, "alice@example.com"), (.passwordReset, "alice@example.com")] ∧
      ∀ letter ∈ History.letters ([sampleRegistration] ++ [sampleReset]),
        letter.template = .passwordReset → ∃ texts,
          letter.template.render letter.values = .ok texts ∧
            Mail.KeepsForm Mail.Template.resetHtml texts.html := by
  refine ⟨by decide +kernel, fun letter isQueued isReset => ?_⟩
  obtain ⟨-, -, texts, isFilled, -, -, keepsForm⟩ :=
    Run.letters_do_no_harm run_sampleReset letter isQueued
  rw [isReset] at keepsForm
  exact ⟨texts, isFilled, keepsForm⟩

end Gatehouse
