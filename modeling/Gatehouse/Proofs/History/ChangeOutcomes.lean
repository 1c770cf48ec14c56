import Gatehouse.Proofs.History.Registrations

/-!
# What a change of an account comes to

There are five reasons to refuse a change of an account (`ChangeRefusal`), and the first that applies
decides (`Run.updateAccount_of_isFirst`).  Where none applies the change succeeds, as long as the
random source gives a salt and a token that is not stored, and what it replies is what is stored
(`Run.updateAccount_of_no_refusal`).

A change is made from the copy that its caller has in hand.  A copy that is not out of date is the
stored account (`Run.mem_of_not_outOfDate`), so that the address which the change compares with the
one it asks for is the stored one, and what stays of the copy is as it was stored.
-/

namespace Gatehouse

set_option autoImplicit false

/-! ## Reasons to refuse a change -/

/-- Why a change of an account is refused. -/
inductive ChangeRefusal where
  /-- Nobody in particular has asked for it. -/
  | unknownCaller
  /-- It is about the account of somebody else. -/
  | foreignAccount
  /-- It breaks rules. -/
  | brokenRules
  /-- The account has been changed since the caller was recognised, or is not there. -/
  | outOfDate
  /-- Somebody else has the address. -/
  | takenAddress
  deriving DecidableEq, Repr

namespace ChangeRefusal

/-- The reasons that count before one. -/
def earlier : ChangeRefusal → List ChangeRefusal
  | .unknownCaller => []
  | .foreignAccount => [.unknownCaller]
  | .brokenRules => [.unknownCaller, .foreignAccount]
  | .outOfDate => [.unknownCaller, .foreignAccount, .brokenRules]
  | .takenAddress => [.unknownCaller, .foreignAccount, .brokenRules, .outOfDate]

/-- Whether there is a reason to refuse a change. -/
inductive Applies (tables : Tables) (identity : Identity) (username : String)
    (email password : Option String) : ChangeRefusal → Prop
  | unknownCaller (isAnonymous : identity = .anonymous) :
      Applies tables identity username email password .unknownCaller
  | foreignAccount {caller : Account} (isCaller : identity = .known caller)
      (isOther : caller.username ≠ username) :
      Applies tables identity username email password .foreignAccount
  | brokenRules {field : String} (isBroken : Validation.BreaksChange email password field) :
      Applies tables identity username email password .brokenRules
  | outOfDate {caller : Account} (isCaller : identity = .known caller)
      (isStale : ∀ stored ∈ tables.accounts,
        stored.id = caller.id → stored.version ≠ caller.version) :
      Applies tables identity username email password .outOfDate
  | takenAddress {caller other : Account} {given : String} (isCaller : identity = .known caller)
      (isGiven : email = some given) (isStored : other ∈ tables.accounts)
      (isOther : other.id ≠ caller.id) (same : Service.sameUpToCase other.email given = true) :
      Applies tables identity username email password .takenAddress

/-- Whether a fault reports a reason.  Of broken rules each is reported on its field. -/
inductive Reports (email password : Option String) : ChangeRefusal → Fault → Prop
  | unknownCaller : Reports email password .unknownCaller .unauthenticated
  | foreignAccount : Reports email password .foreignAccount Identity.notPermitted
  | brokenRules {report : Validation.Report}
      (lists : report.Lists (Validation.BreaksChange email password)) :
      Reports email password .brokenRules (.validation report)
  | outOfDate : Reports email password .outOfDate .notFound
  | takenAddress : Reports email password .takenAddress Tables.emailTaken

/-- Whether a reason to refuse a change is the first there is. -/
structure IsFirst (tables : Tables) (identity : Identity) (username : String)
    (email password : Option String) (refusal : ChangeRefusal) : Prop where
  applies : refusal.Applies tables identity username email password
  noEarlier : ∀ other ∈ refusal.earlier,
    ¬other.Applies tables identity username email password

variable {tables : Tables} {identity : Identity} {username : String}
  {email password : Option String}

theorem length_earlier_lt {other refusal : ChangeRefusal} (isEarlier : other ∈ refusal.earlier) :
    other.earlier.length < refusal.earlier.length := by
  cases refusal <;> cases other <;> revert isEarlier <;> decide

/-- Where there is a reason to refuse a change there is a first one. -/
theorem exists_isFirst {refusal : ChangeRefusal}
    (applies : refusal.Applies tables identity username email password) :
    ∃ first : ChangeRefusal, first.IsFirst tables identity username email password := by
  by_cases noEarlier : ∀ other ∈ refusal.earlier,
      ¬other.Applies tables identity username email password
  · exact ⟨refusal, applies, noEarlier⟩
  · push Not at noEarlier
    obtain ⟨other, isEarlier, applies⟩ := noEarlier
    have isShorter := length_earlier_lt isEarlier
    exact exists_isFirst applies
  termination_by refusal.earlier.length

/-- Who may ask for a change is a known caller, about the account with the caller's own name. -/
theorem isOwner
    (isKnown : ¬Applies tables identity username email password .unknownCaller)
    (isOwn : ¬Applies tables identity username email password .foreignAccount) :
    ∃ caller, identity = .known caller ∧ caller.username = username := by
  cases identity with
  | anonymous => exact absurd (.unknownCaller rfl) isKnown
  | known caller =>
      exact ⟨caller, rfl, by_contra fun isOther => isOwn (.foreignAccount rfl isOther)⟩

theorem isKept (noBreach : ¬Applies tables identity username email password .brokenRules)
    (field : String) : ¬Validation.BreaksChange email password field :=
  fun isBroken => noBreach (.brokenRules isBroken)

end ChangeRefusal

/-! ## What a change should come to -/

/-- The draws that are left once a password, if there is one, is salted. -/
def Moment.drawsAfterSalt (moment : Moment) (password : Option String) : List Draw :=
  moment.draws.drop (if password.isSome then 1 else 0)

namespace Service

/-- What a change that succeeds has made of the account of its caller, given the draws for a
token. -/
structure IsUpdated (now : Instant) (draws : List Draw) (before : Tables) (caller : Account)
    (email password : Option String) (made : AccountUpdate) (after : Tables) : Prop where
  /-- The caller's copy is the account as it was stored. -/
  isCurrent : before.account? caller.id = some caller
  isStored : after.account? caller.id = some made.account
  keepsName : made.account.id = caller.id ∧ made.account.createdAt = caller.createdAt ∧
    made.account.username = caller.username
  isNext : made.account.version = caller.version + 1
  hasAddress : made.account.email = email.getD caller.email
  hasPassword : ∀ given ∈ password,
    PasswordScheme.argon2id.verify given made.account.passwordHash = .ok true
  keepsPassword : password = none → made.account.passwordHash = caller.passwordHash
  /-- An address that differs in more than case must be confirmed anew, with a token that is the only
  one for it. -/
  moved : ∀ given ∈ email, sameUpToCase given caller.email = false →
    made.account.isActivated = false ∧ ∃ draw rest, draws = draw :: rest ∧
      made.activationToken =
        some (.ofDraw draw now caller.id Scope.activation.lifetime .activation) ∧
      after.tokens.filter (Tables.isSlot caller.id .activation) =
        made.activationToken.toList.map fun issued => Tables.rowOfToken issued.token
  /-- Otherwise the account stays activated if it was, and no token is made or ended. -/
  stayed : (∀ given ∈ email, sameUpToCase given caller.email = true) →
    made.account.isActivated = caller.isActivated ∧ made.activationToken = none ∧
      after.tokens = before.tokens

/-- What a change of an account should come to. -/
structure ChangesAsItShould (moment : Moment) (before : Tables) (identity : Identity)
    (username : String) (email password : Option String) (outcome : Outcome AccountUpdate) :
    Prop where
  refused : ∀ refusal : ChangeRefusal, refusal.IsFirst before identity username email password →
    ∃ fault, outcome.result = .error fault ∧ refusal.Reports email password fault
  changed : (∀ refusal : ChangeRefusal,
      ¬refusal.Applies before identity username email password) →
    ∃ caller made, identity = .known caller ∧ outcome.result = .ok made ∧
      IsUpdated moment.now (moment.drawsAfterSalt password) before caller email password made
        outcome.database.tables
  /-- There is no other way to succeed. -/
  unrefused : ∀ made, outcome.result = .ok made → ∀ refusal : ChangeRefusal,
    ¬refusal.Applies before identity username email password

/-! ## Rules and draws -/

theorem isAcceptable_updateReport_iff {email password : Option String} :
    (updateReport email password).isAcceptable = true ↔
      ∀ field, ¬Validation.BreaksChange email password field := by
  rw [Validation.Report.isAcceptable_iff]
  exact forall_congr' fun field =>
    not_congr ((Validation.updateReport_lists email password).mem_iff field)

theorem isAcceptable_of_isKept {email password : Option String}
    (isKept : ∀ field, ¬Validation.BreaksChange email password field) :
    IsAcceptable email password :=
  isAcceptable_updateReport.1 (isAcceptable_updateReport_iff.2 isKept)

theorem salts_of_hasDraw {moment : Moment} {tables : Tables} {email password : Option String}
    (isKept : ∀ field, ¬Validation.BreaksChange email password field)
    (hasDraw : tables.HasDraw (moment.drawsAfterSalt password)) :
    moment.Salts .argon2id password (moment.drawsAfterSalt password) := by
  cases password with
  | none => exact .unchanged
  | some password =>
      obtain ⟨salt, draws⟩ := Tables.HasDraw.salt hasDraw
      have isMet := (isAcceptable_of_isKept isKept).password password rfl
      exact .salted draws (PasswordScheme.argon2id_hash isMet salt)

/-! ## Changes that are out of date -/

/-- A change is refused if no stored account has the version of the caller's copy. -/
theorem updateAccount_of_outOfDate {scheme : PasswordScheme} {moment : Moment}
    {database : Database} {caller : Account} {email password : Option String} {later : List Draw}
    (isOpen : database.isOpen = true)
    (isAccepted : (updateReport email password).isAcceptable = true)
    (salts : moment.Salts scheme password later)
    (isStale : ∀ stored ∈ database.tables.accounts,
      stored.id = caller.id → stored.version ≠ caller.version) :
    (updateAccount scheme moment database (.known caller) caller.username email password).result =
      .error .notFound := by
  refine updateAccount_of_refused isOpen isAccepted salts fun changed isSet => ?_
  rw [Tables.updateAccount, Tables.writeBack_of_stale]
  rw [isSet.id_eq, isSet.version_eq]
  exact isStale

/-! ## What a change that succeeds has made -/

/-- A token that has been made is the only one of its account in its scope. -/
theorem tokens_withToken_isSlot {tables : Tables} {now : Instant} {id : Int} {scope : Scope}
    {issued : IssuedToken} (mints : tables.Mints now id scope issued) :
    (tables.withToken issued).tokens.filter (Tables.isSlot id scope) =
      [Tables.rowOfToken issued.token] := by
  have cleared : (tables.withoutToken id scope).tokens.filter (Tables.isSlot id scope) = [] := by
    rw [List.filter_eq_nil_iff]
    intro row isKept
    rw [Tables.isSlot_iff]
    exact (Tables.mem_withoutToken.1 isKept).2
  have isSlot : Tables.isSlot id scope (Tables.rowOfToken issued.token) = true :=
    Tables.isSlot_iff.2 ⟨mints.accountId_eq, congrArg Scope.tag mints.scope_eq⟩
  change List.filter _ (_ ++ [_]) = _
  rw [mints.accountId_eq, mints.scope_eq, List.filter_append, cleared,
    List.filter_cons_of_pos isSlot, List.filter_nil, List.nil_append]

theorem isNewAddress_eq_false_iff {caller : Account} {email : Option String} :
    isNewAddress caller email = false ↔
      ∀ given ∈ email, sameUpToCase given caller.email = true := by
  cases email <;> simp [isNewAddress]

/-- The hash of a changed copy is of the password of the change, if it has one. -/
theorem SetsPassword.passwordHash {former changed : Account} {password : Option String}
    (isSet : SetsPassword .argon2id former changed password) :
    (∀ given ∈ password,
      PasswordScheme.argon2id.verify given changed.passwordHash = .ok true) ∧
    (password = none → changed.passwordHash = former.passwordHash) := by
  cases password with
  | none =>
      refine ⟨nofun, fun _ => ?_⟩
      rw [show changed = former from isSet]
  | some password =>
      obtain ⟨salt, stored, isHashed, rfl⟩ := isSet
      refine ⟨?_, nofun⟩
      rintro given ⟨⟩
      exact PasswordScheme.argon2id_verify_of_hash isHashed

/-- A change that succeeds was made by the caller with the stored account, and what it has made is
told by the effect of the change. -/
theorem isUpdated {moment : Moment} {database : Database} {caller : Account}
    {email password : Option String} {draws : List Draw} {made : AccountUpdate}
    (sound : database.tables.Sound) (isStored : caller ∈ database.tables.accounts)
    (done : (updateAccount .argon2id moment database (.known caller) caller.username email
      password).result = .ok made)
    (isMade : isNewAddress caller email = true → ∃ draw rest, draws = draw :: rest ∧
      made.activationToken =
        some (.ofDraw draw moment.now caller.id Scope.activation.lifetime .activation)) :
    IsUpdated moment.now draws database.tables caller email password made
      (updateAccount .argon2id moment database (.known caller) caller.username email
        password).database.tables := by
  obtain ⟨isChange, isKept⟩ := updateAccount_stores sound isStored done
  have answered : (perform .argon2id moment database
      (.updateAccount (.known caller) caller.username email password)).result =
        .ok (.update made) := except_map_eq_ok.2 ⟨made, done, rfl⟩
  obtain ⟨-, after, effect, isAfter⟩ := effect_of_perform answered
  have sameDatabase : (updateAccount .argon2id moment database (.known caller) caller.username email
      password).database = { database with tables := after } := isAfter
  rw [sameDatabase] at isKept ⊢
  have isCurrent := sound.account?_eq_some.2 ⟨isStored, rfl⟩
  generalize (perform .argon2id moment database
    (.updateAccount (.known caller) caller.username email password)).letters = letters at effect
  cases effect with
  | updateInPlace _ isSame isSet _ =>
      have allSame := isNewAddress_eq_false_iff.1 isSame
      have isActivated := isSet.isActivated_eq
      rw [isSame, Bool.not_false, Bool.and_true] at isActivated
      exact
        { isCurrent, isStored := isKept, hasAddress := isChange.email
          keepsName := ⟨isSet.id_eq, isSet.createdAt_eq, isChange.username⟩
          isNext := congrArg (· + 1) isSet.version_eq
          hasPassword := isSet.passwordHash.1
          keepsPassword := isSet.passwordHash.2
          moved := fun given isGiven isNew =>
            Bool.noConfusion (isNew.symm.trans (allSame given isGiven))
          stayed := fun _ => ⟨isActivated, rfl, rfl⟩ }
  | @updateAddress _ changed _ _ token _ isNew isSet _ mints =>
      have isActivated := isSet.isActivated_eq
      rw [isNew, Bool.not_true, Bool.and_false] at isActivated
      have tokens : (((database.tables.withChange changed).withoutToken changed.id
          .activation).withToken token).tokens.filter (Tables.isSlot caller.id .activation) =
            [Tables.rowOfToken token.token] := by
        rw [← isSet.id_eq]
        exact tokens_withToken_isSlot mints
      obtain ⟨draw, rest, isDrawn, isToken⟩ := isMade isNew
      exact
        { isCurrent, isStored := isKept, hasAddress := isChange.email
          keepsName := ⟨isSet.id_eq, isSet.createdAt_eq, isChange.username⟩
          isNext := congrArg (· + 1) isSet.version_eq
          hasPassword := isSet.passwordHash.1
          keepsPassword := isSet.passwordHash.2
          moved := fun _ _ _ => ⟨isActivated, draw, rest, isDrawn, isToken, tokens⟩
          stayed := fun allSame =>
            Bool.noConfusion (isNew.symm.trans (isNewAddress_eq_false_iff.2 allSame)) }

end Service

/-! ## Changes in a run -/

namespace Run

variable {past : History .argon2id} {database : Database} {moment : Moment}
  {identity : Identity} {username : String} {email password : Option String}

/-- Where no copy is out of date a caller has the stored account in hand. -/
theorem mem_of_not_outOfDate (run : Run .argon2id History.AdmitsEdits past database)
    {caller : Account} (isKnown : past.Knows caller)
    (isCurrent : ¬ChangeRefusal.Applies database.tables (.known caller) username email password
      .outOfDate) : caller ∈ database.tables.accounts := by
  obtain ⟨stored, isStored, sameId, -, -, sameContent⟩ := run.remembers caller isKnown
  by_cases sameVersion : stored.version = caller.version
  · exact sameContent sameVersion ▸ isStored
  · refine absurd (.outOfDate rfl fun other isOther otherId => ?_) isCurrent
    rwa [run.sound.eq_of_id_eq isOther isStored (otherId.trans sameId.symm)]

/-- For a change of the stored account that keeps the rules, the rows refuse the address exactly if
it is taken. -/
theorem applies_takenAddress_iff (run : Run .argon2id History.AdmitsEdits past database)
    {caller : Account} (isStored : caller ∈ database.tables.accounts)
    (isKept : ∀ field, ¬Validation.BreaksChange email password field) :
    ChangeRefusal.Applies database.tables (.known caller) username email password .takenAddress ↔
      database.tables.AddressIsTaken (Service.withAddress caller email) := by
  constructor
  · rintro (_ | _ | _ | _ | ⟨⟨⟩, rfl, isOther, notOwn, same⟩)
    exact ⟨_, isOther, notOwn, Tables.sameAddress_of_sameUpToCase same⟩
  · rintro ⟨other, isOther, notOwn, same⟩
    cases email with
    | none =>
        -- the address that stays is the caller's own, and no two accounts have one address
        have isOwn : other = caller := run.sound.eq_of_not_distinct isOther isStored
          fun distinct => Bool.noConfusion (distinct.email.symm.trans same)
        exact absurd (congrArg Account.id isOwn) notOwn
    | some given =>
        have isAddress := (Service.isAcceptable_of_isKept isKept).email given rfl
        exact .takenAddress rfl rfl isOther notOwn
          ((Tables.sameAddress_iff_sameUpToCase (Validation.null_notMem_of_isEmail isAddress)).1 same)

/-- A change fails for the first reason there is to refuse it. -/
theorem updateAccount_of_isFirst (run : Run .argon2id History.AdmitsEdits past database)
    (isOpen : database.isOpen = true)
    (isKnown : ∀ caller, identity = .known caller → past.Knows caller)
    (hasDraw : database.tables.HasDraw (moment.drawsAfterSalt password)) {refusal : ChangeRefusal}
    (isFirst : refusal.IsFirst database.tables identity username email password) :
    ∃ fault, (Service.updateAccount .argon2id moment database identity username email
      password).result = .error fault ∧ refusal.Reports email password fault := by
  obtain ⟨applies, noEarlier⟩ := isFirst
  cases refusal with
  | unknownCaller =>
      cases applies with | unknownCaller isAnonymous
      subst isAnonymous
      exact ⟨_, Service.updateAccount_of_not_owner rfl, .unknownCaller⟩
  | foreignAccount =>
      cases applies with | foreignAccount isCaller isOther
      subst isCaller
      refine ⟨_, Service.updateAccount_of_not_owner ?_, .foreignAccount⟩
      simp [Identity.owner, Identity.require, isOther]
  | brokenRules =>
      obtain ⟨caller, rfl, rfl⟩ := ChangeRefusal.isOwner (noEarlier _ (by decide))
        (noEarlier _ (by decide))
      have isRefused : (Service.updateReport email password).isAcceptable = false := by
        rw [← Bool.not_eq_true, Service.isAcceptable_updateReport_iff]
        cases applies with | brokenRules isBroken
        exact fun isKept => isKept _ isBroken
      exact ⟨_, Service.updateAccount_of_unacceptable isRefused,
        .brokenRules (Validation.updateReport_lists email password)⟩
  | outOfDate =>
      obtain ⟨caller, rfl, rfl⟩ := ChangeRefusal.isOwner (noEarlier _ (by decide))
        (noEarlier _ (by decide))
      have isKept := ChangeRefusal.isKept (noEarlier _ (by decide))
      cases applies with | outOfDate isCaller isStale
      obtain rfl := Identity.known.inj isCaller
      exact ⟨_, Service.updateAccount_of_outOfDate isOpen
        (Service.isAcceptable_updateReport_iff.2 isKept)
        (Service.salts_of_hasDraw isKept hasDraw) isStale, .outOfDate⟩
  | takenAddress =>
      obtain ⟨caller, rfl, rfl⟩ := ChangeRefusal.isOwner (noEarlier _ (by decide))
        (noEarlier _ (by decide))
      have isKept := ChangeRefusal.isKept (noEarlier _ (by decide))
      have isStored := run.mem_of_not_outOfDate (isKnown _ rfl) (noEarlier _ (by decide))
      have isTaken := (run.applies_takenAddress_iff isStored isKept).1 applies
      exact ⟨_, Service.updateAccount_of_taken isOpen
        (Service.isAcceptable_updateReport_iff.2 isKept)
        (Service.salts_of_hasDraw isKept hasDraw) isStored isTaken, .takenAddress⟩

/-- A change that there is no reason to refuse succeeds. -/
theorem updateAccount_of_no_refusal (run : Run .argon2id History.AdmitsEdits past database)
    (isOpen : database.isOpen = true)
    (isKnown : ∀ caller, identity = .known caller → past.Knows caller)
    (hasDraw : database.tables.HasDraw (moment.drawsAfterSalt password))
    (noReason : ∀ refusal : ChangeRefusal,
      ¬refusal.Applies database.tables identity username email password) :
    ∃ caller made, identity = .known caller ∧
      (Service.updateAccount .argon2id moment database identity username email password).result =
        .ok made ∧
      Service.IsUpdated moment.now (moment.drawsAfterSalt password) database.tables caller email
        password made
        (Service.updateAccount .argon2id moment database identity username email
          password).database.tables := by
  obtain ⟨caller, rfl, rfl⟩ := ChangeRefusal.isOwner (noReason _) (noReason _)
  have isKept := ChangeRefusal.isKept (noReason _)
  have isStored := run.mem_of_not_outOfDate (isKnown caller rfl) (noReason _)
  have isFree := (run.applies_takenAddress_iff isStored isKept).not.1 (noReason _)
  obtain ⟨made, done, isMade⟩ := Service.updateAccount_makes isOpen
    (Service.isAcceptable_updateReport_iff.2 isKept) (Service.salts_of_hasDraw isKept hasDraw)
    (fun _ isSet => Service.accepts_of_stored run.sound isStored isFree isSet) fun _ => hasDraw
  exact ⟨caller, made, rfl, done, Service.isUpdated run.sound isStored done isMade⟩

/-- **What a change of an account comes to.**  In every state that a run comes to, as long as the
database is open and the random source gives what a change needs: a change that is asked for by
nobody in particular, or with an account that the run has handed out, fails for the first reason
there is to refuse it, and succeeds if there is none. -/
theorem changes_as_it_should (run : Run .argon2id History.AdmitsEdits past database)
    (isOpen : database.isOpen = true) (identity : Identity)
    (isKnown : ∀ caller, identity = .known caller → past.Knows caller) (username : String)
    (email password : Option String)
    (hasDraw : database.tables.HasDraw (moment.drawsAfterSalt password)) :
    Service.ChangesAsItShould moment database.tables identity username email password
      (Service.updateAccount .argon2id moment database identity username email password) where
  refused _ isFirst := run.updateAccount_of_isFirst isOpen isKnown hasDraw isFirst
  changed noReason := run.updateAccount_of_no_refusal isOpen isKnown hasDraw noReason
  unrefused made done refusal applies := by
    obtain ⟨first, isFirst⟩ := ChangeRefusal.exists_isFirst applies
    obtain ⟨fault, refused, -⟩ := run.updateAccount_of_isFirst isOpen isKnown hasDraw isFirst
    rw [done] at refused
    cases refused

end Run

/-- Once an account has been changed, a change that is asked for with its first copy is refused, be
it about the address that the account has already.  Before, a change of its address and its password
succeeds, and hands out a token for the new address. -/
theorem changes_with_the_first_copy :
    (Service.updateAccount .argon2id suppliedMoment changeOfAddress.after (.known firstCopy) "alice"
      (some "new@example.com") none).result = .error .notFound ∧
    ∃ made, (Service.updateAccount .argon2id suppliedMoment creation.after (.known firstCopy) "alice"
        (some "new@example.com") (some "Abcdef1!")).result = .ok made ∧
      made.account.email = "new@example.com" ∧ made.account.version = 2 ∧
      made.activationToken.isSome = true := by
  have isKnown : History.Knows [creation] firstCopy := ⟨creation, .head _, .head _⟩
  have created : Run .argon2id History.AdmitsEdits [creation] creation.after :=
    .step .start .idle _ trivial
  have run : Run .argon2id History.AdmitsEdits [creation, changeOfAddress] changeOfAddress.after :=
    .step created .idle _ ⟨firstCopy, isKnown, rfl, rfl, rfl⟩
  have hasDraw {tables : Tables} {password : Option String} (noTokens : tables.tokens = []) :
      tables.HasDraw (suppliedMoment.drawsAfterSalt password) := by
    have unused (draw : Draw) : ∀ row ∈ tables.tokens,
        row.digest ≠ Token.digestOf (Token.plaintextOf draw) := by
      rw [noTokens]
      nofun
    cases password <;> exact ⟨_, _, rfl, unused _⟩
  have keeps {password : Option String}
      (isMet : ∀ given ∈ password, Validation.meetsPasswordPolicy given = true) (field : String) :
      ¬Validation.BreaksChange (some "new@example.com") password field := by
    rintro (⟨⟨⟩, isBroken⟩ | ⟨isGiven, isBroken⟩ | ⟨⟨⟩⟩)
    · exact absurd isBroken (by decide)
    · exact absurd (isMet _ isGiven) (by rw [isBroken]; decide)
  constructor
  · have outcome := run.changes_as_it_should rfl (.known firstCopy)
      (by rintro _ ⟨⟩; exact ⟨creation, .head _, .head _⟩) "alice" (some "new@example.com") none
      (hasDraw (by decide))
    have rows : changeOfAddress.after.tables.accounts =
        [⟨1, ⟨0⟩, "alice", "new@example.com", "stored", false, 2⟩] := by decide
    have isStale : ∀ stored ∈ changeOfAddress.after.tables.accounts,
        stored.id = firstCopy.id → stored.version ≠ firstCopy.version := by
      rw [rows]
      decide
    obtain ⟨fault, refused, reports⟩ := outcome.refused .outOfDate ⟨.outOfDate rfl isStale, by
      rintro other isEarlier (⟨isAnonymous⟩ | ⟨isCaller, isOther⟩ | ⟨isBroken⟩ | _ | _)
      · cases isAnonymous
      · cases isCaller
        exact isOther rfl
      · exact keeps (by rintro _ ⟨⟩) _ isBroken
      · exact absurd isEarlier (by decide)
      · exact absurd isEarlier (by decide)⟩
    cases reports
    exact refused
  · have outcome := created.changes_as_it_should rfl (.known firstCopy)
      (by rintro _ ⟨⟩; exact isKnown) "alice" (some "new@example.com") (some "Abcdef1!")
      (hasDraw (by decide))
    have rows : creation.after.tables.accounts = [firstCopy] := by decide
    obtain ⟨caller, made, ⟨⟩, done, isUpdated⟩ := outcome.changed (by
        rintro refusal (⟨isAnonymous⟩ | ⟨isCaller, isOther⟩ | ⟨isBroken⟩ | ⟨isCaller, isStale⟩ |
          ⟨isCaller, -, isStored, notOwn, -⟩)
        · cases isAnonymous
        · cases isCaller
          exact isOther rfl
        · exact keeps (by rintro _ ⟨⟩; decide) _ isBroken
        · cases isCaller
          exact isStale firstCopy (by rw [rows]; exact .head _) rfl rfl
        · cases isCaller
          rw [rows] at isStored
          exact notOwn (List.mem_singleton.1 isStored ▸ rfl))
    have isNew : Service.sameUpToCase "new@example.com" firstCopy.email = false := by
      rw [← Bool.not_eq_true, Service.sameUpToCase_iff, ← String.toList_inj, String.toList_map,
        String.toList_map]
      decide
    obtain ⟨-, draw, rest, -, isToken, -⟩ := isUpdated.moved _ rfl isNew
    exact ⟨made, done, isUpdated.hasAddress, isUpdated.isNext, isToken ▸ rfl⟩

end Gatehouse
