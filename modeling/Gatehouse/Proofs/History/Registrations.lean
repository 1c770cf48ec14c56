import Gatehouse.Proofs.History.AccountChanges
import Gatehouse.Proofs.History.Isolation
import Gatehouse.Proofs.Http.Bearers
import Gatehouse.Proofs.Password.Scheme
import Gatehouse.Proofs.Validation.AddressGrammar
import Gatehouse.Proofs.Validation.Reports
import Gatehouse.Proofs.Workflow.Overlooking

/-!
# When a registration succeeds

A registration is refused for the fields that break their rules; if none does, for a name or an
address that somebody has; and otherwise it succeeds, as long as the random source gives a salt and
a token (`Run.registers_as_it_should`).  Names are compared as texts and addresses up to case.

What it leaves behind is enough for the next step: the new account holds the token that is handed
out and nothing else, and whoever presents the token before it expires activates the account.
-/

namespace Gatehouse

set_option autoImplicit false

/-! ## Names and addresses that are taken -/

namespace Tables

/-- Whether somebody has a name. -/
def HasName (tables : Tables) (username : String) : Prop :=
  ∃ account ∈ tables.accounts, account.username = username

/-- Whether somebody has an address, be it in another case. -/
def HasAddress (tables : Tables) (email : String) : Prop :=
  ∃ account ∈ tables.accounts, Service.sameUpToCase account.email email = true

variable {tables : Tables}

/-- The comparison of stored addresses does not tell more than case, for what is an address. -/
theorem hasAddress_iff {email : String} (isAddress : Validation.isEmail email = true) :
    tables.HasAddress email ↔
      ∃ account ∈ tables.accounts, sameAddress account.email email = true := by
  simp only [HasAddress,
    sameAddress_iff_sameUpToCase (Validation.null_notMem_of_isEmail isAddress)]

theorem takenFault?_eq_none_iff {username email : String}
    (isAddress : Validation.isEmail email = true) :
    takenFault? tables.accounts username email = none ↔
      ¬tables.HasName username ∧ ¬tables.HasAddress email := by
  rw [hasAddress_iff isAddress, takenFault?_eq_none]
  constructor
  · intro isFree
    constructor
    · rintro ⟨other, isOther, same⟩
      exact (isFree other isOther).2 same
    · rintro ⟨other, isOther, same⟩
      rw [(isFree other isOther).1] at same
      cases same
  · rintro ⟨noName, noAddress⟩ other isOther
    exact ⟨Bool.eq_false_iff.2 fun same => noAddress ⟨other, isOther, same⟩,
      fun same => noName ⟨other, isOther, same⟩⟩

/-- A fault of a name and an address is about one that is taken. -/
theorem takenFault?_eq_some {username email : String} {fault : Fault}
    (isAddress : Validation.isEmail email = true)
    (isTaken : takenFault? tables.accounts username email = some fault) :
    ∃ field message, fault = .conflict field message ∧
      ((field = "username" ∧ tables.HasName username) ∨
        (field = "email" ∧ tables.HasAddress email)) := by
  unfold takenFault? at isTaken
  split at isTaken
  next found =>
    obtain rfl := Option.some.inj isTaken
    exact ⟨_, _, rfl, .inr ⟨rfl, (hasAddress_iff isAddress).2 (List.any_eq_true.1 found)⟩⟩
  split at isTaken
  next found =>
    obtain rfl := Option.some.inj isTaken
    obtain ⟨other, isOther, same⟩ := List.any_eq_true.1 found
    exact ⟨_, _, rfl, .inl ⟨rfl, other, isOther, beq_iff_eq.1 same⟩⟩
  next => cases isTaken

/-- What is held for an account is stored. -/
theorem mem_of_holding {id : Int} {account : Account} {tokens : List TokenRow}
    {codes : List String} (holds : tables.holding id = ⟨some account, tokens, codes⟩) :
    account ∈ tables.accounts ∧ ∀ row ∈ tokens, row ∈ tables.tokens := by
  constructor
  · exact (mem_of_account?_eq_some (congrArg Holding.account? holds)).1
  · intro row isHeld
    have sameTokens : (tables.holding id).tokens = tokens := congrArg Holding.tokens holds
    exact (mem_tokens_holding.1 (sameTokens ▸ isHeld)).1

/-- If there is a draw for a token there is one before it for the salt. -/
theorem HasDraw.salt {draws : List Draw} (hasDraw : tables.HasDraw (draws.drop 1)) :
    ∃ salt, draws = salt :: draws.drop 1 := by
  obtain ⟨draw, rest, isDrawn, -⟩ := hasDraw
  cases draws with
  | nil => cases isDrawn
  | cons salt later => exact ⟨salt, rfl⟩

/-- A stored account that keeps its name and its address can be written back. -/
theorem Sound.accepts_of_kept (sound : tables.Sound) {stored changed : Account}
    (isStored : stored ∈ tables.accounts) (sameId : changed.id = stored.id)
    (sameVersion : changed.version = stored.version)
    (sameName : changed.username = stored.username) (sameEmail : changed.email = stored.email) :
    tables.Accepts changed := by
  refine ⟨⟨stored, isStored, sameId.symm, sameVersion.symm⟩, takenFault?_of_free ?_ ?_⟩
  · rintro ⟨other, isOther, notOwn, same⟩
    have isOwn : other = stored := sound.eq_of_not_distinct isOther isStored fun distinct => by
      rw [sameEmail, distinct.email] at same
      cases same
    exact notOwn (isOwn ▸ sameId.symm)
  · rintro ⟨other, isOther, notOwn, same⟩
    have isOwn : other = stored := sound.eq_of_not_distinct isOther isStored fun distinct =>
      distinct.username (same.trans sameName)
    exact notOwn (isOwn ▸ sameId.symm)

end Tables

/-! ## Steps of a registration -/

namespace Service

open Workflow (runFrom_bind_eq_ok runFrom_lift_bind_eq_ok)

variable {scheme : PasswordScheme} {moment : Moment} {database : Database}
  {username email password : String}

theorem createAccount_succeeds {progress : Progress} {now : Instant} {tables : Tables}
    (new : NewAccount) (stage : progress.At database now (some tables))
    (isFree : Tables.takenFault? tables.accounts new.username new.email = none) :
    ∃ last, (Workflow.createAccount new).runFrom progress = (.ok (tables.nextAccount now new), last) ∧
      last.At database now (some (tables.withAccount (tables.nextAccount now new))) ∧
        last.moment = progress.moment := by
  have done : (Workflow.createAccount new).runFrom progress = (.ok (tables.nextAccount now new),
      progress.used.write (tables.withAccount (tables.nextAccount now new))) := by
    rw [Workflow.runFrom_createAccount, stage.tables_eq, stage.now,
      Tables.createAccount_eq_ok.2 ⟨isFree, rfl, rfl⟩]
    rfl
  exact ⟨_, done, (stage.createAccount done).2.2, progress.used.moment_write _⟩

theorem grant_succeeds {progress : Progress} {now : Instant} {tables : Tables} {accountId : Int}
    (stage : progress.At database now (some tables))
    (hasAccount : tables.hasAccount accountId = true) (permission : Permission) :
    ∃ last, (Workflow.grant accountId [permission]).runFrom progress = (.ok (), last) ∧
      last.At database now (some (tables.granted accountId permission)) ∧
        last.moment = progress.moment := by
  obtain ⟨uses, granting⟩ := Action.runFrom_grant accountId [permission] progress
  have done : (Workflow.grant accountId [permission]).runFrom progress =
      (.ok (), ({ progress with uses := uses } : Progress).write
        (tables.granted accountId permission)) := by
    have isGranted : tables.grant accountId [permission] =
        .ok (tables.granted accountId permission) := by
      rw [Tables.grant, Tables.grantOne_eq, if_pos (.inr hasAccount)]
      rfl
    rw [granting, stage.tables_eq, isGranted]
    rfl
  exact ⟨_, done, stage.grant done, Progress.moment_write _ _⟩

/-- A registration comes to create the account with the password as it is stored. -/
theorem registering_reaches {stored : String} {salt : Draw} {later : List Draw}
    (isOpen : database.isOpen = true) (draws : moment.draws = salt :: later)
    (isHashed : scheme.hash password salt = .ok stored) :
    ∃ prepared begun, (Workflow.hashPassword scheme password).runFrom (.start moment database) =
        (.ok stored, prepared) ∧
      Workflow.begin.runFrom prepared = (.ok (), begun) ∧
      begun.At database moment.now (some database.tables) ∧ begun.moment.draws = later := by
  obtain ⟨prepared, hashed, stage, draws⟩ :=
    hashPassword_succeeds (Progress.at_start moment database) draws isHashed
  obtain ⟨begun, begins, stage, sameMoment⟩ := begin_succeeds isOpen stage
  exact ⟨prepared, begun, hashed, begins, stage, sameMoment ▸ draws⟩

/-- A registration that breaks a rule is refused with the report. -/
theorem register_of_unacceptable
    (isRefused : (Validation.registrationReport username email password).isAcceptable = false) :
    (register scheme moment database username email password).result =
      .error (.validation (Validation.registrationReport username email password)) := by
  have refused : accept (Validation.registrationReport username email password) =
      .error (.validation (Validation.registrationReport username email password)) := by
    simp [accept, isRefused]
  simp only [register, Outcome.ofWorkflow, registering, Workflow.runFrom_bind,
    Workflow.runFrom_lift, refused]

/-- A registration with a name or an address that is taken fails with that fault. -/
theorem register_of_taken {stored : String} {salt : Draw} {later : List Draw} {fault : Fault}
    (isOpen : database.isOpen = true)
    (isAccepted : (Validation.registrationReport username email password).isAcceptable = true)
    (draws : moment.draws = salt :: later) (isHashed : scheme.hash password salt = .ok stored)
    (isTaken : Tables.takenFault? database.tables.accounts username email = some fault) :
    (register scheme moment database username email password).result = .error fault := by
  obtain ⟨prepared, begun, hashed, begins, stage, -⟩ := registering_reaches isOpen draws isHashed
  have refused : (Workflow.createAccount ⟨username, email, stored⟩).runFrom begun =
      (.error fault, begun.used) := by
    simp only [Workflow.runFrom_createAccount, stage.tables_eq, Tables.createAccount, isTaken]
    rfl
  simp only [register, Outcome.ofWorkflow, registering, Workflow.runFrom_bind,
    Workflow.runFrom_lift, accept_eq_ok.2 isAccepted, hashed, begins, refused]

/-- A registration with a name and an address that are free succeeds. -/
theorem register_succeeds {stored : String} {salt : Draw} {later : List Draw}
    (isOpen : database.isOpen = true) (sound : database.tables.Sound)
    (isAccepted : (Validation.registrationReport username email password).isAcceptable = true)
    (draws : moment.draws = salt :: later) (isHashed : scheme.hash password salt = .ok stored)
    (isFree : Tables.takenFault? database.tables.accounts username email = none)
    (hasDraw : database.tables.HasDraw later) :
    ∃ made, (register scheme moment database username email password).result = .ok made := by
  obtain ⟨prepared, begun, hashed, begins, stage, draws⟩ :=
    registering_reaches isOpen draws isHashed
  obtain ⟨created, creates, stage, sameMoment⟩ :=
    createAccount_succeeds ⟨username, email, stored⟩ stage isFree
  have isNext : (database.tables.nextAccount moment.now ⟨username, email, stored⟩).id =
      database.tables.lastAccountId + 1 := rfl
  generalize database.tables.nextAccount moment.now ⟨username, email, stored⟩ = account
    at creates stage isNext
  have hasAccount : (database.tables.withAccount account).hasAccount account.id = true :=
    Tables.hasAccount_withAccount account
  obtain ⟨granted, grants, stage, sameMoment'⟩ := grant_succeeds stage hasAccount .readUser
  obtain ⟨draw, rest, isDrawn, isUnused⟩ := hasDraw
  have sameTokens : ((database.tables.withAccount account).granted account.id .readUser).tokens =
      database.tables.tokens := Tables.tokens_granted _ _
  -- an id that is given out for the first time has no tokens
  have isEmpty : ∀ row ∈ database.tables.tokens, row.accountId ≠ account.id := by
    intro row isStored owner
    obtain ⟨other, isOther, sameId⟩ := Tables.hasAccount_iff.1 (sound.owners row isStored)
    exact sound.id_ne_next isOther ((sameId.trans owner).trans isNext)
  obtain ⟨minted, mints, -⟩ := stage.mint_succeeds
    (by rw [sameMoment', sameMoment, draws, isDrawn])
    (fun row isStored => isUnused row (sameTokens ▸ isStored))
    (fun row isStored (slot : _ ∧ row.scope = Scope.activation.tag) =>
      isEmpty row (sameTokens ▸ isStored) slot.1)
    ((Tables.hasAccount_granted _ _ _).trans hasAccount)
  generalize IssuedToken.ofDraw draw moment.now account.id _ _ = token at mints
  have done : (registering scheme username email password).runFrom (.start moment database) =
      (.ok ⟨account, token⟩, minted.used.committed.queued (activationLetter account token)) := by
    refine runFrom_lift_bind_eq_ok.2 ⟨(), accept_eq_ok.2 isAccepted, ?_⟩
    refine runFrom_bind_eq_ok.2 ⟨_, _, hashed, ?_⟩
    refine runFrom_bind_eq_ok.2 ⟨_, _, begins, ?_⟩
    refine runFrom_bind_eq_ok.2 ⟨_, _, creates, ?_⟩
    refine runFrom_bind_eq_ok.2 ⟨_, _, grants, ?_⟩
    exact runFrom_bind_eq_ok.2 ⟨_, _, mints, rfl⟩
  refine ⟨⟨account, token⟩, ?_⟩
  rw [register, Outcome.ofWorkflow, done]

/-! ## Activation -/

/-- Who presents a live activation token activates the account that holds it. -/
theorem activate_succeeds {token : String} {stored : Account} (isOpen : database.isOpen = true)
    (sound : database.tables.Sound) (isLong : token.utf8ByteSize = Validation.tokenLength)
    (holds : database.tables.accountByToken? .activation (Token.digestOf token) moment.now =
      some stored) :
    (activate moment database token).result =
      .ok (Tables.advanced { stored with isActivated := true }) := by
  obtain ⟨isStored, -⟩ := Tables.mem_of_accountByToken?_eq_some holds
  obtain ⟨begun, begins, stage, sameMoment⟩ :=
    begin_succeeds isOpen (Progress.at_start moment database)
  have found : (Workflow.holder .notFound .activation token).runFrom begun =
      (.ok stored, begun.used) := by
    rw [Workflow.runFrom_holder, stage.tables_eq, stage.now, holds]
    rfl
  have accepts : database.tables.Accepts { stored with isActivated := true } :=
    sound.accepts_of_kept isStored rfl rfl rfl rfl
  obtain ⟨written, writes, stage, -⟩ := updateAccount_step_succeeds stage.used accepts
  have hasAccount : (database.tables.withChange
      { stored with isActivated := true }).hasAccount stored.id = true :=
    Tables.hasAccount_withChange.trans (Tables.hasAccount_of_mem isStored)
  obtain ⟨granted, grants, -, -⟩ := grant_succeeds stage hasAccount .writeUser
  have removed := Workflow.runFrom_removeToken stored.id .activation granted
  have done : (activating token).runFrom (.start moment database) =
      (.ok (Tables.advanced { stored with isActivated := true }),
        (granted.used.write
          (granted.tables.withoutToken stored.id .activation)).used.committed) := by
    refine runFrom_lift_bind_eq_ok.2
      ⟨(), accept_eq_ok.2 (Http.isAcceptable_tokenReport.2 isLong), ?_⟩
    refine runFrom_bind_eq_ok.2 ⟨_, _, begins, ?_⟩
    refine runFrom_bind_eq_ok.2 ⟨_, _, found, ?_⟩
    refine runFrom_bind_eq_ok.2 ⟨_, _, writes, ?_⟩
    refine runFrom_bind_eq_ok.2 ⟨_, _, grants, ?_⟩
    exact runFrom_bind_eq_ok.2 ⟨_, _, removed, rfl⟩
  rw [activate, Outcome.ofWorkflow, done]

/-! ## What a registration should lead to -/

/-- What a registration that succeeds has made, given the ids that are used and the time. -/
structure IsRegistered (used : List Int) (now : Instant) (username email password : String)
    (made : Registration) (after : Database) : Prop where
  isNext : ∀ id ∈ used, id < made.account.id
  isFirst : made.account.version = 1
  notActivated : made.account.isActivated = false
  hasName : made.account.username = username
  hasAddress : made.account.email = email
  hasPassword : PasswordScheme.argon2id.verify password made.account.passwordHash = .ok true
  /-- The account is stored as it is handed out, with one token and with the permission to read
  itself. -/
  holding : after.tables.holding made.account.id =
    ⟨some made.account, [Tables.rowOfToken made.activationToken.token], [Permission.readUser.code]⟩
  isActivation : made.activationToken.token.scope = .activation
  digest : made.activationToken.token.digest = Token.digestOf made.activationToken.plaintext
  isGood : now.milliseconds < made.activationToken.token.expiry.milliseconds
  /-- The token activates the account up to its expiry, which is stored in whole milliseconds. -/
  activates : ∀ next : Moment,
    next.now.milliseconds < made.activationToken.token.expiry.milliseconds →
      (activate next after made.activationToken.plaintext).result =
        .ok { made.account with isActivated := true, version := 2 }

/-- What a registration should lead to. -/
structure RegistersAsItShould (used : List Int) (now : Instant) (before : Tables)
    (username email password : String) (outcome : Outcome Registration) : Prop where
  unacceptable : (∃ field, Validation.BreaksRegistration username email password field) →
    ∃ report, outcome.result = .error (.validation report) ∧
      report.Lists (Validation.BreaksRegistration username email password)
  /-- The field that is reported is one whose value is taken. -/
  taken : (∀ field, ¬Validation.BreaksRegistration username email password field) →
    before.HasName username ∨ before.HasAddress email →
      ∃ field message, outcome.result = .error (.conflict field message) ∧
        ((field = "username" ∧ before.HasName username) ∨
          (field = "email" ∧ before.HasAddress email))
  free : (∀ field, ¬Validation.BreaksRegistration username email password field) →
    ¬before.HasName username → ¬before.HasAddress email →
      ∃ made, outcome.result = .ok made ∧
        IsRegistered used now username email password made outcome.database

theorem isAcceptable_registrationReport :
    (Validation.registrationReport username email password).isAcceptable = true ↔
      ∀ field, ¬Validation.BreaksRegistration username email password field := by
  rw [Validation.Report.isAcceptable_iff]
  exact forall_congr' fun field =>
    not_congr ((Validation.registrationReport_lists username email password).mem_iff field)

end Service

namespace Run

variable {past : History .argon2id} {database : Database}
  {admits : History .argon2id → Action → Prop} {moment : Moment}
  {username email password : String}

/-- No id that is used is greater than the last one that was given out. -/
theorem created_le {scheme : PasswordScheme} {past : History scheme}
    {admits : History scheme → Action → Prop} (run : Run scheme admits past database) :
    ∀ id ∈ past.created, id ≤ database.tables.lastAccountId := by
  intro id isUsed
  rw [← run.ids_eq_created.1] at isUsed
  obtain ⟨account, isStored, rfl⟩ := List.mem_map.1 isUsed
  exact run.sound.ids account isStored

/-- What a registration that succeeds has made in a run. -/
theorem isRegistered (run : Run .argon2id admits past database) {made : Service.Registration}
    (done : (Service.register .argon2id moment database username email password).result =
      .ok made) :
    Service.IsRegistered past.created moment.now username email password made
      (Service.register .argon2id moment database username email password).database := by
  have answered : (Service.perform .argon2id moment database
      (.register username email password)).result = .ok (.registration made) :=
    Service.except_map_eq_ok.2 ⟨made, done, rfl⟩
  obtain ⟨isOpen, after, effect, isAfter⟩ := Service.effect_of_perform answered
  have sameDatabase : (Service.register .argon2id moment database username email password).database =
      { database with tables := after } := isAfter
  rw [sameDatabase]
  have sound : after.Sound := effect.sound run.sound
  have change := effect.change run.sound run.permission_mem nofun rfl
  obtain ⟨holding, holds⟩ : ∃ holding, after.holding (database.tables.lastAccountId + 1) = holding :=
    ⟨_, rfl⟩
  rw [holds] at change
  cases change with
  | lookup isLookup => cases isLookup
  | @register _ _ _ passwordHash salt account token _ isHashed isNext isMade =>
      obtain ⟨draw, rfl⟩ := isMade
      have sameId : account.id = database.tables.lastAccountId + 1 := by rw [isNext]
      rw [← sameId] at holds ⊢
      obtain ⟨isStored, areStored⟩ := Tables.mem_of_holding holds
      have isKept := areStored _ (List.mem_singleton_self _)
      refine { isNext := ?isNext, hasPassword := ?hasPassword, holding := holds,
               isActivation := rfl, digest := rfl, activates := ?activates,
               isGood := moment.now.milliseconds_lt_plus_lifetime .activation,
               isFirst := ?_, notActivated := ?_, hasName := ?_, hasAddress := ?_ }
      case isNext =>
        intro id isUsed
        have bound := run.created_le id isUsed
        change id < account.id
        omega
      case hasPassword =>
        rw [isNext]
        exact PasswordScheme.argon2id_verify_of_hash isHashed
      case activates =>
        intro next isBefore
        have activated : (Service.activate next { database with tables := after }
            (Token.plaintextOf draw)).result = _ :=
          Service.activate_succeeds isOpen sound (Token.utf8ByteSize_plaintextOf draw)
            (sound.accountByToken?_eq_some.2 ⟨isStored, _, isKept, rfl, rfl, isBefore, rfl⟩)
        rw [isNext] at activated ⊢
        exact activated
      -- the rest is as the row of a new account has it
      all_goals rw [isNext]

/-- **When a registration succeeds.**  In every state that a run comes to, as long as the database
is open and the random source gives a salt and a token that is not stored: a registration is refused
for the fields that break their rules; if there are none, for a name or an address that is taken;
and otherwise it succeeds and sets up the account for its activation. -/
theorem registers_as_it_should (run : Run .argon2id admits past database)
    (isOpen : database.isOpen = true) (hasDraw : database.tables.HasDraw (moment.draws.drop 1))
    (username email password : String) :
    Service.RegistersAsItShould past.created moment.now database.tables username email password
      (Service.register .argon2id moment database username email password) := by
  obtain ⟨salt, draws⟩ := hasDraw.salt
  constructor
  case unacceptable =>
    rintro ⟨field, isBroken⟩
    have isRefused : (Validation.registrationReport username email password).isAcceptable =
        false := by
      rw [← Bool.not_eq_true, Service.isAcceptable_registrationReport]
      exact fun isKept => isKept field isBroken
    exact ⟨_, Service.register_of_unacceptable isRefused,
      Validation.registrationReport_lists username email password⟩
  case taken =>
    intro isKept isTaken
    obtain ⟨isAddress, isMet⟩ := Validation.isEmail_and_meetsPasswordPolicy isKept
    cases search : Tables.takenFault? database.tables.accounts username email with
    | none =>
        obtain ⟨noName, noAddress⟩ := (Tables.takenFault?_eq_none_iff isAddress).1 search
        exact absurd isTaken (not_or_intro noName noAddress)
    | some fault =>
        obtain ⟨field, message, rfl, isOne⟩ := Tables.takenFault?_eq_some isAddress search
        exact ⟨field, message, Service.register_of_taken isOpen
          (Service.isAcceptable_registrationReport.2 isKept) draws
          (PasswordScheme.argon2id_hash isMet salt) search, isOne⟩
  case free =>
    intro isKept noName noAddress
    obtain ⟨isAddress, isMet⟩ := Validation.isEmail_and_meetsPasswordPolicy isKept
    obtain ⟨made, done⟩ := Service.register_succeeds isOpen run.sound
      (Service.isAcceptable_registrationReport.2 isKept) draws
      (PasswordScheme.argon2id_hash isMet salt)
      ((Tables.takenFault?_eq_none_iff isAddress).2 ⟨noName, noAddress⟩) hasDraw
    exact ⟨made, done, run.isRegistered done⟩

end Run

/-- A moment with a draw to salt a password with and one to make a token from. -/
def suppliedMoment : Moment :=
  ⟨⟨0⟩, [.replicate 16 0, .replicate 16 1]⟩

/-- Where one account has been created, a registration that breaks rules is refused for them, one
with the address of the account in another case is a conflict, and one with a name and an address of
its own succeeds and can be activated. -/
theorem registrations_beside_an_account :
    (∃ report, (Service.register .argon2id suppliedMoment creation.after "al" "alice" "Abcdef1!").result
        = .error (.validation report) ∧
      "username" ∈ report.fields ∧ "email" ∈ report.fields) ∧
    (∃ message, (Service.register .argon2id suppliedMoment creation.after "bobby" "ALICE@example.com"
      "Abcdef1!").result = .error (.conflict "email" message)) ∧
    ∃ made, (Service.register .argon2id suppliedMoment creation.after "bobby" "bob@example.com"
        "Abcdef1!").result = .ok made ∧ 1 < made.account.id ∧
      ∃ activated, (Service.activate ⟨⟨1⟩, []⟩ (Service.register .argon2id suppliedMoment
        creation.after "bobby" "bob@example.com" "Abcdef1!").database
          made.activationToken.plaintext).result = .ok activated := by
  have run : Run .argon2id (fun _ _ => True) [creation] creation.after :=
    .step .start .idle _ trivial
  have rows : creation.after.tables.accounts = [firstCopy] := by decide
  have noTokens : creation.after.tables.tokens = [] := by decide
  have hasDraw : creation.after.tables.HasDraw (suppliedMoment.draws.drop 1) :=
    ⟨_, [], rfl, fun row isStored => by rw [noTokens] at isStored; cases isStored⟩
  have noName : ¬creation.after.tables.HasName "bobby" := by
    rintro ⟨account, isStored, same⟩
    rw [rows] at isStored
    obtain rfl := List.mem_singleton.1 isStored
    exact absurd same (by decide)
  have keeps {email : String} (isAddress : Validation.isEmail email = true) (field : String) :
      ¬Validation.BreaksRegistration "bobby" email "Abcdef1!" field := by
    rintro (isBroken | isBroken | isBroken)
    · exact absurd isBroken (by decide)
    · exact absurd isBroken (by simp [isAddress])
    · exact absurd isBroken (by decide)
  refine ⟨?_, ?_, ?_⟩
  · obtain ⟨report, refused, lists⟩ :=
      (run.registers_as_it_should rfl hasDraw "al" "alice" "Abcdef1!").unacceptable
        ⟨_, .username (by decide)⟩
    exact ⟨report, refused, (lists.mem_iff _).2 (.username (by decide)),
      (lists.mem_iff _).2 (.email (by decide))⟩
  · have isTaken : creation.after.tables.HasAddress "ALICE@example.com" := by
      refine ⟨firstCopy, by rw [rows]; exact .head _, ?_⟩
      rw [Service.sameUpToCase_iff, ← String.toList_inj, String.toList_map, String.toList_map]
      decide
    obtain ⟨field, message, refused, ⟨rfl, isNamed⟩ | ⟨rfl, -⟩⟩ :=
      (run.registers_as_it_should rfl hasDraw "bobby" "ALICE@example.com" "Abcdef1!").taken
        (keeps (by decide)) (.inr isTaken)
    · exact absurd isNamed noName
    · exact ⟨message, refused⟩
  · have noAddress : ¬creation.after.tables.HasAddress "bob@example.com" := by
      rintro ⟨account, isStored, same⟩
      rw [rows] at isStored
      obtain rfl := List.mem_singleton.1 isStored
      rw [Service.sameUpToCase_iff, ← String.toList_inj, String.toList_map,
        String.toList_map] at same
      exact absurd same (by decide)
    obtain ⟨made, done, isRegistered⟩ :=
      (run.registers_as_it_should rfl hasDraw "bobby" "bob@example.com" "Abcdef1!").free
        (keeps (by decide)) noName noAddress
    have isLater : (⟨1⟩ : Instant).milliseconds <
        made.activationToken.token.expiry.milliseconds := isRegistered.isGood
    exact ⟨made, done, isRegistered.isNext 1 (by decide), _,
      isRegistered.activates ⟨⟨1⟩, []⟩ isLater⟩

end Gatehouse
