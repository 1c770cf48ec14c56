import Gatehouse.Proofs.History.Addresses
import Gatehouse.Proofs.History.Storage
import Gatehouse.Proofs.History.Versions
import Gatehouse.Proofs.Workflow.Logins

/-!
# When a change of an account succeeds

A change that its caller may ask for and that keeps the rules is decided by the rows alone, as long
as the database is open and the random source gives what the change needs (`Moment.Salts`): it is
refused with the fault of writing the changed copy back (`Service.updateAccount_of_refused`), and
succeeds if the copy can be written back (`Service.updateAccount_succeeds`).
-/

namespace Gatehouse

set_option autoImplicit false

variable {scheme : PasswordScheme} {moment : Moment} {database : Database}

/-! ## Rules for a change -/

namespace Validation

theorem isAcceptable_checkPassword (report : Report) (password : String) :
    (checkPassword report password).isAcceptable =
      (report.isAcceptable && meetsPasswordPolicy password) :=
  isAcceptable_check _ _ _ _

/-- An address is not empty. -/
theorem isAcceptable_checkEmail (report : Report) (email : String) :
    (checkEmail report email).isAcceptable = (report.isAcceptable && isEmail email) := by
  rw [checkEmail, isAcceptable_check, isAcceptable_check, Bool.and_assoc]
  cases isAddress : isEmail email with
  | false => simp
  | true =>
      have isGiven : email.isEmpty = false := by
        rw [String.isEmpty_eq_false_iff]
        rintro rfl
        cases isAddress
      simp [isGiven]

end Validation

/-- Whether a change asks for something and keeps the rules for addresses and passwords. -/
structure Service.IsAcceptable (email password : Option String) : Prop where
  isGiven : email.isSome = true ∨ password.isSome = true
  email : ∀ given ∈ email, Validation.isEmail given = true
  password : ∀ given ∈ password, Validation.meetsPasswordPolicy given = true

theorem Service.isAcceptable_updateReport {email password : Option String} :
    (updateReport email password).isAcceptable = true ↔ IsAcceptable email password := by
  have start : Validation.Report.empty.isAcceptable = true := rfl
  have rules : (Validation.changeReport email password).isAcceptable = true ↔
      (∀ given ∈ email, Validation.isEmail given = true) ∧
        ∀ given ∈ password, Validation.meetsPasswordPolicy given = true := by
    cases email <;> cases password <;>
      simp [Validation.changeReport, Validation.isAcceptable_checkPassword,
        Validation.isAcceptable_checkEmail, start]
  rw [updateReport, Validation.isAcceptable_check, Bool.and_eq_true, rules, Bool.or_eq_true]
  constructor
  · rintro ⟨⟨email, password⟩, isGiven⟩
    exact ⟨isGiven, email, password⟩
  · rintro ⟨isGiven, email, password⟩
    exact ⟨⟨email, password⟩, isGiven⟩

/-! ## Random draws for a change -/

/-- Whether the password of a change, if it has one, can be salted and hashed, and which draws are
left then. -/
inductive Moment.Salts (scheme : PasswordScheme) (moment : Moment) :
    Option String → List Draw → Prop
  | unchanged : Salts scheme moment none moment.draws
  | salted {password stored : String} {salt : Draw} {later : List Draw}
      (draws : moment.draws = salt :: later) (isHashed : scheme.hash password salt = .ok stored) :
      Salts scheme moment (some password) later

/-- Whether the next of some draws makes a token that is not stored. -/
def Tables.HasDraw (tables : Tables) (draws : List Draw) : Prop :=
  ∃ draw rest, draws = draw :: rest ∧
    ∀ row ∈ tables.tokens, row.digest ≠ Token.digestOf (Token.plaintextOf draw)

namespace Service

open Workflow (runFrom_bind_eq_ok runFrom_lift_bind_eq_ok)

/-! ## Steps of a change -/

/-- A password is hashed if there is a draw to salt it with. -/
theorem hashPassword_succeeds {progress : Progress} {now : Instant} {password stored : String}
    {salt : Draw} {later : List Draw} (stage : progress.At database now none)
    (draws : progress.moment.draws = salt :: later)
    (isHashed : scheme.hash password salt = .ok stored) :
    ∃ last, (Workflow.hashPassword scheme password).runFrom progress = (.ok stored, last) ∧
      last.At database now none ∧ last.moment.draws = later := by
  have hashed : hashPassword scheme progress.moment password =
      .ok (stored, { progress.moment with draws := later }) := by
    simp only [hashPassword, Moment.drawSalt, draws, bind, Except.bind, isHashed]
  have done : (Workflow.hashPassword scheme password).runFrom progress =
      (.ok stored, { progress with moment := { progress.moment with draws := later } }) := by
    rw [Workflow.runFrom_hashPassword, hashed]
  exact ⟨_, done, (stage.hashPassword done).2, rfl⟩

theorem withPassword_succeeds {progress : Progress} {now : Instant} {password : Option String}
    {later : List Draw} (stage : progress.At database now none)
    (salts : progress.moment.Salts scheme password later) (former : Account) :
    ∃ changed last, (withPassword scheme former password).runFrom progress = (.ok changed, last) ∧
      SetsPassword scheme former changed password ∧ last.At database now none ∧
        last.moment.draws = later := by
  cases salts with
  | unchanged => exact ⟨former, progress, rfl, rfl, stage, rfl⟩
  | @salted password stored salt later draws isHashed =>
      obtain ⟨last, hashed, stage, draws⟩ := hashPassword_succeeds stage draws isHashed
      have done : (withPassword scheme former (some password)).runFrom progress =
          (.ok { former with passwordHash := stored }, last) := by
        simp only [withPassword, Workflow.runFrom_bind, hashed, Workflow.runFrom_pure]
      exact ⟨_, last, done, ⟨salt, stored, isHashed, rfl⟩, stage, draws⟩

theorem begin_succeeds {progress : Progress} {now : Instant} (isOpen : database.isOpen = true)
    (stage : progress.At database now none) :
    ∃ last, Workflow.begin.runFrom progress = (.ok (), last) ∧
      last.At database now (some database.tables) ∧ last.moment = progress.moment := by
  have begun : Workflow.begin.runFrom progress =
      (.ok (), { progress.used with work := some database.tables }) := by
    rw [Workflow.runFrom_begin, stage.database, Database.connect_eq_ok.2 ⟨isOpen, rfl⟩]
  exact ⟨_, begun, (stage.begin begun).2, rfl⟩

theorem updateAccount_step_succeeds {progress : Progress} {now : Instant} {tables : Tables}
    {changed : Account} (stage : progress.At database now (some tables))
    (accepts : tables.Accepts changed) :
    ∃ last, (Workflow.updateAccount changed).runFrom progress =
        (.ok (Tables.advanced changed), last) ∧
      last.At database now (some (tables.withChange changed)) ∧
        last.moment = progress.moment := by
  have done : (Workflow.updateAccount changed).runFrom progress =
      (.ok (Tables.advanced changed), progress.used.write (tables.withChange changed)) := by
    rw [Workflow.runFrom_updateAccount, stage.tables_eq,
      Tables.updateAccount_eq_ok.2 ⟨accepts, rfl, rfl⟩]
    rfl
  exact ⟨_, done, (stage.updateAccount done).2.2, progress.used.moment_write _⟩

/-- An address that is not new needs no draw, and for one that is new a draw is enough: the place
for the token has been cleared. -/
theorem renewingActivation_succeeds {progress : Progress} {now : Instant} {tables : Tables}
    {accountId : Int} {isNew : Bool} (stage : progress.At database now (some tables))
    (hasAccount : tables.hasAccount accountId = true)
    (hasDraw : isNew = true → tables.HasDraw progress.moment.draws) :
    ∃ token last, (renewingActivation accountId isNew).runFrom progress = (.ok token, last) ∧
      (isNew = true → ∃ draw rest, progress.moment.draws = draw :: rest ∧
        token = some (.ofDraw draw now accountId Scope.activation.lifetime .activation)) := by
  cases isNew with
  | false => exact ⟨none, progress, rfl, nofun⟩
  | true =>
      obtain ⟨draw, rest, draws, isUnused⟩ := hasDraw rfl
      have removed := Workflow.runFrom_removeToken accountId .activation progress
      have stage := stage.removeToken removed
      obtain ⟨last, minted, -⟩ := stage.mint_succeeds
        (by rw [Progress.moment_write, Progress.moment_used, draws])
        (fun row isKept => isUnused row (Tables.mem_withoutToken.1 isKept).1)
        (fun row isKept => (Tables.mem_withoutToken.1 isKept).2) hasAccount
      exact ⟨_, last, runFrom_bind_eq_ok.2
        ⟨_, _, removed, runFrom_bind_eq_ok.2 ⟨_, _, minted, rfl⟩⟩, fun _ => ⟨draw, rest, draws, rfl⟩⟩

theorem sendingActivation_succeeds (account : Account) (token : Option IssuedToken)
    (progress : Progress) :
    ∃ last, (sendingActivation account token).runFrom progress = (.ok (), last) := by
  cases token with
  | none => exact ⟨progress, rfl⟩
  | some token => exact ⟨_, rfl⟩

/-! ## Changes -/

variable {caller : Account} {email password : Option String} {later : List Draw}

/-- The changed copy that a change comes to write back. -/
theorem changingAccount_reaches (isOpen : database.isOpen = true)
    (salts : moment.Salts scheme password later) (caller : Account) (email : Option String) :
    ∃ changed prepared begun, (withPassword scheme (withAddress caller email) password).runFrom
        (.start moment database) = (.ok changed, prepared) ∧
      Workflow.begin.runFrom prepared = (.ok (), begun) ∧
      SetsPassword scheme (withAddress caller email) changed password ∧
      begun.At database moment.now (some database.tables) ∧ begun.moment.draws = later := by
  obtain ⟨changed, prepared, set, isSet, stage, draws⟩ :=
    withPassword_succeeds (Progress.at_start moment database) salts (withAddress caller email)
  obtain ⟨begun, begins, stage, sameMoment⟩ := begin_succeeds isOpen stage
  exact ⟨changed, prepared, begun, set, begins, isSet, stage, sameMoment ▸ draws⟩

/-- A caller may only ask for a change of the account with the caller's own name. -/
theorem updateAccount_of_not_owner {identity : Identity} {username : String} {fault : Fault}
    (isRefused : identity.owner username = .error fault) :
    (updateAccount scheme moment database identity username email password).result =
      .error fault := by
  simp only [updateAccount, Outcome.ofWorkflow, changingAccount, Workflow.runFrom_bind,
    Workflow.runFrom_lift, isRefused]

/-- A change that breaks the rules is refused before anything else about it is looked at. -/
theorem updateAccount_of_unacceptable
    (isRefused : (updateReport email password).isAcceptable = false) :
    (updateAccount scheme moment database (.known caller) caller.username email password).result =
      .error (.validation (updateReport email password)) := by
  have isOwner : (Identity.known caller).owner caller.username = .ok caller :=
    Identity.owner_eq_ok.2 ⟨rfl, rfl⟩
  have refused : accept (updateReport email password) =
      .error (.validation (updateReport email password)) := by
    simp [accept, isRefused]
  simp only [updateAccount, Outcome.ofWorkflow, changingAccount, Workflow.runFrom_bind,
    Workflow.runFrom_lift, isOwner, refused]

/-- A change fails with the fault of writing the changed copy back. -/
theorem updateAccount_of_refused {fault : Fault} (isOpen : database.isOpen = true)
    (isAccepted : (updateReport email password).isAcceptable = true)
    (salts : moment.Salts scheme password later)
    (refused : ∀ changed, SetsPassword scheme (withAddress caller email) changed password →
      database.tables.updateAccount changed = .error fault) :
    (updateAccount scheme moment database (.known caller) caller.username email password).result =
      .error fault := by
  have isOwner : (Identity.known caller).owner caller.username = .ok caller :=
    Identity.owner_eq_ok.2 ⟨rfl, rfl⟩
  obtain ⟨changed, prepared, begun, set, begins, isSet, stage, -⟩ :=
    changingAccount_reaches isOpen salts caller email
  have unwritten : (Workflow.updateAccount changed).runFrom begun = (.error fault, begun.used) := by
    rw [Workflow.runFrom_updateAccount, stage.tables_eq, refused changed isSet]
    rfl
  simp only [updateAccount, Outcome.ofWorkflow, changingAccount, Workflow.runFrom_bind,
    Workflow.runFrom_lift, isOwner, accept_eq_ok.2 isAccepted, set, begins, unwritten]

/-- A change succeeds if the changed copy can be written back and there is a draw for the token
that a new address needs, and then the token is made from that draw. -/
theorem updateAccount_makes (isOpen : database.isOpen = true)
    (isAccepted : (updateReport email password).isAcceptable = true)
    (salts : moment.Salts scheme password later)
    (accepts : ∀ changed, SetsPassword scheme (withAddress caller email) changed password →
      database.tables.Accepts changed)
    (hasDraw : isNewAddress caller email = true → database.tables.HasDraw later) :
    ∃ made, (updateAccount scheme moment database (.known caller) caller.username email
      password).result = .ok made ∧
      (isNewAddress caller email = true → ∃ draw rest, later = draw :: rest ∧
        made.activationToken =
          some (.ofDraw draw moment.now caller.id Scope.activation.lifetime .activation)) := by
  obtain ⟨changed, prepared, begun, set, begins, isSet, stage, draws⟩ :=
    changingAccount_reaches isOpen salts caller email
  have accepts := accepts changed isSet
  obtain ⟨written, writes, stage, sameMoment⟩ := updateAccount_step_succeeds stage accepts
  have hasAccount : (database.tables.withChange changed).hasAccount
      (Tables.advanced changed).id = true := by
    rw [Tables.hasAccount_withChange, Tables.hasAccount_iff]
    obtain ⟨stored, isStored, sameId, -⟩ := accepts.source
    exact ⟨stored, isStored, sameId⟩
  have isDrawn : written.moment.draws = later := by rw [sameMoment, draws]
  obtain ⟨token, renewed, renews, isMade⟩ :=
    renewingActivation_succeeds stage hasAccount fun isNew => isDrawn.symm ▸ hasDraw isNew
  obtain ⟨last, sent⟩ := sendingActivation_succeeds (Tables.advanced changed) token
    renewed.used.committed
  have done : (changingAccount scheme (.known caller) caller.username email password).runFrom
      (.start moment database) = (.ok ⟨Tables.advanced changed, token⟩, last) := by
    refine runFrom_lift_bind_eq_ok.2 ⟨caller, Identity.owner_eq_ok.2 ⟨rfl, rfl⟩, ?_⟩
    refine runFrom_lift_bind_eq_ok.2 ⟨(), accept_eq_ok.2 isAccepted, ?_⟩
    refine runFrom_bind_eq_ok.2 ⟨_, _, set, ?_⟩
    refine runFrom_bind_eq_ok.2 ⟨_, _, begins, ?_⟩
    refine runFrom_bind_eq_ok.2 ⟨_, _, writes, ?_⟩
    refine runFrom_bind_eq_ok.2 ⟨_, _, renews, ?_⟩
    refine runFrom_bind_eq_ok.2 ⟨(), _, rfl, ?_⟩
    exact runFrom_bind_eq_ok.2 ⟨_, _, sent, rfl⟩
  refine ⟨⟨Tables.advanced changed, token⟩, ?_, ?_⟩
  · rw [updateAccount, Outcome.ofWorkflow, done]
  · have sameId : (Tables.advanced changed).id = caller.id := isSet.id_eq
    rwa [isDrawn, sameId] at isMade

theorem updateAccount_succeeds (isOpen : database.isOpen = true)
    (isAccepted : (updateReport email password).isAcceptable = true)
    (salts : moment.Salts scheme password later)
    (accepts : ∀ changed, SetsPassword scheme (withAddress caller email) changed password →
      database.tables.Accepts changed)
    (hasDraw : isNewAddress caller email = true → database.tables.HasDraw later) :
    ∃ made, (updateAccount scheme moment database (.known caller) caller.username email
      password).result = .ok made :=
  (updateAccount_makes isOpen isAccepted salts accepts hasDraw).imp fun _ => And.left

/-! ## Changes of the stored account -/

/-- A change made from the stored account is refused if somebody else has the address that it asks
for. -/
theorem updateAccount_of_taken (isOpen : database.isOpen = true)
    (isAccepted : (updateReport email password).isAcceptable = true)
    (salts : moment.Salts scheme password later) (isStored : caller ∈ database.tables.accounts)
    (isTaken : database.tables.AddressIsTaken (withAddress caller email)) :
    (updateAccount scheme moment database (.known caller) caller.username email password).result =
      .error Tables.emailTaken := by
  refine updateAccount_of_refused isOpen isAccepted salts fun changed isSet => ?_
  have isTaken : database.tables.AddressIsTaken changed := by
    rw [isSet.eq]
    exact isTaken
  rw [Tables.updateAccount, Tables.writeBack_of_taken isStored isSet.id_eq.symm
    isSet.version_eq.symm (Tables.takenFault?_of_addressIsTaken isTaken)]

/-- A change made from the stored account can be written back if the address that it asks for is
free. -/
theorem accepts_of_stored (sound : database.tables.Sound)
    (isStored : caller ∈ database.tables.accounts)
    (isFree : ¬database.tables.AddressIsTaken (withAddress caller email)) {changed : Account}
    (isSet : SetsPassword scheme (withAddress caller email) changed password) :
    database.tables.Accepts changed := by
  refine ⟨⟨caller, isStored, isSet.id_eq.symm, isSet.version_eq.symm⟩, ?_⟩
  refine Tables.takenFault?_of_free ?_ ?_
  · rw [isSet.eq]
    exact isFree
  · rintro ⟨other, isOther, notOwn, sameName⟩
    have sameName : other.username = caller.username := by
      rw [sameName, isSet.eq]
      rfl
    have same := sound.eq_of_not_distinct isOther isStored fun distinct =>
      distinct.username sameName
    exact notOwn (same ▸ isSet.id_eq.symm)

/-- An account as a change of it that has succeeded leaves it. -/
structure IsChangeOf (made caller : Account) (address : Option String) : Prop where
  id : made.id = caller.id
  username : made.username = caller.username
  email : made.email = address.getD caller.email
  isActivated : made.isActivated = (caller.isActivated && !isNewAddress caller address)

theorem SetsPassword.isChangeOf {changed : Account}
    (isSet : SetsPassword scheme (withAddress caller email) changed password) :
    IsChangeOf (Tables.advanced changed) caller email := by
  rw [isSet.eq]
  exact ⟨rfl, rfl, rfl, rfl⟩

/-- What a change of the stored account replies is stored. -/
theorem updateAccount_stores (sound : database.tables.Sound)
    (isStored : caller ∈ database.tables.accounts) {made : AccountUpdate}
    (done : (updateAccount scheme moment database (.known caller) caller.username email
      password).result = .ok made) :
    IsChangeOf made.account caller email ∧
      (updateAccount scheme moment database (.known caller) caller.username email
        password).database.tables.account? caller.id = some made.account := by
  have answered : (perform scheme moment database
      (.updateAccount (.known caller) caller.username email password)).result =
        .ok (.update made) := except_map_eq_ok.2 ⟨made, done, rfl⟩
  obtain ⟨-, after, effect, isAfter⟩ := effect_of_perform answered
  have sameDatabase : (updateAccount scheme moment database (.known caller) caller.username email
      password).database = { database with tables := after } := isAfter
  rw [sameDatabase]
  have written {changed : Account}
      (isSet : SetsPassword scheme (withAddress caller email) changed password)
      (accepts : database.tables.Accepts changed)
      (isWritten : after.accounts = (database.tables.withChange changed).accounts) :
      after.account? caller.id = some (Tables.advanced changed) := by
    rw [← isSet.id_eq]
    exact sound.account?_withChange accepts
      ⟨caller, isStored, isSet.id_eq.symm, isSet.createdAt_eq.symm⟩ isWritten
  generalize (perform scheme moment database
    (.updateAccount (.known caller) caller.username email password)).letters = letters at effect
  cases effect with
  | updateInPlace _ _ isSet accepts => exact ⟨isSet.isChangeOf, written isSet accepts rfl⟩
  | updateAddress _ _ isSet accepts _ => exact ⟨isSet.isChangeOf, written isSet accepts rfl⟩

end Service

end Gatehouse
