import Gatehouse.Proofs.Workflow.Stages
import Gatehouse.Service.Call

/-!
# What calls that succeed lead to

`Service.Effect` says, call by call, what must hold for a call to succeed, what it replies, which
letters it queues and what the tables are after it.  It is read off the steps of the workflows
(`Service.effect_of_perform`), so that what is proved of calls later does not go through the steps
again.
-/

namespace Gatehouse

set_option autoImplicit false

/-- The tables once an account has a new session in place of the one before. -/
def Tables.withSession (tables : Tables) (accountId : Int) (session : Service.Session) : Tables :=
  (((tables.withoutToken accountId .refresh).withoutToken accountId .access).withToken
    session.access).withToken session.refresh

namespace Service

/-- Whether a session has been begun for an account in place of the one before. -/
structure Renews (now : Instant) (tables : Tables) (accountId : Int) (session : Session) :
    Prop where
  access : ((tables.withoutToken accountId .refresh).withoutToken accountId .access).Mints now
    accountId .access session.access
  refresh : (((tables.withoutToken accountId .refresh).withoutToken accountId .access).withToken
    session.access).Mints now accountId .refresh session.refresh

/-- Whether an account has been given the password of a change, if the change has one. -/
def SetsPassword (scheme : PasswordScheme) (former changed : Account) : Option String → Prop
  | none => changed = former
  | some password =>
      ∃ salt passwordHash, scheme.hash password salt = .ok passwordHash ∧
        changed = { former with passwordHash := passwordHash }

/-- What a call that succeeds at a time and on tables replies, which letters it queues and what the
tables are after it. -/
inductive Effect (scheme : PasswordScheme) (now : Instant) (tables : Tables) :
    Call → Reply → List Mail.Letter → Tables → Prop
  | register {username email password passwordHash : String} {salt : Draw} {account : Account}
      {token : IssuedToken}
      (isAccepted : (Validation.registrationReport username email password).isAcceptable = true)
      (isHashed : scheme.hash password salt = .ok passwordHash)
      (isFree : Tables.takenFault? tables.accounts username email = none)
      (isNext : account = tables.nextAccount now ⟨username, email, passwordHash⟩)
      (mints : ((tables.withAccount account).granted account.id .readUser).Mints now account.id
        .activation token) :
      Effect scheme now tables (.register username email password) (.registration ⟨account, token⟩)
        [activationLetter account token]
        (((tables.withAccount account).granted account.id .readUser).withToken token)
  | activate {token : String} {stored : Account}
      (isAccepted : (Validation.tokenReport token).isAcceptable = true)
      (holds : tables.accountByToken? .activation (Token.digestOf token) now = some stored)
      (accepts : tables.Accepts { stored with isActivated := true }) :
      Effect scheme now tables (.activate token)
        (.account (Tables.advanced { stored with isActivated := true })) []
        (((tables.withChange { stored with isActivated := true }).granted stored.id
          .writeUser).withoutToken stored.id .activation)
  | login {username password : String} {stored : Account} {session : Session}
      (isAccepted : (Validation.loginReport username password).isAcceptable = true)
      (isNamed : tables.accountNamed? username = some stored)
      (isMatch : passwordMatches scheme stored password = true)
      (renews : Renews now tables stored.id session) :
      Effect scheme now tables (.login username password) (.session session) []
        (tables.withSession stored.id session)
  | refresh {token : String} {stored : Account} {session : Session}
      (isAccepted : (Validation.tokenReport token).isAcceptable = true)
      (holds : tables.accountByToken? .refresh (Token.digestOf token) now = some stored)
      (renews : Renews now tables stored.id session) :
      Effect scheme now tables (.refresh token) (.session session) []
        (tables.withSession stored.id session)
  | logout {caller : Account} :
      Effect scheme now tables (.logout (.known caller)) .done []
        ((tables.withoutToken caller.id .access).withoutToken caller.id .refresh)
  | requestPasswordReset {email : String} {stored : Account} {token : IssuedToken}
      (isAccepted : (Validation.emailReport email).isAcceptable = true)
      (isAt : tables.accountAt? email = some stored)
      (mints : (tables.withoutToken stored.id .passwordReset).Mints now stored.id .passwordReset
        token) :
      Effect scheme now tables (.requestPasswordReset email) (.token token)
        [resetLetter stored token] ((tables.withoutToken stored.id .passwordReset).withToken token)
  | updatePassword {token password passwordHash : String} {salt : Draw} {stored : Account}
      (isAccepted :
        (Validation.checkToken (Validation.passwordReport password) token).isAcceptable = true)
      (isHashed : scheme.hash password salt = .ok passwordHash)
      (holds : tables.accountByToken? .passwordReset (Token.digestOf token) now = some stored)
      (accepts : tables.Accepts { stored with passwordHash := passwordHash }) :
      Effect scheme now tables (.updatePassword token password)
        (.account (Tables.advanced { stored with passwordHash := passwordHash })) []
        ((tables.withChange { stored with passwordHash := passwordHash }).withoutToken stored.id
          .passwordReset)
  /-- A change that leaves the address as it is, up to case. -/
  | updateInPlace {caller changed : Account} {email password : Option String}
      (isAccepted : (updateReport email password).isAcceptable = true)
      (isSame : isNewAddress caller email = false)
      (isSet : SetsPassword scheme (withAddress caller email) changed password)
      (accepts : tables.Accepts changed) :
      Effect scheme now tables (.updateAccount (.known caller) caller.username email password)
        (.update ⟨Tables.advanced changed, none⟩) [] (tables.withChange changed)
  /-- A change to an address that must be confirmed anew. -/
  | updateAddress {caller changed : Account} {email password : Option String}
      {token : IssuedToken}
      (isAccepted : (updateReport email password).isAcceptable = true)
      (isNew : isNewAddress caller email = true)
      (isSet : SetsPassword scheme (withAddress caller email) changed password)
      (accepts : tables.Accepts changed)
      (mints : ((tables.withChange changed).withoutToken changed.id .activation).Mints now
        changed.id .activation token) :
      Effect scheme now tables (.updateAccount (.known caller) caller.username email password)
        (.update ⟨Tables.advanced changed, some token⟩)
        [activationLetter (Tables.advanced changed) token]
        (((tables.withChange changed).withoutToken changed.id .activation).withToken token)
  | getAccount {caller stored : Account} (isStored : tables.account? caller.id = some stored) :
      Effect scheme now tables (.getAccount (.known caller) caller.username) (.account stored) []
        tables
  | authenticate {token : String} {stored : Account}
      (isAccepted : (Validation.tokenReport token).isAcceptable = true)
      (holds : tables.accountByToken? .access (Token.digestOf token) now = some stored) :
      Effect scheme now tables (.authenticate token) (.account stored) [] tables
  | requirePermissions {caller : Account} {required : List Permission}
      (isActivated : caller.isActivated = true)
      (holds : required.all (tables.permissionsOf caller.id).includes = true) :
      Effect scheme now tables (.requirePermissions (.known caller) required) (.account caller) []
        tables
  | sessionExpiry {caller : Account} {token : Option Token}
      (isRead : tables.token? caller.id .access = .ok token) :
      Effect scheme now tables (.sessionExpiry (.known caller))
        (.expiry (token.map Token.expiry)) [] tables

/-! ## Workflows that succeed -/

/-- Whether a call that began on an open database has come to an end with what it leads to. -/
structure Ends (scheme : PasswordScheme) (now : Instant) (database : Database) (call : Call)
    (reply : Reply) (last : Progress) : Prop where
  isOpen : database.isOpen = true
  effect : ∃ letters after, Effect scheme now database.tables call reply letters after ∧
    last.letters = letters ∧ last.database = { database with tables := after }

variable {scheme : PasswordScheme} {moment : Moment} {database : Database} {last : Progress}

open Workflow (runFrom_bind_eq_ok runFrom_lift_bind_eq_ok)

theorem registering_ends {username email password : String} {made : Registration}
    (done : (registering scheme username email password).runFrom (.start moment database) =
      (.ok made, last)) :
    Ends scheme moment.now database (.register username email password) (.registration made)
      last := by
  have stage := Progress.at_start moment database
  obtain ⟨_, accepted, done⟩ := runFrom_lift_bind_eq_ok.1 done
  obtain ⟨passwordHash, _, hashed, done⟩ := runFrom_bind_eq_ok.1 done
  obtain ⟨⟨salt, isHashed⟩, stage⟩ := stage.hashPassword hashed
  obtain ⟨_, _, begun, done⟩ := runFrom_bind_eq_ok.1 done
  obtain ⟨isOpen, stage⟩ := stage.begin begun
  obtain ⟨account, _, created, done⟩ := runFrom_bind_eq_ok.1 done
  obtain ⟨isFree, isNext, stage⟩ := stage.createAccount created
  obtain ⟨_, _, granted, done⟩ := runFrom_bind_eq_ok.1 done
  have stage := stage.grant granted
  obtain ⟨token, _, minted, done⟩ := runFrom_bind_eq_ok.1 done
  obtain ⟨mints, stage⟩ := stage.mint minted
  have stage := stage.commit
  cases done
  refine ⟨isOpen, _, _, ?_, stage.queued _, stage.database⟩
  exact .register (accept_eq_ok.1 accepted) isHashed isFree isNext mints

theorem activating_ends {token : String} {account : Account}
    (done : (activating token).runFrom (.start moment database) = (.ok account, last)) :
    Ends scheme moment.now database (.activate token) (.account account) last := by
  have stage := Progress.at_start moment database
  obtain ⟨_, accepted, done⟩ := runFrom_lift_bind_eq_ok.1 done
  obtain ⟨_, _, begun, done⟩ := runFrom_bind_eq_ok.1 done
  obtain ⟨isOpen, stage⟩ := stage.begin begun
  obtain ⟨stored, _, found, done⟩ := runFrom_bind_eq_ok.1 done
  obtain ⟨holds, stage⟩ := stage.holder found
  obtain ⟨written, _, updated, done⟩ := runFrom_bind_eq_ok.1 done
  obtain ⟨accepts, rfl, stage⟩ := stage.updateAccount updated
  obtain ⟨_, _, granted, done⟩ := runFrom_bind_eq_ok.1 done
  have stage := stage.grant granted
  obtain ⟨_, _, removed, done⟩ := runFrom_bind_eq_ok.1 done
  have stage := (stage.removeToken removed).commit
  cases done
  refine ⟨isOpen, _, _, ?_, stage.letters, stage.database⟩
  exact .activate (accept_eq_ok.1 accepted) holds accepts

theorem renewingSession_step {progress : Progress} {now : Instant} {tables : Tables}
    {accountId : Int} {session : Session} (stage : progress.At database now (some tables))
    (done : (renewingSession accountId).runFrom progress = (.ok session, last)) :
    Renews now tables accountId session ∧
      last.At database now (some (tables.withSession accountId session)) := by
  obtain ⟨_, _, removed, done⟩ := runFrom_bind_eq_ok.1 done
  have stage := stage.removeToken removed
  obtain ⟨_, _, removed, done⟩ := runFrom_bind_eq_ok.1 done
  have stage := stage.removeToken removed
  obtain ⟨access, _, minted, done⟩ := runFrom_bind_eq_ok.1 done
  obtain ⟨isAccess, stage⟩ := stage.mint minted
  obtain ⟨refresh, _, minted, done⟩ := runFrom_bind_eq_ok.1 done
  obtain ⟨isRefresh, stage⟩ := stage.mint minted
  cases done
  exact ⟨⟨isAccess, isRefresh⟩, stage⟩

theorem loggingIn_ends {username password : String} {session : Session}
    (done : (loggingIn scheme username password).runFrom (.start moment database) =
      (.ok session, last)) :
    Ends scheme moment.now database (.login username password) (.session session) last := by
  have stage := Progress.at_start moment database
  obtain ⟨_, accepted, done⟩ := runFrom_lift_bind_eq_ok.1 done
  obtain ⟨_, _, connected, done⟩ := runFrom_bind_eq_ok.1 done
  obtain ⟨isOpen, stage⟩ := stage.connect connected
  obtain ⟨_, _, seen, done⟩ := runFrom_bind_eq_ok.1 done
  obtain ⟨rfl, stage⟩ := stage.look seen
  obtain ⟨stored, isFound, done⟩ := runFrom_lift_bind_eq_ok.1 done
  split at done
  next isMatch =>
    obtain ⟨_, _, begun, done⟩ := runFrom_bind_eq_ok.1 done
    obtain ⟨-, stage⟩ := stage.begin begun
    obtain ⟨_, _, renewed, done⟩ := runFrom_bind_eq_ok.1 done
    obtain ⟨renews, stage⟩ := renewingSession_step stage renewed
    have stage := stage.commit
    cases done
    refine ⟨isOpen, _, _, ?_, stage.letters, stage.database⟩
    exact .login (accept_eq_ok.1 accepted) (found_eq_ok.1 isFound) isMatch renews
  next => cases done

theorem refreshing_ends {token : String} {session : Session}
    (done : (refreshing token).runFrom (.start moment database) = (.ok session, last)) :
    Ends scheme moment.now database (.refresh token) (.session session) last := by
  have stage := Progress.at_start moment database
  obtain ⟨_, accepted, done⟩ := runFrom_lift_bind_eq_ok.1 done
  obtain ⟨_, _, begun, done⟩ := runFrom_bind_eq_ok.1 done
  obtain ⟨isOpen, stage⟩ := stage.begin begun
  obtain ⟨stored, _, found, done⟩ := runFrom_bind_eq_ok.1 done
  obtain ⟨holds, stage⟩ := stage.holder found
  obtain ⟨_, _, renewed, done⟩ := runFrom_bind_eq_ok.1 done
  obtain ⟨renews, stage⟩ := renewingSession_step stage renewed
  have stage := stage.commit
  cases done
  refine ⟨isOpen, _, _, ?_, stage.letters, stage.database⟩
  exact .refresh (accept_eq_ok.1 accepted) holds renews

theorem loggingOut_ends {identity : Identity} {now : Instant}
    (done : (loggingOut identity).runFrom (.start moment database) = (.ok (), last)) :
    Ends scheme now database (.logout identity) .done last := by
  have stage := Progress.at_start moment database
  obtain ⟨caller, isRequired, done⟩ := runFrom_lift_bind_eq_ok.1 done
  obtain ⟨_, _, begun, done⟩ := runFrom_bind_eq_ok.1 done
  obtain ⟨isOpen, stage⟩ := stage.begin begun
  obtain ⟨_, _, removed, done⟩ := runFrom_bind_eq_ok.1 done
  have stage := stage.removeToken removed
  obtain ⟨_, _, removed, done⟩ := runFrom_bind_eq_ok.1 done
  have stage := (stage.removeToken removed).commit
  cases done
  rw [Identity.require_eq_ok.1 isRequired]
  exact ⟨isOpen, _, _, .logout, stage.letters, stage.database⟩

theorem requestingReset_ends {email : String} {token : IssuedToken}
    (done : (requestingReset email).runFrom (.start moment database) = (.ok token, last)) :
    Ends scheme moment.now database (.requestPasswordReset email) (.token token) last := by
  have stage := Progress.at_start moment database
  obtain ⟨_, accepted, done⟩ := runFrom_lift_bind_eq_ok.1 done
  obtain ⟨_, _, connected, done⟩ := runFrom_bind_eq_ok.1 done
  obtain ⟨isOpen, stage⟩ := stage.connect connected
  obtain ⟨_, _, seen, done⟩ := runFrom_bind_eq_ok.1 done
  obtain ⟨rfl, stage⟩ := stage.look seen
  obtain ⟨stored, isFound, done⟩ := runFrom_lift_bind_eq_ok.1 done
  obtain ⟨_, _, begun, done⟩ := runFrom_bind_eq_ok.1 done
  obtain ⟨-, stage⟩ := stage.begin begun
  obtain ⟨_, _, removed, done⟩ := runFrom_bind_eq_ok.1 done
  have stage := stage.removeToken removed
  obtain ⟨_, _, minted, done⟩ := runFrom_bind_eq_ok.1 done
  obtain ⟨mints, stage⟩ := stage.mint minted
  have stage := stage.commit
  cases done
  refine ⟨isOpen, _, _, ?_, stage.queued _, stage.database⟩
  exact .requestPasswordReset (accept_eq_ok.1 accepted) (found_eq_ok.1 isFound) mints

/-- The account that holds the token before the password is hashed is the one that holds it in the
transaction: nothing has been committed in between. -/
theorem settingPassword_ends {token password : String} {account : Account}
    (done : (settingPassword scheme token password).runFrom (.start moment database) =
      (.ok account, last)) :
    Ends scheme moment.now database (.updatePassword token password) (.account account) last := by
  have stage := Progress.at_start moment database
  obtain ⟨_, accepted, done⟩ := runFrom_lift_bind_eq_ok.1 done
  obtain ⟨_, _, connected, done⟩ := runFrom_bind_eq_ok.1 done
  obtain ⟨isOpen, stage⟩ := stage.connect connected
  obtain ⟨_, _, found, done⟩ := runFrom_bind_eq_ok.1 done
  obtain ⟨-, stage⟩ := stage.holder found
  obtain ⟨passwordHash, _, hashed, done⟩ := runFrom_bind_eq_ok.1 done
  obtain ⟨⟨salt, isHashed⟩, stage⟩ := stage.hashPassword hashed
  obtain ⟨_, _, begun, done⟩ := runFrom_bind_eq_ok.1 done
  obtain ⟨-, stage⟩ := stage.begin begun
  obtain ⟨stored, _, found, done⟩ := runFrom_bind_eq_ok.1 done
  obtain ⟨holds, stage⟩ := stage.holder found
  obtain ⟨written, _, updated, done⟩ := runFrom_bind_eq_ok.1 done
  obtain ⟨accepts, rfl, stage⟩ := stage.updateAccount updated
  obtain ⟨_, _, removed, done⟩ := runFrom_bind_eq_ok.1 done
  have stage := (stage.removeToken removed).commit
  cases done
  refine ⟨isOpen, _, _, ?_, stage.letters, stage.database⟩
  exact .updatePassword (accept_eq_ok.1 accepted) isHashed holds accepts

theorem withPassword_step {progress : Progress} {now : Instant} {former changed : Account}
    {password : Option String} (stage : progress.At database now none)
    (done : (withPassword scheme former password).runFrom progress = (.ok changed, last)) :
    SetsPassword scheme former changed password ∧ last.At database now none := by
  cases password with
  | none =>
      cases done
      exact ⟨rfl, stage⟩
  | some password =>
      obtain ⟨passwordHash, _, hashed, done⟩ := runFrom_bind_eq_ok.1 done
      obtain ⟨⟨salt, isHashed⟩, stage⟩ := stage.hashPassword hashed
      cases done
      exact ⟨⟨salt, passwordHash, isHashed, rfl⟩, stage⟩

theorem changingAccount_ends {identity : Identity} {username : String}
    {email password : Option String} {made : AccountUpdate}
    (done : (changingAccount scheme identity username email password).runFrom
      (.start moment database) = (.ok made, last)) :
    Ends scheme moment.now database (.updateAccount identity username email password)
      (.update made) last := by
  have stage := Progress.at_start moment database
  obtain ⟨caller, isOwner, done⟩ := runFrom_lift_bind_eq_ok.1 done
  obtain ⟨_, accepted, done⟩ := runFrom_lift_bind_eq_ok.1 done
  obtain ⟨changed, _, set, done⟩ := runFrom_bind_eq_ok.1 done
  obtain ⟨isSet, stage⟩ := withPassword_step stage set
  obtain ⟨_, _, begun, done⟩ := runFrom_bind_eq_ok.1 done
  obtain ⟨isOpen, stage⟩ := stage.begin begun
  obtain ⟨written, _, updated, done⟩ := runFrom_bind_eq_ok.1 done
  obtain ⟨accepts, rfl, stage⟩ := stage.updateAccount updated
  obtain ⟨token, _, renewed, done⟩ := runFrom_bind_eq_ok.1 done
  obtain ⟨isKnown, isNamed⟩ := Identity.owner_eq_ok.1 isOwner
  rw [isKnown, ← isNamed]
  cases isNew : isNewAddress caller email with
  | false =>
      rw [isNew] at renewed
      cases renewed
      have stage := stage.commit
      cases done
      refine ⟨isOpen, _, _, ?_, stage.letters, stage.database⟩
      exact .updateInPlace (accept_eq_ok.1 accepted) isNew isSet accepts
  | true =>
      rw [isNew] at renewed
      obtain ⟨_, _, removed, renewed⟩ := runFrom_bind_eq_ok.1 renewed
      have stage := stage.removeToken removed
      obtain ⟨fresh, _, minted, renewed⟩ := runFrom_bind_eq_ok.1 renewed
      obtain ⟨mints, stage⟩ := stage.mint minted
      cases renewed
      have stage := stage.commit
      cases done
      refine ⟨isOpen, _, _, ?_, stage.queued _, stage.database⟩
      exact .updateAddress (accept_eq_ok.1 accepted) isNew isSet accepts mints

theorem gettingAccount_ends {identity : Identity} {username : String} {stored : Account}
    (done : (gettingAccount identity username).runFrom (.start moment database) =
      (.ok stored, last)) :
    Ends scheme moment.now database (.getAccount identity username) (.account stored) last := by
  have stage := Progress.at_start moment database
  obtain ⟨caller, isOwner, done⟩ := runFrom_lift_bind_eq_ok.1 done
  obtain ⟨_, _, connected, done⟩ := runFrom_bind_eq_ok.1 done
  obtain ⟨isOpen, stage⟩ := stage.connect connected
  obtain ⟨_, _, seen, done⟩ := runFrom_bind_eq_ok.1 done
  obtain ⟨rfl, stage⟩ := stage.look seen
  obtain ⟨isFound, rfl⟩ := Prod.mk.inj done
  obtain ⟨isKnown, isNamed⟩ := Identity.owner_eq_ok.1 isOwner
  rw [isKnown, ← isNamed]
  exact ⟨isOpen, _, _, .getAccount (found_eq_ok.1 isFound), stage.letters, stage.database⟩

theorem authenticating_ends {token : String} {stored : Account}
    (done : (authenticating token).runFrom (.start moment database) = (.ok stored, last)) :
    Ends scheme moment.now database (.authenticate token) (.account stored) last := by
  have stage := Progress.at_start moment database
  unfold authenticating at done
  split at done
  next isAccepted =>
    obtain ⟨_, _, connected, done⟩ := runFrom_bind_eq_ok.1 done
    obtain ⟨isOpen, stage⟩ := stage.connect connected
    obtain ⟨holds, stage⟩ := stage.holder done
    exact ⟨isOpen, _, _, .authenticate isAccepted holds, stage.letters, stage.database⟩
  next => cases done

theorem requiringPermissions_ends {identity : Identity} {required : List Permission}
    {account : Account}
    (done : (requiringPermissions identity required).runFrom (.start moment database) =
      (.ok account, last)) :
    Ends scheme moment.now database (.requirePermissions identity required) (.account account)
      last := by
  have stage := Progress.at_start moment database
  obtain ⟨caller, isRequired, done⟩ := runFrom_lift_bind_eq_ok.1 done
  rw [Identity.require_eq_ok.1 isRequired]
  split at done
  next isActivated =>
    obtain ⟨_, _, connected, done⟩ := runFrom_bind_eq_ok.1 done
    obtain ⟨isOpen, stage⟩ := stage.connect connected
    obtain ⟨_, _, seen, done⟩ := runFrom_bind_eq_ok.1 done
    obtain ⟨rfl, stage⟩ := stage.look seen
    split at done
    next holds =>
      cases done
      exact ⟨isOpen, _, _, .requirePermissions isActivated holds, stage.letters, stage.database⟩
    next => cases done
  next => cases done

theorem readingExpiry_ends {identity : Identity} {expiry : Option Instant}
    (done : (readingExpiry identity).runFrom (.start moment database) = (.ok expiry, last)) :
    Ends scheme moment.now database (.sessionExpiry identity) (.expiry expiry) last := by
  have stage := Progress.at_start moment database
  obtain ⟨caller, isRequired, done⟩ := runFrom_lift_bind_eq_ok.1 done
  obtain ⟨_, _, connected, done⟩ := runFrom_bind_eq_ok.1 done
  obtain ⟨isOpen, stage⟩ := stage.connect connected
  obtain ⟨_, _, seen, done⟩ := runFrom_bind_eq_ok.1 done
  obtain ⟨rfl, stage⟩ := stage.look seen
  obtain ⟨token, isRead, done⟩ := runFrom_lift_bind_eq_ok.1 done
  cases done
  rw [Identity.require_eq_ok.1 isRequired]
  exact ⟨isOpen, _, _, .sessionExpiry isRead, stage.letters, stage.database⟩

/-! ## Calls that succeed -/

/-- The outcome of a workflow that succeeds is what its last stage keeps. -/
theorem outcome_of_ends {α : Type} {now : Instant} {call : Call} {workflow : Workflow α}
    {form : α → Reply} {reply : Reply}
    (ends : ∀ value last, workflow.runFrom (.start moment database) = (.ok value, last) →
      Ends scheme now database call (form value) last)
    (done : ((Outcome.ofWorkflow moment database workflow).map form).result = .ok reply) :
    database.isOpen = true ∧ ∃ after,
      Effect scheme now database.tables call reply
        (Outcome.ofWorkflow moment database workflow).letters after ∧
      (Outcome.ofWorkflow moment database workflow).database =
        { database with tables := after } := by
  simp only [Outcome.ofWorkflow, Outcome.map] at done ⊢
  cases run : workflow.runFrom (.start moment database) with
  | mk result last =>
      rw [run] at done
      cases result with
      | error fault => cases done
      | ok value =>
          cases done
          obtain ⟨isOpen, letters, after, effect, sameLetters, sameDatabase⟩ := ends value last run
          exact ⟨isOpen, after, sameLetters ▸ effect, sameDatabase⟩

/-- **What a call that succeeds leads to**: the database was open, and the reply, the letters and
the tables are those of the call's effect. -/
theorem effect_of_perform {call : Call} {reply : Reply}
    (done : (perform scheme moment database call).result = .ok reply) :
    database.isOpen = true ∧ ∃ after,
      Effect scheme moment.now database.tables call reply
        (perform scheme moment database call).letters after ∧
      (perform scheme moment database call).database = { database with tables := after } := by
  cases call with
  | register username email password =>
      exact outcome_of_ends (fun _ _ => registering_ends) done
  | activate token => exact outcome_of_ends (fun _ _ => activating_ends) done
  | login username password => exact outcome_of_ends (fun _ _ => loggingIn_ends) done
  | refresh token => exact outcome_of_ends (fun _ _ => refreshing_ends) done
  | logout identity =>
      have done : ((logout database identity).map fun _ => Reply.done).result = .ok reply := done
      refine outcome_of_ends ?_ done
      exact fun _ _ => loggingOut_ends
  | requestPasswordReset email => exact outcome_of_ends (fun _ _ => requestingReset_ends) done
  | updatePassword token password => exact outcome_of_ends (fun _ _ => settingPassword_ends) done
  | updateAccount identity username email password =>
      exact outcome_of_ends (fun _ _ => changingAccount_ends) done
  | getAccount identity username => exact outcome_of_ends (fun _ _ => gettingAccount_ends) done
  | authenticate token => exact outcome_of_ends (fun _ _ => authenticating_ends) done
  | requirePermissions identity required =>
      exact outcome_of_ends (fun _ _ => requiringPermissions_ends) done
  | sessionExpiry identity => exact outcome_of_ends (fun _ _ => readingExpiry_ends) done

end Service

end Gatehouse
