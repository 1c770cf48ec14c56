import Gatehouse.Proofs.Workflow.Likeness
import Gatehouse.Service.Call

/-!
# Calls do not tell stored passwords

Two calls that ask for the same, made on states that are alike by callers that are alike, give
replies that are alike, leave states that are alike and queue the same letters
(`Service.perform_alike`).  Only a login looks at a stored password: it asks whether a candidate
matches, and takes a stored text that cannot be read for one that does not match.
-/

namespace Gatehouse

set_option autoImplicit false

variable {scheme : PasswordScheme}

namespace Service

open Workflow

/-! ## The workflows -/

/-- Two registrations of accounts that are alike, with one token. -/
structure Registration.Alike (scheme : PasswordScheme) (former latter : Registration) : Prop where
  account : former.account.Alike scheme latter.account
  activationToken : former.activationToken = latter.activationToken

/-- Two changes that led to accounts that are alike, with one token or none. -/
structure AccountUpdate.Alike (scheme : PasswordScheme) (former latter : AccountUpdate) :
    Prop where
  account : former.account.Alike scheme latter.account
  activationToken : former.activationToken = latter.activationToken

theorem activationLetter_alike {former latter : Account} (alike : former.Alike scheme latter)
    (token : IssuedToken) : activationLetter former token = activationLetter latter token := by
  unfold activationLetter
  rw [alike.email]

theorem resetLetter_alike {former latter : Account} (alike : former.Alike scheme latter)
    (token : IssuedToken) : resetLetter former token = resetLetter latter token := by
  unfold resetLetter
  rw [alike.email]

theorem goTogether_registering (username email password : String) :
    GoTogether scheme (Registration.Alike scheme) (registering scheme username email password)
      (registering scheme username email password) := by
  refine (goTogether_lift (.refl _)).bind_eq fun _ => ?_
  refine (goTogether_hashPassword password).bind_eq fun passwordHash => ?_
  refine goTogether_begin.bind_eq fun _ => ?_
  refine (goTogether_createAccount _).bind fun account account' accounts => ?_
  rw [accounts.id]
  refine (goTogether_grant account'.id _).bind_eq fun _ => ?_
  refine (goTogether_mint account'.id .activation).bind_eq fun token => ?_
  refine goTogether_commit.bind_eq fun _ => ?_
  rw [activationLetter_alike accounts]
  exact (goTogether_queue _).bind_eq fun _ => goTogether_pure ⟨accounts, rfl⟩

theorem goTogether_activating (token : String) :
    GoTogether scheme (Account.Alike scheme) (activating token) (activating token) := by
  refine (goTogether_lift (.refl _)).bind_eq fun _ => ?_
  refine goTogether_begin.bind_eq fun _ => ?_
  refine (goTogether_holder _ .activation token).bind fun account account' accounts => ?_
  have activated : Account.Alike scheme { account with isActivated := true }
      { account' with isActivated := true } :=
    { accounts with isActivated := rfl }
  refine (goTogether_updateAccount activated).bind fun stored stored' accounts => ?_
  rw [accounts.id]
  refine (goTogether_grant stored'.id _).bind_eq fun _ => ?_
  refine (goTogether_removeToken stored'.id .activation).bind_eq fun _ => ?_
  exact goTogether_commit.bind_eq fun _ => goTogether_pure accounts

theorem goTogether_renewingSession (id : Int) :
    GoTogether scheme Eq (renewingSession id) (renewingSession id) := by
  refine (goTogether_removeToken id .refresh).bind_eq fun _ => ?_
  refine (goTogether_removeToken id .access).bind_eq fun _ => ?_
  refine (goTogether_mint id .access).bind_eq fun access => ?_
  exact (goTogether_mint id .refresh).bind_eq fun refresh => goTogether_pure rfl

/-- A stored password that cannot be read is like one that does not match. -/
theorem passwordMatches_alike {former latter : Account} (alike : former.Alike scheme latter)
    (password : String) :
    passwordMatches scheme former password = passwordMatches scheme latter password := by
  have matches_iff (account : Account) : passwordMatches scheme account password = true ↔
      scheme.verify password account.passwordHash = .ok true := by
    unfold passwordMatches
    cases scheme.verify password account.passwordHash <;> simp
  rw [Bool.eq_iff_iff, matches_iff, matches_iff]
  exact alike.candidates password

theorem goTogether_loggingIn (username password : String) :
    GoTogether scheme Eq (loggingIn scheme username password)
      (loggingIn scheme username password) := by
  refine (goTogether_lift (.refl _)).bind_eq fun _ => ?_
  refine goTogether_connect.bind_eq fun _ => ?_
  refine goTogether_look.bind fun tables tables' alike => ?_
  refine (goTogether_lift (found_alike _ (alike.accountNamed? username))).bind
    fun account account' accounts => ?_
  rw [passwordMatches_alike accounts, accounts.id]
  split
  · refine goTogether_begin.bind_eq fun _ => ?_
    refine (goTogether_renewingSession account'.id).bind_eq fun session => ?_
    exact goTogether_commit.bind_eq fun _ => goTogether_pure rfl
  · exact goTogether_throw _

theorem goTogether_refreshing (token : String) :
    GoTogether scheme Eq (refreshing token) (refreshing token) := by
  refine (goTogether_lift (.refl _)).bind_eq fun _ => ?_
  refine goTogether_begin.bind_eq fun _ => ?_
  refine (goTogether_holder _ .refresh token).bind fun account account' accounts => ?_
  rw [accounts.id]
  refine (goTogether_renewingSession account'.id).bind_eq fun session => ?_
  exact goTogether_commit.bind_eq fun _ => goTogether_pure rfl

theorem goTogether_loggingOut {former latter : Identity} (alike : former.Alike scheme latter) :
    GoTogether scheme Eq (loggingOut former) (loggingOut latter) := by
  refine (goTogether_lift alike.require).bind fun account account' accounts => ?_
  rw [accounts.id]
  refine goTogether_begin.bind_eq fun _ => ?_
  refine (goTogether_removeToken account'.id .access).bind_eq fun _ => ?_
  refine (goTogether_removeToken account'.id .refresh).bind_eq fun _ => ?_
  exact goTogether_commit

theorem goTogether_requestingReset (email : String) :
    GoTogether scheme Eq (requestingReset email) (requestingReset email) := by
  refine (goTogether_lift (.refl _)).bind_eq fun _ => ?_
  refine goTogether_connect.bind_eq fun _ => ?_
  refine goTogether_look.bind fun tables tables' alike => ?_
  refine (goTogether_lift (found_alike _ (alike.accountAt? email))).bind
    fun account account' accounts => ?_
  rw [accounts.id]
  refine goTogether_begin.bind_eq fun _ => ?_
  refine (goTogether_removeToken account'.id .passwordReset).bind_eq fun _ => ?_
  refine (goTogether_mint account'.id .passwordReset).bind_eq fun token => ?_
  refine goTogether_commit.bind_eq fun _ => ?_
  rw [resetLetter_alike accounts]
  exact (goTogether_queue _).bind_eq fun _ => goTogether_pure rfl

theorem goTogether_settingPassword (token password : String) :
    GoTogether scheme (Account.Alike scheme) (settingPassword scheme token password)
      (settingPassword scheme token password) := by
  refine (goTogether_lift (.refl _)).bind_eq fun _ => ?_
  refine goTogether_connect.bind_eq fun _ => ?_
  refine (goTogether_holder _ .passwordReset token).bind fun _ _ _ => ?_
  refine (goTogether_hashPassword password).bind_eq fun passwordHash => ?_
  refine goTogether_begin.bind_eq fun _ => ?_
  refine (goTogether_holder _ .passwordReset token).bind fun account account' accounts => ?_
  -- From here on both sides store the same text.
  have set : Account.Alike scheme { account with passwordHash := passwordHash }
      { account' with passwordHash := passwordHash } :=
    { accounts with candidates := fun _ => Iff.rfl }
  refine (goTogether_updateAccount set).bind fun stored stored' accounts => ?_
  rw [accounts.id]
  refine (goTogether_removeToken stored'.id .passwordReset).bind_eq fun _ => ?_
  exact goTogether_commit.bind_eq fun _ => goTogether_pure accounts

theorem isNewAddress_alike {former latter : Account} (alike : former.Alike scheme latter)
    (email : Option String) : isNewAddress former email = isNewAddress latter email := by
  cases email with
  | none => rfl
  | some email => simp only [isNewAddress, alike.email]

theorem withAddress_alike {former latter : Account} (alike : former.Alike scheme latter)
    (email : Option String) :
    (withAddress former email).Alike scheme (withAddress latter email) where
  id := alike.id
  createdAt := alike.createdAt
  username := alike.username
  email := congrArg email.getD alike.email
  isActivated := by
    simp only [withAddress, alike.isActivated, isNewAddress_alike alike]
  version := alike.version
  candidates := alike.candidates

theorem goTogether_withPassword {former latter : Account} (alike : former.Alike scheme latter)
    (password : Option String) :
    GoTogether scheme (Account.Alike scheme) (withPassword scheme former password)
      (withPassword scheme latter password) := by
  cases password with
  | none => exact goTogether_pure alike
  | some password =>
      refine (goTogether_hashPassword password).bind_eq fun passwordHash => ?_
      exact goTogether_pure { alike with candidates := fun _ => Iff.rfl }

theorem goTogether_renewingActivation (id : Int) (isNew : Bool) :
    GoTogether scheme Eq (renewingActivation id isNew) (renewingActivation id isNew) := by
  unfold renewingActivation
  split
  · refine (goTogether_removeToken id .activation).bind_eq fun _ => ?_
    exact (goTogether_mint id .activation).bind_eq fun token => goTogether_pure rfl
  · exact goTogether_pure rfl

theorem goTogether_sendingActivation {former latter : Account}
    (alike : former.Alike scheme latter) (token : Option IssuedToken) :
    GoTogether scheme Eq (sendingActivation former token) (sendingActivation latter token) := by
  cases token with
  | none => exact goTogether_pure rfl
  | some token =>
      simp only [sendingActivation, activationLetter_alike alike]
      exact goTogether_queue _

theorem goTogether_changingAccount {former latter : Identity}
    (alike : former.Alike scheme latter) (username : String) (email password : Option String) :
    GoTogether scheme (AccountUpdate.Alike scheme)
      (changingAccount scheme former username email password)
      (changingAccount scheme latter username email password) := by
  refine (goTogether_lift (alike.owner username)).bind fun caller caller' callers => ?_
  refine (goTogether_lift (.refl _)).bind_eq fun _ => ?_
  refine (goTogether_withPassword (withAddress_alike callers email) password).bind
    fun changed changed' changes => ?_
  refine goTogether_begin.bind_eq fun _ => ?_
  refine (goTogether_updateAccount changes).bind fun account account' accounts => ?_
  rw [accounts.id, isNewAddress_alike callers]
  refine (goTogether_renewingActivation account'.id _).bind_eq fun token => ?_
  refine goTogether_commit.bind_eq fun _ => ?_
  exact (goTogether_sendingActivation accounts token).bind_eq fun _ =>
    goTogether_pure ⟨accounts, rfl⟩

/-! ## Readings -/

theorem goTogether_authenticating (token : String) :
    GoTogether scheme (Account.Alike scheme) (authenticating token) (authenticating token) := by
  unfold authenticating
  split
  · exact goTogether_connect.bind_eq fun _ => goTogether_holder _ .access token
  · exact goTogether_throw _

theorem goTogether_requiringPermissions {caller caller' : Identity}
    (callers : caller.Alike scheme caller') (required : List Permission) :
    GoTogether scheme (Account.Alike scheme) (requiringPermissions caller required)
      (requiringPermissions caller' required) := by
  refine (goTogether_lift callers.require).bind fun account account' accounts => ?_
  rw [accounts.isActivated]
  split
  · refine goTogether_connect.bind_eq fun _ => ?_
    refine goTogether_look.bind fun tables tables' alike => ?_
    rw [alike.permissionsOf, accounts.id]
    split
    · exact goTogether_pure accounts
    · exact goTogether_throw _
  · exact goTogether_throw _

theorem goTogether_gettingAccount {caller caller' : Identity}
    (callers : caller.Alike scheme caller') (username : String) :
    GoTogether scheme (Account.Alike scheme) (gettingAccount caller username)
      (gettingAccount caller' username) := by
  refine (goTogether_lift (callers.owner username)).bind fun account account' accounts => ?_
  refine goTogether_connect.bind_eq fun _ => ?_
  refine goTogether_look.bind fun tables tables' alike => ?_
  exact goTogether_lift (found_alike _ (alike.account? accounts.id))

theorem goTogether_readingExpiry {caller caller' : Identity}
    (callers : caller.Alike scheme caller') :
    GoTogether scheme Eq (readingExpiry caller) (readingExpiry caller') := by
  refine (goTogether_lift callers.require).bind fun account account' accounts => ?_
  refine goTogether_connect.bind_eq fun _ => ?_
  refine goTogether_look.bind fun tables tables' alike => ?_
  rw [Tables.token?, Tables.token?, alike.tokens, accounts.id]
  exact (goTogether_lift (.refl _)).bind_eq fun _ => goTogether_pure rfl

variable {former latter : Database}

theorem authenticate_alike (alike : former.Alike scheme latter) (now : Instant)
    (token : String) :
    ResultsAlike (Account.Alike scheme) (authenticate now former token)
      (authenticate now latter token) :=
  ((goTogether_authenticating token).outcome ⟨now, []⟩ alike).result

theorem requirePermissions_alike (alike : former.Alike scheme latter) {caller caller' : Identity}
    (callers : caller.Alike scheme caller') (required : List Permission) :
    ResultsAlike (Account.Alike scheme) (requirePermissions former caller required)
      (requirePermissions latter caller' required) :=
  ((goTogether_requiringPermissions callers required).outcome .idle alike).result

/-! ## Calls -/

/-- Two calls that ask for the same, by callers that are alike. -/
inductive Call.Alike (scheme : PasswordScheme) : Call → Call → Prop
  | register (username email password : String) :
      Call.Alike scheme (.register username email password) (.register username email password)
  | activate (token : String) : Call.Alike scheme (.activate token) (.activate token)
  | login (username password : String) :
      Call.Alike scheme (.login username password) (.login username password)
  | refresh (token : String) : Call.Alike scheme (.refresh token) (.refresh token)
  | logout {caller caller' : Identity} (callers : caller.Alike scheme caller') :
      Call.Alike scheme (.logout caller) (.logout caller')
  | requestPasswordReset (email : String) :
      Call.Alike scheme (.requestPasswordReset email) (.requestPasswordReset email)
  | updatePassword (token password : String) :
      Call.Alike scheme (.updatePassword token password) (.updatePassword token password)
  | updateAccount {caller caller' : Identity} (callers : caller.Alike scheme caller')
      (username : String) (email password : Option String) :
      Call.Alike scheme (.updateAccount caller username email password)
        (.updateAccount caller' username email password)
  | getAccount {caller caller' : Identity} (callers : caller.Alike scheme caller')
      (username : String) :
      Call.Alike scheme (.getAccount caller username) (.getAccount caller' username)
  | authenticate (token : String) : Call.Alike scheme (.authenticate token) (.authenticate token)
  | requirePermissions {caller caller' : Identity} (callers : caller.Alike scheme caller')
      (required : List Permission) :
      Call.Alike scheme (.requirePermissions caller required)
        (.requirePermissions caller' required)
  | sessionExpiry {caller caller' : Identity} (callers : caller.Alike scheme caller') :
      Call.Alike scheme (.sessionExpiry caller) (.sessionExpiry caller')

/-- Two replies that differ in stored passwords at most. -/
inductive Reply.Alike (scheme : PasswordScheme) : Reply → Reply → Prop
  | registration {former latter : Registration} (alike : former.Alike scheme latter) :
      Reply.Alike scheme (.registration former) (.registration latter)
  | account {former latter : Account} (alike : former.Alike scheme latter) :
      Reply.Alike scheme (.account former) (.account latter)
  | update {former latter : AccountUpdate} (alike : former.Alike scheme latter) :
      Reply.Alike scheme (.update former) (.update latter)
  | session (session : Session) : Reply.Alike scheme (.session session) (.session session)
  | done : Reply.Alike scheme .done .done
  | token (token : IssuedToken) : Reply.Alike scheme (.token token) (.token token)
  | expiry (expiry : Option Instant) : Reply.Alike scheme (.expiry expiry) (.expiry expiry)

/-- **Calls do not tell stored passwords apart that the same candidates match**: on states that are
alike they give replies that are alike, leave states that are alike and queue the same letters. -/
theorem perform_alike (alike : former.Alike scheme latter) (moment : Moment) {call call' : Call}
    (calls : call.Alike scheme call') :
    Outcome.Alike scheme (Reply.Alike scheme) (perform scheme moment former call)
      (perform scheme moment latter call') := by
  cases calls with
  | register username email password =>
      exact ((goTogether_registering username email password).outcome moment alike).map
        fun _ _ same => .registration same
  | activate token =>
      exact ((goTogether_activating token).outcome moment alike).map fun _ _ same => .account same
  | login username password =>
      refine ((goTogether_loggingIn username password).outcome moment alike).map ?_
      rintro session _ rfl
      exact .session session
  | refresh token =>
      refine ((goTogether_refreshing token).outcome moment alike).map ?_
      rintro session _ rfl
      exact .session session
  | logout callers =>
      exact ((goTogether_loggingOut callers).outcome .idle alike).map fun _ _ _ => .done
  | requestPasswordReset email =>
      refine ((goTogether_requestingReset email).outcome moment alike).map ?_
      rintro token _ rfl
      exact .token token
  | updatePassword token password =>
      exact ((goTogether_settingPassword token password).outcome moment alike).map
        fun _ _ same => .account same
  | updateAccount callers username email password =>
      exact ((goTogether_changingAccount callers username email password).outcome moment
        alike).map fun _ _ same => .update same
  | getAccount callers username =>
      exact ((goTogether_gettingAccount callers username).outcome moment alike).map
        fun _ _ same => .account same
  | authenticate token =>
      exact ((goTogether_authenticating token).outcome moment alike).map
        fun _ _ same => .account same
  | requirePermissions callers required =>
      exact ((goTogether_requiringPermissions callers required).outcome moment alike).map
        fun _ _ same => .account same
  | sessionExpiry callers =>
      refine ((goTogether_readingExpiry callers).outcome moment alike).map ?_
      rintro expiry _ rfl
      exact .expiry expiry

end Service

end Gatehouse
