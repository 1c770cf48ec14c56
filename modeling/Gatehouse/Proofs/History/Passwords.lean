import Gatehouse.Proofs.History.Isolation
import Gatehouse.Proofs.History.Storage
import Gatehouse.Proofs.Workflow.Logins

/-!
# Only the latest password logs in

The name of an account is the one that it was registered with, and the text that is kept for its
password was made from the password that was set last (`Run.tells`).  A call either begins an
account, or sets its password, or keeps its name and the text (`Service.Change.credentials`); a
change that asks for a new address alone is written from a copy of the whole row, and keeps the text
because a copy that can be written back has the content of the row.

So a name and a password log in if and only if they are the name and the latest password of one
account, given a scheme that tells passwords apart (`Run.only_latest_password_logs_in`).
-/

namespace Gatehouse

set_option autoImplicit false

/-! ## Passwords that are set -/

/-- The password that a call, if it succeeds, sets for the account that it acts for. -/
def Service.Call.setsPassword? : Call → Option String
  | .register _ _ password | .updatePassword _ password => some password
  | .updateAccount _ _ _ password => password
  | _ => none

/-- Whether an event has set the password of an account. -/
def Event.SetsPassword {scheme : PasswordScheme} (event : Event scheme) (id : Int)
    (password : String) : Prop :=
  ∃ call, event.Served call id ∧ call.setsPassword? = some password

namespace History

variable {scheme : PasswordScheme}

/-- Whether an account has been registered under a name. -/
def Registers (past : History scheme) (username : String) (id : Int) : Prop :=
  ∃ event ∈ past, ∃ email password, event.Served (.register username email password) id

/-- Whether a password is the one that has been set for an account last. -/
def LatestPassword (past : History scheme) (id : Int) (password : String) : Prop :=
  past.Since (fun _ event => event.SetsPassword id password)
    fun event => ∃ other, event.SetsPassword id other

/-- Whether a name and a password belong to one account: it was registered under the name, and the
password is the one that has been set for it last. -/
def Credentials (past : History scheme) (username password : String) : Prop :=
  ∃ id, past.Registers username id ∧ past.LatestPassword id password

/-- The passwords that the calls of a history ask to set. -/
def passwords (past : History scheme) : List String :=
  past.filterMap fun event =>
    match event.action with
    | .call call => call.setsPassword?
    | _ => none

/-- Whether a text that the scheme has made from a password of a history matches another password
only if the two are equal, as far as both meet the policy. -/
def TellsApart (past : History scheme) (candidate : String) : Prop :=
  ∀ kept ∈ past.passwords, Validation.meetsPasswordPolicy kept = true →
    Validation.meetsPasswordPolicy candidate = true →
      ∀ salt stored, scheme.hash kept salt = .ok stored →
        scheme.verify candidate stored = .ok (candidate == kept)

end History

/-! ## What a call makes of a name and a password -/

/-- The name of an account and the text that is kept for its password, if there is an account. -/
def Holding.credentials? (holding : Holding) : Option (String × String) :=
  holding.account?.map fun account => (account.username, account.passwordHash)

theorem Holding.credentials?_eq {holding : Holding} {account : Account}
    (isStored : holding.account? = some account) :
    holding.credentials? = some (account.username, account.passwordHash) := by
  rw [credentials?, isStored]
  rfl

namespace Service

/-- What a call makes of the name and the password of the account that it acts for. -/
inductive CredentialsChange (scheme : PasswordScheme) (before after : Option (String × String))
    (call : Call) : Prop
  | begun {username email password passwordHash : String} {salt : Draw}
      (isRegistration : call = .register username email password) (isNew : before = none)
      (isHashed : scheme.hash password salt = .ok passwordHash)
      (isAfter : after = some (username, passwordHash))
  | set {username former password passwordHash : String} {salt : Draw}
      (notBegun : ∀ username email password, call ≠ .register username email password)
      (isSet : call.setsPassword? = some password)
      (isHashed : scheme.hash password salt = .ok passwordHash)
      (isBefore : before = some (username, former)) (isAfter : after = some (username, passwordHash))
  | kept (notBegun : ∀ username email password, call ≠ .register username email password)
      (notSet : call.setsPassword? = none) (isKept : after = before)

variable {scheme : PasswordScheme} {now : Instant} {id : Int} {before after : Holding} {call : Call}
  {reply : Reply}

theorem Change.credentials (change : Change scheme now id before call reply after) :
    CredentialsChange scheme before.credentials? after.credentials? call := by
  cases change with
  | register isNew isHashed isNext =>
      subst isNew isNext
      exact .begun rfl rfl isHashed rfl
  | activate isStored isChanged =>
      subst isChanged
      exact .kept nofun rfl (Holding.credentials?_eq isStored).symm
  | login | refresh | logout | requestPasswordReset => exact .kept nofun rfl rfl
  | updatePassword isStored isHashed isChanged =>
      subst isChanged
      exact .set nofun rfl isHashed (Holding.credentials?_eq isStored) rfl
  | @updateAccount _ _ _ password former latter _ _ isStored isKept isChanged =>
      have isBefore := Holding.credentials?_eq isStored
      have sameName : latter.username = former.username :=
        (congrArg Account.username isChanged).trans rfl
      have isAfter : some (latter.username, latter.passwordHash) =
          some (former.username, latter.passwordHash) := by rw [sameName]
      cases password with
      | none =>
          have sameHash : latter.passwordHash = former.passwordHash := isKept
          refine .kept nofun rfl (isAfter.trans ?_)
          rw [isBefore, sameHash]
      | some password =>
          obtain ⟨salt, isHashed⟩ := isKept
          exact .set nofun rfl isHashed isBefore isAfter
  | lookup isLookup =>
      refine .kept ?_ ?_ rfl
      · rintro username email password rfl
        cases isLookup
      · cases call <;> first | rfl | cases isLookup

/-- A password that a call sets meets the policy. -/
theorem Effect.meetsPolicy {now : Instant} {before after : Tables} {letters : List Mail.Letter}
    (effect : Effect scheme now before call reply letters after) {password : String}
    (isSet : call.setsPassword? = some password) :
    Validation.meetsPasswordPolicy password = true := by
  cases effect with
  | register isAccepted =>
      obtain rfl := Option.some.inj isSet
      rw [Validation.registrationReport, Validation.checkPassword, Validation.isAcceptable_check,
        Bool.and_eq_true] at isAccepted
      exact isAccepted.2
  | updatePassword isAccepted =>
      obtain rfl := Option.some.inj isSet
      simp only [Validation.checkToken, Validation.passwordReport, Validation.checkPassword,
        Validation.isAcceptable_check, Bool.and_eq_true] at isAccepted
      exact isAccepted.1.1.2
  | updateInPlace isAccepted | updateAddress isAccepted =>
      obtain rfl : _ = some password := isSet
      simp only [updateReport, Validation.changeReport, Validation.checkPassword,
        Validation.isAcceptable_check, Bool.and_eq_true] at isAccepted
      exact isAccepted.1.2
  | activate | login | refresh | logout | requestPasswordReset | getAccount | authenticate
  | requirePermissions | sessionExpiry => cases isSet

end Service

/-! ## Histories -/

variable {scheme : PasswordScheme} {past : History scheme} {database : Database}
  {event : Event scheme} {id : Int} {username password : String}

theorem Event.setsPassword_iff {call : Service.Call} (served : event.Served call id) :
    event.SetsPassword id password ↔ call.setsPassword? = some password := by
  constructor
  · rintro ⟨other, served', isSet⟩
    obtain rfl := served.call_eq served'
    exact isSet
  · exact fun isSet => ⟨call, served, isSet⟩

/-- A password that has been set meets the policy. -/
theorem Event.SetsPassword.meetsPolicy (sets : event.SetsPassword id password) :
    Validation.meetsPasswordPolicy password = true := by
  obtain ⟨call, ⟨isCall, succeeded, -⟩, isSet⟩ := sets
  obtain ⟨answer, answered⟩ := Option.isSome_iff_exists.1 succeeded
  obtain ⟨reply, -, effect⟩ := effect_of_call isCall answered
  exact effect.meetsPolicy isSet

namespace History

theorem LatestPassword.meetsPolicy (latest : past.LatestPassword id password) :
    Validation.meetsPasswordPolicy password = true := by
  obtain ⟨earlier, event, later, -, sets, -⟩ := latest
  exact sets.meetsPolicy

theorem LatestPassword.mem (latest : past.LatestPassword id password) :
    password ∈ past.passwords := by
  obtain ⟨earlier, event, later, rfl, ⟨call, ⟨isCall, -⟩, isSet⟩, -⟩ := latest
  refine List.mem_filterMap.2 ⟨event, by simp, ?_⟩
  rw [isCall]
  exact isSet

theorem registers_concat :
    (past ++ [event]).Registers username id ↔ past.Registers username id ∨
      ∃ email password, event.Served (.register username email password) id := by
  simp only [Registers, List.mem_append, List.mem_singleton, or_and_right, exists_or,
    exists_eq_left]

theorem latestPassword_concat :
    (past ++ [event]).LatestPassword id password ↔
      (past.LatestPassword id password ∧ ¬∃ other, event.SetsPassword id other) ∨
        event.SetsPassword id password :=
  since_concat

/-- What a history tells of the name and the password that are stored for an account. -/
inductive Tells (past : History scheme) (id : Int) : Option (String × String) → Prop
  /-- An account that is not there has not been registered. -/
  | none (notRegistered : ∀ username, ¬past.Registers username id) : Tells past id none
  | some {username password passwordHash : String} {salt : Draw}
      (isRegistered : ∀ other, past.Registers other id ↔ other = username)
      (isLatest : ∀ other, past.LatestPassword id other ↔ other = password)
      (isHashed : scheme.hash password salt = .ok passwordHash) :
      Tells past id (some (username, passwordHash))

/-- An event that neither registers an account nor sets its password changes nothing of what is
told of it. -/
theorem Tells.kept {credentials : Option (String × String)} (tells : past.Tells id credentials)
    (notBegun : ∀ username email password, ¬event.Served (.register username email password) id)
    (notSet : ∀ password, ¬event.SetsPassword id password) :
    (past ++ [event]).Tells id credentials := by
  have sameRegistered (username : String) :
      (past ++ [event]).Registers username id ↔ past.Registers username id := by
    refine registers_concat.trans (or_iff_left ?_)
    rintro ⟨email, password, served⟩
    exact notBegun username email password served
  have sameLatest (password : String) :
      (past ++ [event]).LatestPassword id password ↔ past.LatestPassword id password := by
    rw [latestPassword_concat, or_iff_left (notSet password), and_iff_left (not_exists.2 notSet)]
  cases tells with
  | none notRegistered => exact .none fun username => mt (sameRegistered username).1 (notRegistered _)
  | some isRegistered isLatest isHashed =>
      exact .some (fun other => (sameRegistered other).trans (isRegistered other))
        (fun other => (sameLatest other).trans (isLatest other)) isHashed

/-- After an event that sets a password it is the latest. -/
theorem latestPassword_of_set {call : Service.Call} (served : event.Served call id)
    (isSet : call.setsPassword? = some password) (other : String) :
    (past ++ [event]).LatestPassword id other ↔ other = password := by
  have sets := (Event.setsPassword_iff served).2 isSet
  rw [latestPassword_concat, or_iff_right fun former => former.2 ⟨password, sets⟩,
    Event.setsPassword_iff served, isSet, Option.some.injEq, eq_comm]

theorem Tells.step (tells : past.Tells id (event.before.tables.holding id).credentials?)
    (affects : event.Affects id) :
    (past ++ [event]).Tells id (event.after.tables.holding id).credentials? := by
  have untouched (notServed : ∀ call, ¬event.Served call id) :
      (past ++ [event]).Tells id (event.before.tables.holding id).credentials? := by
    refine tells.kept (fun _ _ _ => notServed _) ?_
    rintro password ⟨call, served, -⟩
    exact notServed call served
  cases affects with
  | spared sameHolding notServed => exact sameHolding ▸ untouched notServed
  | purged isPurge _ sameAccount =>
      have sameCredentials : (event.after.tables.holding id).credentials? =
          (event.before.tables.holding id).credentials? := by
        rw [Holding.credentials?, sameAccount]
        rfl
      rw [sameCredentials]
      exact untouched fun call => Event.not_served_of_purge isPurge call id
  | @served call reply served isMinted change =>
      cases change.credentials with
      | @begun username email password _ _ isRegistration isNew isHashed isAfter =>
          subst isRegistration
          rw [isNew] at tells
          cases tells with
          | none notRegistered =>
              rw [isAfter]
              refine .some (fun other => ?_) (latestPassword_of_set served rfl) isHashed
              rw [registers_concat, or_iff_right (notRegistered other)]
              constructor
              · rintro ⟨email', password', again⟩
                exact (Service.Call.register.inj (served.call_eq again)).1.symm
              · rintro rfl
                exact ⟨email, password, served⟩
      | set notBegun isSet isHashed isBefore isAfter =>
          rw [isBefore] at tells
          cases tells with
          | some isRegistered =>
              rw [isAfter]
              refine .some (fun other => ?_) (latestPassword_of_set served isSet) isHashed
              refine (registers_concat.trans (or_iff_left ?_)).trans (isRegistered other)
              rintro ⟨email, password, again⟩
              exact notBegun _ _ _ (served.call_eq again)
      | kept notBegun notSet isKept =>
          rw [isKept]
          refine tells.kept (fun _ _ _ again => notBegun _ _ _ (served.call_eq again)) ?_
          intro password sets
          cases notSet.symm.trans ((Event.setsPassword_iff served).1 sets)

end History

/-! ## Runs -/

/-- What is stored for an account is what the run tells of it. -/
theorem Run.tells (run : Run scheme History.AdmitsCallsAndPurges past database) (id : Int) :
    past.Tells id (database.tables.holding id).credentials? := by
  refine run.invariant_of_affects id (fun past holding => past.Tells id holding.credentials?) ?_
    fun tells => tells.step
  refine .none ?_
  rintro username ⟨event, member, -⟩
  cases member

theorem Run.isOpen (run : Run scheme History.AdmitsCallsAndPurges past database) :
    database.isOpen = true := by
  refine run.isOpen_of_admits fun past action admitted => ?_
  rintro rfl
  exact admitted

/-- The account with a name that a password matches was registered under the name, and the password
is its latest. -/
theorem Run.credentials_of_match (run : Run scheme History.AdmitsCallsAndPurges past database)
    (tellsApart : past.TellsApart password)
    (isMet : Validation.meetsPasswordPolicy password = true) {stored : Account}
    (isNamed : database.tables.accountNamed? username = some stored)
    (isMatch : Service.passwordMatches scheme stored password = true) :
    past.Credentials username password := by
  obtain ⟨isStored, rfl⟩ := run.sound.accountNamed?_eq_some.1 isNamed
  have tells := run.tells stored.id
  rw [Holding.credentials?_eq (run.sound.account?_eq_some.2 ⟨isStored, rfl⟩)] at tells
  cases tells with
  | @some _ latest _ salt isRegistered isLatest isHashed =>
      have isSet := (isLatest latest).2 rfl
      have verified := tellsApart latest isSet.mem isSet.meetsPolicy isMet salt _ isHashed
      rw [Service.passwordMatches, verified] at isMatch
      exact ⟨stored.id, (isRegistered _).2 rfl, (isLatest password).2 (beq_iff_eq.1 isMatch)⟩

/-- The latest password of an account matches what is stored for it. -/
theorem Run.match_of_credentials (run : Run scheme History.AdmitsCallsAndPurges past database)
    (tellsApart : past.TellsApart password) (credentials : past.Credentials username password) :
    ∃ stored, database.tables.accountNamed? username = some stored ∧
      Service.passwordMatches scheme stored password = true := by
  obtain ⟨id, registered, latest⟩ := credentials
  have tells := run.tells id
  cases isFound : database.tables.account? id with
  | none =>
      rw [show (database.tables.holding id).credentials? = none from
        congrArg (Option.map _) isFound] at tells
      cases tells with
      | none notRegistered => exact absurd registered (notRegistered username)
  | some stored =>
      rw [Holding.credentials?_eq isFound] at tells
      cases tells with
      | @some _ _ _ salt isRegistered isLatest isHashed =>
          obtain ⟨isStored, -⟩ := run.sound.account?_eq_some.1 isFound
          have sameName := (isRegistered username).1 registered
          obtain rfl := (isLatest password).1 latest
          have verified := tellsApart password latest.mem latest.meetsPolicy latest.meetsPolicy salt
            _ isHashed
          refine ⟨stored, run.sound.accountNamed?_eq_some.2 ⟨isStored, sameName.symm⟩, ?_⟩
          rw [Service.passwordMatches, verified]
          exact beq_self_eq_true password

/-- **Only the latest password logs in.**  After any run of calls of the service, each made by nobody
in particular or with a copy of an account that was handed out before, and of removals of the tokens
that are no longer good, and given a scheme that tells the passwords of the run apart from the one
that is tried:

* If the random source gives the tokens of a session, a login succeeds if and only if the password
  meets the policy, the name has the form of one, and there is an account that was registered under
  exactly this name and for which the password is the one that has been set last.
* Otherwise, as long as name and password have the right form, it fails with the same fault for any
  reason and changes nothing.
* This is also so on any open store, however its accounts were created, if the text that is kept for
  the account with the name does not match the password or cannot be checked at all. -/
theorem Run.only_latest_password_logs_in
    (run : Run scheme History.AdmitsCallsAndPurges past database)
    (tellsApart : past.TellsApart password) (moment : Moment) :
    (moment.SuppliesSession database.tables →
      ((∃ session, (Service.login scheme moment database username password).result = .ok session) ↔
        Validation.meetsPasswordPolicy password = true ∧ Validation.isUsername username = true ∧
          past.Credentials username password)) ∧
    (Validation.meetsPasswordPolicy password = true → Validation.isUsername username = true →
      ¬past.Credentials username password →
        Service.login scheme moment database username password =
          ⟨.error .notFound, database, []⟩) ∧
    (Validation.meetsPasswordPolicy password = true → Validation.isUsername username = true →
      ∀ other : Database, other.isOpen = true →
        (∀ stored ∈ other.tables.accounts, stored.username = username →
          scheme.verify password stored.passwordHash ≠ .ok true) →
        Service.login scheme moment other username password = ⟨.error .notFound, other, []⟩) := by
  refine ⟨fun supplies => ⟨?_, ?_⟩, ?_, ?_⟩
  · rintro ⟨session, done⟩
    obtain ⟨isAccepted, stored, isNamed, isMatch⟩ := Service.login_eq_ok done
    obtain ⟨isUsername, isMet⟩ := Validation.isAcceptable_loginReport.1 isAccepted
    exact ⟨isMet, isUsername, run.credentials_of_match tellsApart isMet isNamed isMatch⟩
  · rintro ⟨isMet, isUsername, credentials⟩
    obtain ⟨stored, isNamed, isMatch⟩ := run.match_of_credentials tellsApart credentials
    exact Service.login_succeeds run.isOpen
      (Validation.isAcceptable_loginReport.2 ⟨isUsername, isMet⟩) isNamed isMatch supplies
  · intro isMet isUsername notCredentials
    refine Service.login_of_mismatch run.isOpen
      (Validation.isAcceptable_loginReport.2 ⟨isUsername, isMet⟩) fun stored isNamed => ?_
    rw [← Bool.not_eq_true]
    exact fun isMatch =>
      notCredentials (run.credentials_of_match tellsApart isMet isNamed isMatch)
  · intro isMet isUsername other isOpen mismatch
    refine Service.login_of_mismatch isOpen
      (Validation.isAcceptable_loginReport.2 ⟨isUsername, isMet⟩) fun stored isNamed => ?_
    have isStored := List.mem_of_find?_eq_some isNamed
    have sameName : stored.username = username := by simpa using List.find?_some isNamed
    have noMatch := mismatch stored isStored sameName
    unfold Service.passwordMatches
    cases verified : scheme.verify password stored.passwordHash with
    | error fault => rfl
    | ok isMatch =>
        cases isMatch with
        | false => rfl
        | true => exact absurd verified noMatch

/-- The text that the scheme of the service makes from one password and one salt. -/
def recordedText : String :=
  "$argon2id$v=19$m=65536,t=3,p=1$AAAAAAAAAAAAAAAAAAAAAA$"
    ++ "QHDM0/3ekDodAuSs8v6jd2ACr6nZAYPLc7vRmp2ambI"

/-- A scheme that makes this text from the password and the salt, and keeps any other password as it
is. -/
def recordingScheme : PasswordScheme where
  hash password salt :=
    if password = "Abcdef1!" ∧ salt = .replicate 16 0 then .ok recordedText
    else if Validation.meetsPasswordPolicy password then .ok password
    else .error .policy
  verify candidate stored :=
    .ok (candidate == if stored = recordedText then "Abcdef1!" else stored)

/-- Somebody registers with the password. -/
def recordedRegistration : Event recordingScheme :=
  ⟨⟨⟨0⟩, [.replicate 16 0, .replicate 16 0]⟩,
    .call (.register "alice" "alice@example.com" "Abcdef1!"), .fresh⟩

theorem tellsApart_recordedRegistration (candidate : String) :
    History.TellsApart [recordedRegistration] candidate := by
  intro kept isKept _ _ salt stored isHashed
  obtain rfl : kept = "Abcdef1!" := List.mem_singleton.1 isKept
  have isText : stored = recordedText ∨ stored = "Abcdef1!" := by
    simp only [recordingScheme] at isHashed
    split at isHashed
    · exact .inl (Except.ok.inj isHashed).symm
    · exact .inr (Except.ok.inj isHashed).symm
  have notText : "Abcdef1!" ≠ recordedText := by decide
  rcases isText with rfl | rfl
  · exact congrArg (Except.ok <| candidate == ·) (if_pos rfl)
  · exact congrArg (Except.ok <| candidate == ·) (if_neg notText)

/-- After a registration its password logs in, and another one does not. -/
theorem registered_password_logs_in :
    Run recordingScheme History.AdmitsCallsAndPurges [recordedRegistration]
        recordedRegistration.after ∧
      (∃ session, (Service.login recordingScheme ⟨⟨0⟩, [.replicate 16 1, .replicate 16 2]⟩
        recordedRegistration.after "alice" "Abcdef1!").result = .ok session) ∧
      Service.login recordingScheme .idle recordedRegistration.after "alice" "Abcdef2!" =
        ⟨.error .notFound, recordedRegistration.after, []⟩ := by
  have run : Run recordingScheme History.AdmitsCallsAndPurges [recordedRegistration]
      recordedRegistration.after :=
    .step .start _ _ nofun
  have served : recordedRegistration.Served (.register "alice" "alice@example.com" "Abcdef1!") 1 :=
    ⟨rfl, by decide +kernel, by decide +kernel⟩
  have credentials : History.Credentials [recordedRegistration] "alice" "Abcdef1!" :=
    ⟨1, ⟨_, .head _, _, _, served⟩, [], _, [], rfl, ⟨_, served, rfl⟩,
      fun _ isLater => absurd isLater List.not_mem_nil⟩
  have others : ¬History.Credentials [recordedRegistration] "alice" "Abcdef2!" := by
    rintro ⟨id, -, latest⟩
    exact absurd (List.mem_singleton.1 latest.mem) (by decide)
  have supplies : Moment.SuppliesSession ⟨⟨0⟩, [.replicate 16 1, .replicate 16 2]⟩
      recordedRegistration.after.tables :=
    ⟨_, _, [], rfl, by decide +kernel, by decide +kernel⟩
  obtain ⟨succeeds, -⟩ := Run.only_latest_password_logs_in run
    (tellsApart_recordedRegistration "Abcdef1!") ⟨⟨0⟩, [.replicate 16 1, .replicate 16 2]⟩
  obtain ⟨-, fails, -⟩ := Run.only_latest_password_logs_in run
    (tellsApart_recordedRegistration "Abcdef2!") .idle
  exact ⟨run, (succeeds supplies).2 ⟨by decide, by decide, credentials⟩,
    fails (by decide) (by decide) others⟩

end Gatehouse
