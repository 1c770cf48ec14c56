import Gatehouse.Proofs.Store.Integrity
import Gatehouse.Proofs.Workflow.Effects

/-!
# When a login succeeds

On an open store a login with a username and a password that have the right form succeeds if the
account with that name has a password that matches (`Service.login_succeeds`), as long as the random
source gives the tokens of a session.  Otherwise it fails with one and the same fault and changes
nothing (`Service.login_of_mismatch`).
-/

namespace Gatehouse

set_option autoImplicit false

/-! ## Forms -/

namespace Validation

/-- Whether a text has the form of a username: 3 to 25 letters and digits. -/
def isUsername (username : String) : Bool :=
  lengthBetween username 3 25 && username.toList.all isLetterOrDigit

theorem isEmpty_insertNew (messages : Text.Dictionary) (field message : String) :
    (messages.insertNew field message).isEmpty = false := by
  change (Text.Dictionary.insertEntry id field message messages.entries).isEmpty = false
  cases messages.entries with
  | nil => rfl
  | cons entry rest =>
      simp only [Text.Dictionary.insertEntry]
      split
      · rfl
      · split <;> rfl

/-- A report stays acceptable as long as every rule is kept. -/
theorem isAcceptable_check (report : Report) (isKept : Bool) (field message : String) :
    (report.check isKept field message).isAcceptable = (report.isAcceptable && isKept) := by
  cases isKept with
  | true => exact (Bool.and_true _).symm
  | false => exact (isEmpty_insertNew _ _ _).trans (Bool.and_false _).symm

theorem not_isEmpty_of_lengthBetween {text : String} {least most : Nat}
    (isLong : lengthBetween text (least + 1) most = true) : (!text.isEmpty) = true := by
  rw [Bool.not_eq_true', String.isEmpty_eq_false_iff]
  rintro rfl
  simp [lengthBetween] at isLong

/-- A login is accepted if the username has the form of one and the password meets the policy. -/
theorem isAcceptable_loginReport {username password : String} :
    (loginReport username password).isAcceptable = true ↔
      isUsername username = true ∧ meetsPasswordPolicy password = true := by
  have start : Report.empty.isAcceptable = true := rfl
  simp only [loginReport, checkPassword, checkUsername, isAcceptable_check, start, Bool.true_and,
    Bool.and_eq_true, isUsername]
  constructor
  · rintro ⟨⟨⟨-, isLong⟩, isPlain⟩, isMet⟩
    exact ⟨⟨isLong, isPlain⟩, isMet⟩
  · rintro ⟨⟨isLong, isPlain⟩, isMet⟩
    exact ⟨⟨⟨not_isEmpty_of_lengthBetween isLong, isLong⟩, isPlain⟩, isMet⟩

end Validation

/-! ## Tokens for a session -/

/-- Whether the random source gives what the two tokens of a session are made from: two draws that
no stored token was made from, and that differ. -/
def Moment.SuppliesSession (moment : Moment) (tables : Tables) : Prop :=
  ∃ first second rest, moment.draws = first :: second :: rest ∧
    Token.digestOf (Token.plaintextOf first) ≠ Token.digestOf (Token.plaintextOf second) ∧
    ∀ row ∈ tables.tokens, row.digest ≠ Token.digestOf (Token.plaintextOf first) ∧
      row.digest ≠ Token.digestOf (Token.plaintextOf second)

@[simp] theorem Progress.moment_write (progress : Progress) (tables : Tables) :
    (progress.write tables).moment = progress.moment := by
  unfold write
  cases progress.work <;> rfl

/-- A token is minted at the first try if there is a draw, its digest is new, and the place for the
token is empty. -/
theorem Progress.At.mint_succeeds {progress : Progress} {database : Database} {now : Instant}
    {tables : Tables} {accountId : Int} {scope : Scope} {draw : Draw} {rest : List Draw}
    (stage : progress.At database now (some tables))
    (draws : progress.moment.draws = draw :: rest)
    (isNew : ∀ row ∈ tables.tokens, row.digest ≠ Token.digestOf (Token.plaintextOf draw))
    (isEmpty : ∀ row ∈ tables.tokens, ¬(row.accountId = accountId ∧ row.scope = scope.tag))
    (hasAccount : tables.hasAccount accountId = true) :
    ∃ last, (Workflow.mint accountId scope).runFrom progress =
        (.ok (.ofDraw draw now accountId scope.lifetime scope), last) ∧
      last.moment.draws = rest := by
  obtain ⟨issued, isMade⟩ : ∃ issued, issued =
    IssuedToken.ofDraw draw now accountId scope.lifetime scope := ⟨_, rfl⟩
  have isFree : tables.tokenIsTaken (Tables.rowOfToken issued.token) = false := by
    rw [isMade]
    exact Tables.tokenIsTaken_eq_false.2 fun row isStored => ⟨isNew row isStored, isEmpty row isStored⟩
  have inserted : tables.insertToken issued.token =
      .ok (tables.withTokenRow (Tables.rowOfToken issued.token)) := by
    refine Tables.insertToken_eq_ok.2 ⟨isFree, ?_, rfl⟩
    rw [isMade]
    exact hasAccount
  have stored : Service.storeToken draw now tables accountId scope.lifetime scope =
      .ok (issued, tables.withTokenRow (Tables.rowOfToken issued.token)) :=
    Service.storeToken_eq_ok.2 ⟨isMade, inserted⟩
  refine ⟨progress.spent.used.write (tables.withTokenRow (Tables.rowOfToken issued.token)), ?_, ?_⟩
  · rw [Workflow.mint, Workflow.runFrom_tryCatch, Workflow.runFrom_issue, draws, stage.tables_eq,
      stage.now]
    dsimp only
    rw [stored, ← isMade]
    rfl
  · rw [moment_write]
    exact congrArg (List.drop 1) draws

namespace Service

open Workflow (runFrom_bind_eq_ok runFrom_lift_bind_eq_ok)

variable {scheme : PasswordScheme} {moment : Moment} {database : Database}
  {username password : String}

/-- A session is renewed if there are draws for its tokens. -/
theorem renewingSession_succeeds {progress : Progress} {now : Instant} {tables : Tables}
    {accountId : Int} (stage : progress.At database now (some tables))
    (hasAccount : tables.hasAccount accountId = true)
    (supplies : progress.moment.SuppliesSession tables) :
    ∃ session last, (renewingSession accountId).runFrom progress = (.ok session, last) := by
  obtain ⟨first, second, rest, draws, apart, isNew⟩ := supplies
  have removed := Workflow.runFrom_removeToken accountId .refresh progress
  have stage := stage.removeToken removed
  have removed' := Workflow.runFrom_removeToken accountId .access
    (progress.used.write (progress.tables.withoutToken accountId .refresh))
  have stage := stage.removeToken removed'
  have isOld {row : TokenRow} (isKept : row ∈
      ((tables.withoutToken accountId .refresh).withoutToken accountId .access).tokens) :
      row ∈ tables.tokens ∧ ¬(row.accountId = accountId ∧ row.scope = Scope.access.tag) ∧
        ¬(row.accountId = accountId ∧ row.scope = Scope.refresh.tag) := by
    rw [Tables.mem_withoutToken, Tables.mem_withoutToken] at isKept
    exact ⟨isKept.1.1, isKept.2, isKept.1.2⟩
  obtain ⟨between, minted, draws'⟩ := stage.mint_succeeds
    (by rw [Progress.moment_write, Progress.moment_used, Progress.moment_write,
      Progress.moment_used, draws])
    (fun row isKept => (isNew row (isOld isKept).1).1) (fun row isKept => (isOld isKept).2.1)
    hasAccount
  obtain ⟨mints, stage⟩ := stage.mint minted
  have apartScopes : Scope.access.tag ≠ Scope.refresh.tag := by decide
  obtain ⟨last, minted', -⟩ : ∃ last, (Workflow.mint accountId .refresh).runFrom between =
      (.ok (.ofDraw second now accountId Scope.refresh.lifetime .refresh), last) ∧
        last.moment.draws = rest := by
    refine stage.mint_succeeds draws' ?_ ?_ hasAccount
    · intro row isKept
      rcases Tables.mem_withToken.1 isKept with ⟨isKept, -⟩ | rfl
      · exact (isNew row (isOld isKept).1).2
      · exact apart
    · intro row isKept
      rcases Tables.mem_withToken.1 isKept with ⟨isKept, -⟩ | rfl
      · exact (isOld isKept).2.2
      · exact fun slot => apartScopes slot.2
  exact ⟨_, last, runFrom_bind_eq_ok.2 ⟨_, _, removed, runFrom_bind_eq_ok.2 ⟨_, _, removed',
    runFrom_bind_eq_ok.2 ⟨_, _, minted, runFrom_bind_eq_ok.2 ⟨_, _, minted', rfl⟩⟩⟩⟩⟩

/-- A login with the password of the account that has the name succeeds. -/
theorem login_succeeds {stored : Account} (isOpen : database.isOpen = true)
    (isAccepted : (Validation.loginReport username password).isAcceptable = true)
    (isNamed : database.tables.accountNamed? username = some stored)
    (isMatch : passwordMatches scheme stored password = true)
    (supplies : moment.SuppliesSession database.tables) :
    ∃ session, (login scheme moment database username password).result = .ok session := by
  have isConnected : database.connect = .ok database.tables :=
    Database.connect_eq_ok.2 ⟨isOpen, rfl⟩
  -- the store is used twice before the transaction is opened
  have connected : Workflow.connect.runFrom (.start moment database) =
      (.ok (), (Progress.start moment database).used) := by
    rw [Workflow.runFrom_connect, (Progress.at_start moment database).database, isConnected]
    rfl
  have looked := Workflow.runFrom_look (Progress.start moment database).used
  have begun : Workflow.begin.runFrom (Progress.start moment database).used.used =
      (.ok (), { (Progress.start moment database).used.used.used with
        work := some database.tables }) := by
    rw [Workflow.runFrom_begin, (Progress.at_start moment database).used.used.database,
      isConnected]
  obtain ⟨-, stage⟩ := (Progress.at_start moment database).used.used.begin begun
  have hasAccount := Tables.hasAccount_of_mem (List.mem_of_find?_eq_some isNamed)
  obtain ⟨session, last, renewed⟩ := renewingSession_succeeds stage hasAccount supplies
  have done : (loggingIn scheme username password).runFrom (.start moment database) =
      (.ok session, last.used.committed) := by
    refine runFrom_lift_bind_eq_ok.2 ⟨(), accept_eq_ok.2 isAccepted, ?_⟩
    refine runFrom_bind_eq_ok.2 ⟨_, _, connected, ?_⟩
    refine runFrom_bind_eq_ok.2 ⟨_, _, looked, ?_⟩
    refine runFrom_lift_bind_eq_ok.2 ⟨stored, found_eq_ok.2 isNamed, ?_⟩
    rw [if_pos isMatch]
    refine runFrom_bind_eq_ok.2 ⟨_, _, begun, ?_⟩
    exact runFrom_bind_eq_ok.2 ⟨_, _, renewed, rfl⟩
  refine ⟨session, ?_⟩
  rw [login, Outcome.ofWorkflow, done]

/-- A login with a name that nobody has, or with a password that does not match, fails with the
same fault and changes nothing. -/
theorem login_of_mismatch (isOpen : database.isOpen = true)
    (isAccepted : (Validation.loginReport username password).isAcceptable = true)
    (mismatch : ∀ stored, database.tables.accountNamed? username = some stored →
      passwordMatches scheme stored password = false) :
    login scheme moment database username password = ⟨.error .notFound, database, []⟩ := by
  have accepted : accept (Validation.loginReport username password) = .ok () :=
    accept_eq_ok.2 isAccepted
  have isConnected : database.connect = .ok database.tables :=
    Database.connect_eq_ok.2 ⟨isOpen, rfl⟩
  have failed : (loggingIn scheme username password).runFrom (.start moment database) =
      (.error .notFound, (Progress.start moment database).used.used) := by
    simp only [loggingIn, Workflow.runFrom_bind, Workflow.runFrom_lift, accepted,
      Workflow.runFrom_connect, (Progress.at_start moment database).database, isConnected,
      Except.map, Workflow.runFrom_look, Progress.tables_used, Progress.tables_start]
    cases isNamed : database.tables.accountNamed? username with
    | none => rfl
    | some stored =>
        simp only [found, mismatch stored isNamed]
        rfl
  rw [login, Outcome.ofWorkflow, failed]
  rfl

/-- What a login that succeeds tells. -/
theorem login_eq_ok {session : Session}
    (done : (login scheme moment database username password).result = .ok session) :
    (Validation.loginReport username password).isAcceptable = true ∧
      ∃ stored, database.tables.accountNamed? username = some stored ∧
        passwordMatches scheme stored password = true := by
  have answered : (perform scheme moment database (.login username password)).result =
      .ok (.session session) := except_map_eq_ok.2 ⟨session, done, rfl⟩
  obtain ⟨-, after, effect, -⟩ := effect_of_perform answered
  generalize (perform scheme moment database (.login username password)).letters = letters
    at effect
  cases effect with
  | login isAccepted isNamed isMatch => exact ⟨isAccepted, _, isNamed, isMatch⟩

end Service

end Gatehouse
