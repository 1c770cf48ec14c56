import Gatehouse.Http.Traffic
import Gatehouse.Proofs.Workflow.Secrecy

/-!
# Answers do not tell stored passwords

What is kept of a password cannot be learned over HTTP, beyond which candidates match it.  On two
databases that differ in stored passwords only, where the same candidates match the same accounts,
any requests at the same moments get the same responses and send the same letters, and after each of
them the databases still differ in this way only (`answers_do_not_tell_passwords`).

A response shows four fields of an account, none of them the password (`responseOfReply_alike`).
Copies of accounts with their passwords do pass through a request, in the identity of the caller and
in the change that is written back, so that both sides are carried along as accounts that are alike.
-/

namespace Gatehouse.Http

set_option autoImplicit false

variable {scheme : PasswordScheme} {former latter : Database}

/-! ## From requests to calls -/

theorem identify_alike (alike : former.Alike scheme latter) (now : Instant)
    (value : Option (List UInt8)) :
    ResultsAlike (Identity.Alike scheme) (identify now former value)
      (identify now latter value) := by
  cases value with
  | none => exact .ok .anonymous
  | some value =>
      simp only [identify]
      cases bearerToken? value with
      | none => exact .error _
      | some token =>
          have bearers := Service.authenticate_alike alike now token
          dsimp only
          generalize Service.authenticate now former token = result at bearers
          generalize Service.authenticate now latter token = result' at bearers
          cases bearers with
          | ok accounts => exact .ok (.known accounts)
          | error fault => exact .error _

theorem receivePermission_alike (alike : former.Alike scheme latter) {caller caller' : Identity}
    (callers : caller.Alike scheme caller') (required : List Permission) :
    receivePermission former caller required = receivePermission latter caller' required := by
  have permitted := Service.requirePermissions_alike alike callers required
  unfold receivePermission
  generalize Service.requirePermissions former caller required = result at permitted
  generalize Service.requirePermissions latter caller' required = result' at permitted
  cases permitted <;> rfl

/-- The same request stands for calls that are alike, or is turned away with the same response. -/
theorem callOf_alike (alike : former.Alike scheme latter) {caller caller' : Identity}
    (callers : caller.Alike scheme caller') (body : List UInt8) (route : Route) :
    ResultsAlike (Service.Call.Alike scheme) (callOf former caller body route)
      (callOf latter caller' body route) := by
  cases route with
  | register | activate | logIn | requestReset | setPassword | refresh =>
      apply ResultsAlike.bind_eq
      intro form
      apply ResultsAlike.ok
      constructor
  | logOut => exact .ok (.logout callers)
  | readAccount segment =>
      apply ResultsAlike.bind_eq
      intro username
      rw [receivePermission_alike alike callers]
      apply ResultsAlike.bind_eq
      intro _
      exact .ok (.getAccount callers username)
  | changeAccount segment =>
      apply ResultsAlike.bind_eq
      intro username
      apply ResultsAlike.bind_eq
      intro form
      rw [receivePermission_alike alike callers]
      apply ResultsAlike.bind_eq
      intro _
      exact .ok (.updateAccount callers username form.email form.password)
  | health => exact .error _

/-! ## From replies to responses -/

/-- A response does not show a password. -/
theorem responseOfReply_alike (route : Route) {reply reply' : Service.Reply}
    (alike : reply.Alike scheme reply') :
    responseOfReply route reply = responseOfReply route reply' := by
  cases alike with
  | registration alike => simp only [responseOfReply, alike.activationToken]
  | account alike =>
      cases route <;>
        simp only [responseOfReply, alike.id, alike.username, alike.email, alike.isActivated]
  | update alike =>
      simp only [responseOfReply, alike.account.id, alike.account.username, alike.account.email,
        alike.account.isActivated]
  | session session => rfl
  | done => rfl
  | token token => rfl
  | expiry expiry => rfl

theorem responseOfResult_alike (route : Route) {result result' : Except Fault Service.Reply}
    (alike : ResultsAlike (Service.Reply.Alike scheme) result result') :
    responseOfResult route result = responseOfResult route result' := by
  cases alike with
  | ok replies => exact responseOfReply_alike route replies
  | error fault => rfl

/-! ## Exchanges -/

/-- Two exchanges with the same response and the same letters, which leave databases that are
alike. -/
structure Exchange.Alike (scheme : PasswordScheme) (former latter : Exchange) : Prop where
  response : former.response = latter.response
  database : former.database.Alike scheme latter.database
  letters : former.letters = latter.letters

theorem Exchange.unchanged_alike (alike : former.Alike scheme latter) (response : Response) :
    (Exchange.unchanged former response).Alike scheme (.unchanged latter response) :=
  ⟨rfl, alike, rfl⟩

/-- The same change of the responses keeps exchanges alike. -/
theorem Exchange.Alike.dress {exchange exchange' : Exchange}
    (alike : exchange.Alike scheme exchange') (change : Response → Response) :
    Exchange.Alike scheme { exchange with response := change exchange.response }
      { exchange' with response := change exchange'.response } :=
  ⟨congrArg change alike.response, alike.database, alike.letters⟩

theorem serve_alike (alike : former.Alike scheme latter) (moment : Moment)
    {caller caller' : Identity} (callers : caller.Alike scheme caller') (route : Route)
    (body : List UInt8) :
    (serve scheme moment former caller route body).Alike scheme
      (serve scheme moment latter caller' route body) := by
  have asked := callOf_alike alike callers body route
  unfold serve
  generalize callOf former caller body route = received at asked
  generalize callOf latter caller' body route = received' at asked
  cases asked with
  | error response => exact Exchange.unchanged_alike alike response
  | ok calls =>
      have outcomes := Service.perform_alike alike moment calls
      exact ⟨responseOfResult_alike route outcomes.result, outcomes.database, outcomes.letters⟩

theorem answerAt_alike (alike : former.Alike scheme latter) (moment : Moment) (request : Request)
    (route : Route) :
    (answerAt scheme moment former request route).Alike scheme
      (answerAt scheme moment latter request route) := by
  have identified := identify_alike alike moment.now
    (if route.identifies then request.header? "authorization" else none)
  unfold answerAt
  apply Exchange.Alike.dress _ (decorate route request.method)
  generalize identify moment.now former _ = caller at identified
  generalize identify moment.now latter _ = caller' at identified
  cases identified with
  | error problem => exact Exchange.unchanged_alike alike problem.response
  | ok callers =>
      dsimp only
      split
      · exact serve_alike alike moment callers route request.body
      · exact Exchange.unchanged_alike alike (.bare 405)

/-- What is answered to a request for a head is alike if it is alike with its body. -/
theorem Exchange.Alike.head {exchange exchange' : Exchange}
    (alike : exchange.Alike scheme exchange') (method : String) :
    Exchange.Alike scheme
      (if method == "HEAD" then { exchange with response := exchange.response.withoutBody }
        else exchange)
      (if method == "HEAD" then { exchange' with response := exchange'.response.withoutBody }
        else exchange') := by
  split
  · exact alike.dress Response.withoutBody
  · exact alike

theorem answer_alike (alike : former.Alike scheme latter) (moment : Moment) (request : Request) :
    (answer scheme moment former request).Alike scheme (answer scheme moment latter request) := by
  unfold answer
  dsimp only
  cases Route.ofTarget? request.target with
  | none => exact (Exchange.unchanged_alike alike (.bare 404)).head request.method
  | some route => exact (answerAt_alike alike moment request route).head request.method

/-! ## Courses of requests -/

/-- The turns that requests lead to, one after the other. -/
def requestTurns (scheme : PasswordScheme) (database : Database)
    (requests : List (Moment × Request)) : List Turn :=
  turns scheme database (requests.map fun asked => (asked.1, .request asked.2))

/-- **Answers do not tell stored passwords.**  Take two databases that differ in stored passwords
only, where for every account the same candidates match.  Whatever is requested at whatever moments,
one request after the other, gets the same responses on both and sends the same letters, and after
each request the databases still differ in this way only. -/
theorem answers_do_not_tell_passwords (alike : former.Alike scheme latter)
    (requests : List (Moment × Request)) :
    List.Forall₂ (fun turn turn' => turn.returned = turn'.returned ∧
        turn.letters = turn'.letters ∧ turn.database.Alike scheme turn'.database)
      (requestTurns scheme former requests) (requestTurns scheme latter requests) := by
  induction requests generalizing former latter with
  | nil => exact .nil
  | cons asked rest ih =>
      obtain ⟨moment, request⟩ := asked
      have answers := answer_alike alike moment request
      refine .cons ⟨congrArg Return.response answers.response, answers.letters,
        answers.database⟩ ?_
      exact ih answers.database

/-- An account whose stored password cannot be read. -/
def sampleUnreadable : Account :=
  ⟨1, ⟨0⟩, "alice", "alice@example.com", "no password", true, 1⟩

/-- The same account with a stored password that can be read but lacks its digest. -/
def sampleUnmatched : Account :=
  { sampleUnreadable with passwordHash := "$argon2id$v=19$m=65536,t=3,p=1$AAAAAAAAAAAAAAAAAAAAAA" }

/-- A database with one account, and a token that sets its password anew. -/
def sampleKeeping (account : Account) : Database :=
  ⟨{ Tables.fresh with
      accounts := [account]
      tokens := [Tables.rowOfToken (IssuedToken.ofDraw (.replicate 16 0) ⟨0⟩ 1
        Scope.passwordReset.lifetime .passwordReset).token]
      lastAccountId := 1 }, true⟩

/-- A login with a password that nobody has, a new password, and a login with it. -/
def sampleAttempts : List (Moment × Request) :=
  let login : Request := ⟨"POST", "/v1/users/authenticate", [],
    Text.bytes "\x7b\"username\":\"alice\",\"password\":\"Abcdef1!\"\x7d"⟩
  let setting : Request := ⟨"PUT", "/v1/users/password/update", [],
    Text.bytes ("\x7b\"token\":\"" ++ Token.plaintextOf (.replicate 16 0)
      ++ "\",\"password\":\"Abcdef1!\"\x7d")⟩
  [(⟨⟨0⟩, []⟩, login), (⟨⟨0⟩, [.replicate 16 1]⟩, setting),
    (⟨⟨0⟩, [.replicate 16 2, .replicate 16 3]⟩, login)]

/-- Whether the stored password of an account cannot be read or does not match is not told. -/
theorem unreadable_password_is_not_told :
    PasswordScheme.argon2id.verify "Abcdef1!" sampleUnreadable.passwordHash ≠
        PasswordScheme.argon2id.verify "Abcdef1!" sampleUnmatched.passwordHash ∧
      List.Forall₂ (fun turn turn' => turn.returned = turn'.returned ∧
          turn.letters = turn'.letters ∧
            turn.database.Alike PasswordScheme.argon2id turn'.database)
        (requestTurns .argon2id (sampleKeeping sampleUnreadable) sampleAttempts)
        (requestTurns .argon2id (sampleKeeping sampleUnmatched) sampleAttempts) := by
  have unreadable (candidate : String) :
      PasswordScheme.argon2id.verify candidate sampleUnreadable.passwordHash =
        .error .invalidHash := by
    have notRead : PhcString.parse? sampleUnreadable.passwordHash = none := by decide +kernel
    simp only [PasswordScheme.argon2id, PasswordScheme.verifyPhc, notRead]
  have unmatched (candidate : String) :
      PasswordScheme.argon2id.verify candidate sampleUnmatched.passwordHash = .ok false := by
    obtain ⟨parts, isRead, noDigest⟩ : ∃ parts,
        PhcString.parse? sampleUnmatched.passwordHash = some parts ∧ parts.digest = none := by
      decide +kernel
    simp only [PasswordScheme.argon2id, PasswordScheme.verifyPhc, isRead, noDigest]
    cases parts.salt <;> rfl
  have accounts : sampleUnreadable.Alike PasswordScheme.argon2id sampleUnmatched := by
    refine ⟨rfl, rfl, rfl, rfl, rfl, rfl, fun candidate => ?_⟩
    rw [unreadable, unmatched]
    simp
  have databases : (sampleKeeping sampleUnreadable).Alike PasswordScheme.argon2id
      (sampleKeeping sampleUnmatched) :=
    ⟨⟨.cons accounts .nil, rfl, rfl, rfl, rfl⟩, rfl⟩
  refine ⟨?_, answers_do_not_tell_passwords databases sampleAttempts⟩
  rw [unreadable, unmatched]
  simp

end Gatehouse.Http
