import Gatehouse.Proofs.History.AccountChanges
import Gatehouse.Proofs.History.Activation
import Gatehouse.Proofs.Http.Bearers
import Gatehouse.Proofs.Http.Problems

/-!
# Who may read and change an account over HTTP

On the two routes that name an account, what a request is answered with depends on the token that
it bears, on what is stored for the holder of the token, and on the name in the path, in a fixed
order (`AnswersReading`, `AnswersChange`).  A request without a token that is good is asked for one;
a holder who is not activated, lacks a permission or has another name is turned away; and only then
does it matter what the request asks for.  A body that cannot be read comes before all that but a
header that bears no good token.

This is so in every state that the service and its store can come to with the database open
(`Run.account_routes_answer_by_authority`).
-/

namespace Gatehouse.Http

set_option autoImplicit false

/-! ## Authority -/

/-- Whether a request bears a live access token of an account. -/
def Request.BornBy (request : Request) (now : Instant) (tables : Tables) (owner : Account) : Prop :=
  ∃ value, request.header? "authorization" = some value ∧ Bears tables now value owner

/-- Whether an account is the one with a name, is activated and holds permissions. -/
structure MayUse (tables : Tables) (required : List Permission) (username : String)
    (owner : Account) : Prop where
  isActivated : owner.isActivated = true
  holds : ∀ permission ∈ required, (owner.id, permission.code) ∈ tables.grants
  isOwn : owner.username = username

/-- Whether a response asks for a token. -/
def Response.IsChallenge (response : Response) : Prop :=
  response.status = 401 ∧ response.header? "www-authenticate" = some "Bearer"

/-- Whether a response shows an account.  Its body is the text of an object with the id, the name,
the address and the activation, and is read as that object, which takes an id of 64 bits at most. -/
structure Response.Shows (response : Response) (account : Account) : Prop where
  status : response.status = 200
  body : response.body = (Json.object [("user", .object
    [("id", .ofInt account.id), ("username", .string account.username),
      ("email", .string account.email), ("activated", .boolean account.isActivated)])]).text
  isRead : account.id.natAbs < UInt64.size →
    Json.read (Text.bytes response.body) = .ok (.object [("user", .object
      [("id", .ofInt account.id), ("username", .string account.username),
        ("email", .string account.email), ("activated", .boolean account.isActivated)])])

/-- How a request to read an account is answered. -/
structure AnswersReading (now : Instant) (tables : Tables) (request : Request) (username : String)
    (response : Response) : Prop where
  challenged : (∀ owner, ¬request.BornBy now tables owner) → response.IsChallenge
  forbidden : ∀ owner, request.BornBy now tables owner →
    ¬MayUse tables [.readUser] username owner → response.status = 403
  shown : ∀ owner, request.BornBy now tables owner →
    MayUse tables [.readUser] username owner → response.Shows owner

/-- How a request to change an account is answered.  The last two cases need a random source that
gives a salt, if a password is to be set, and a token, if the address is new. -/
structure AnswersChange (scheme : PasswordScheme) (moment : Moment) (tables : Tables)
    (request : Request) (username : String) (exchange : Exchange) : Prop where
  /-- There is a header that bears no good token. -/
  strange : request.header? "authorization" ≠ none →
    (∀ owner, ¬request.BornBy moment.now tables owner) → exchange.response.IsChallenge
  /-- The body is too long, or cannot be read as the form. -/
  unreadable : request.header? "authorization" = none ∨
      (∃ owner, request.BornBy moment.now tables owner) →
    (bodyLimit < request.body.length ∨ ∃ fault, accountForm.read request.body = .error fault) →
      exchange.response.status = 400
  anonymous : ∀ form, request.body.length ≤ bodyLimit →
    accountForm.read request.body = .ok form → request.header? "authorization" = none →
      exchange.response.IsChallenge
  forbidden : ∀ form owner, request.body.length ≤ bodyLimit →
    accountForm.read request.body = .ok form → request.BornBy moment.now tables owner →
      ¬MayUse tables [.writeUser, .readUser] username owner → exchange.response.status = 403
  unacceptable : ∀ form owner, request.body.length ≤ bodyLimit →
    accountForm.read request.body = .ok form → request.BornBy moment.now tables owner →
      MayUse tables [.writeUser, .readUser] username owner →
        ¬Service.IsAcceptable form.email form.password → exchange.response.status = 422
  /-- Another account has the address that is asked for. -/
  taken : ∀ form owner later, request.body.length ≤ bodyLimit →
    accountForm.read request.body = .ok form → request.BornBy moment.now tables owner →
      MayUse tables [.writeUser, .readUser] username owner →
        Service.IsAcceptable form.email form.password → moment.Salts scheme form.password later →
          tables.AddressIsTaken (Service.withAddress owner form.email) →
            exchange.response.status = 422
  /-- The account is shown as it is stored then. -/
  changed : ∀ form owner later, request.body.length ≤ bodyLimit →
    accountForm.read request.body = .ok form → request.BornBy moment.now tables owner →
      MayUse tables [.writeUser, .readUser] username owner →
        Service.IsAcceptable form.email form.password → moment.Salts scheme form.password later →
          ¬tables.AddressIsTaken (Service.withAddress owner form.email) →
            (Service.isNewAddress owner form.email = true → tables.HasDraw later) →
              ∃ made, Service.IsChangeOf made owner form.email ∧
                exchange.database.tables.account? owner.id = some made ∧
                  exchange.response.Shows made

variable {scheme : PasswordScheme} {moment : Moment} {now : Instant} {database : Database}
  {request : Request} {route : Route} {owner : Account} {username : String}

/-! ## Responses -/

@[simp] theorem status_withHeader (response : Response) (name value : String) :
    (response.withHeader name value).status = response.status := rfl

theorem shows_of_content {response : Response} {account : Account} (isOk : response.status = 200)
    (isContent : response.body =
      (accountContent account.id account.username account.email account.isActivated).text) :
    response.Shows account := by
  refine ⟨isOk, isContent, fun small => ?_⟩
  rw [isContent]
  exact Json.read_text_printed (isWithin_accountContent small _ _ _ 125)

theorem isChallenge_invalidToken :
    (Problem.invalidToken.response.withHeader "vary" "Authorization").IsChallenge :=
  ⟨rfl, rfl⟩

/-- A request with the method of its route is served once it is known who makes it. -/
theorem answer_of_resolves {identity : Identity}
    (isRoute : Route.ofTarget? request.target = some route)
    (takes : route.takes request.method = true) (notHead : request.method ≠ "HEAD")
    (identifies : route.identifies = true)
    (resolves : Resolves moment.now database (request.header? "authorization") identity) :
    answer scheme moment database request =
      { serve scheme moment database identity route request.body with
        response := (serve scheme moment database identity route
          request.body).response.withHeader "vary" "Authorization" } := by
  simp only [answer, isRoute, answerAt, decorate, takes, identifies, if_true, beq_iff_eq, notHead,
    if_false, identify_eq_ok.2 resolves]

theorem answer_of_stranger (isOpen : database.isOpen = true) (sound : database.tables.Sound)
    (isRoute : Route.ofTarget? request.target = some route)
    (takes : route.takes request.method = true) (notHead : request.method ≠ "HEAD")
    (identifies : route.identifies = true) (isGiven : request.header? "authorization" ≠ none)
    (noOwner : ∀ owner, ¬request.BornBy moment.now database.tables owner) :
    (answer scheme moment database request).response.IsChallenge := by
  obtain ⟨value, isValue⟩ := Option.ne_none_iff_exists'.1 isGiven
  have isStrange : identify moment.now database (some value) = .error .invalidToken :=
    identify_of_not_bears isOpen sound fun owner bears => noOwner owner ⟨value, isValue, bears⟩
  simp only [answer, isRoute, answerAt, decorate, takes, identifies, if_true, beq_iff_eq, notHead,
    if_false, isValue, isStrange]
  exact isChallenge_invalidToken

theorem Request.BornBy.resolves (isOpen : database.isOpen = true) (sound : database.tables.Sound)
    (isBorn : request.BornBy now database.tables owner) :
    Resolves now database (request.header? "authorization") (.known owner) := by
  obtain ⟨value, isValue, bears⟩ := isBorn
  rw [isValue]
  exact (resolves_known_iff isOpen sound).2 ⟨owner, rfl, bears⟩

theorem Request.BornBy.isStored (isBorn : request.BornBy now database.tables owner) :
    owner ∈ database.tables.accounts := by
  obtain ⟨value, -, token, -, -, -, isStored, -⟩ := isBorn
  exact isStored

/-! ## Permissions -/

theorem requirePermissions_of_holds (isOpen : database.isOpen = true) {required : List Permission}
    (isActivated : owner.isActivated = true)
    (holds : ∀ permission ∈ required, (owner.id, permission.code) ∈ database.tables.grants) :
    Service.requirePermissions database (.known owner) required = .ok owner := by
  have included :
      required.all (database.tables.permissionsOf owner.id).includes = true := by
    refine List.all_eq_true.2 fun permission isRequired => ?_
    exact Tables.includes_permissionsOf.2 (Tables.mem_codes_holding.2 (holds permission isRequired))
  simp only [Service.requirePermissions_eq, Service.except_bind_eq_ok]
  refine ⟨owner, rfl, ?_⟩
  rw [if_pos isActivated, Service.except_bind_eq_ok]
  exact ⟨_, Database.connect_eq_ok.2 ⟨isOpen, rfl⟩, by rw [if_pos included]; rfl⟩

theorem requirePermissions_of_lacks (isOpen : database.isOpen = true) {required : List Permission}
    (lacks : ¬(owner.isActivated = true ∧
      ∀ permission ∈ required, (owner.id, permission.code) ∈ database.tables.grants)) :
    ∃ fault, Service.requirePermissions database (.known owner) required = .error fault ∧
      (Problem.ofFault fault).kind = .forbidden := by
  have connected : database.connect = .ok database.tables :=
    Database.connect_eq_ok.2 ⟨isOpen, rfl⟩
  cases isActivated : owner.isActivated with
  | false =>
      refine ⟨Identity.notActivated, ?_, rfl⟩
      simp only [Service.requirePermissions_eq, Identity.require, bind, Except.bind, isActivated]
      rfl
  | true =>
      have excluded : ¬required.all (database.tables.permissionsOf owner.id).includes = true := by
        intro included
        refine lacks ⟨isActivated, fun permission isRequired => ?_⟩
        exact Tables.mem_codes_holding.1 (Tables.includes_permissionsOf.1
          (List.all_eq_true.1 included permission isRequired))
      refine ⟨Identity.notPermitted, ?_, rfl⟩
      simp only [Service.requirePermissions_eq, Identity.require, bind, Except.bind, isActivated,
        if_true, connected, if_neg excluded]

/-! ## Reading -/

theorem serve_of_error {identity : Identity} {body : List UInt8} {response : Response}
    (refused : callOf database identity body route = .error response) :
    serve scheme moment database identity route body = .unchanged database response := by
  rw [serve, refused]

theorem serve_of_asks {identity : Identity} {body : List UInt8} {call : Service.Call}
    (asks : route.Asks identity body call) (permits : route.Permits database identity) :
    serve scheme moment database identity route body =
      ⟨responseOfResult route (Service.perform scheme moment database call).result,
        (Service.perform scheme moment database call).database,
        (Service.perform scheme moment database call).letters⟩ := by
  rw [serve, callOf_eq_ok.2 ⟨asks, permits⟩]

variable {segment : String} {identity : Identity} {fault : Fault} {body : List UInt8}

/-- A name that is not the caller's is answered like a permission that is missing. -/
theorem owner_of_other (isOther : owner.username ≠ username) :
    (Identity.known owner).owner username = .error Identity.notPermitted := by
  simp [Identity.owner, Identity.require, isOther]

theorem callOf_readAccount_of_error (isNamed : Text.percentDecoded? segment = some username)
    (refused : Service.requirePermissions database identity [.readUser] = .error fault) :
    callOf database identity body (.readAccount segment) =
      .error (Problem.ofFault fault).response := by
  simp only [callOf, receiveUsername, isNamed, receivePermission, refused, bind, Except.bind]

/-- Reading the account with a name by who holds the permission. -/
theorem serve_readAccount (isNamed : Text.percentDecoded? segment = some username)
    (permitted : Service.requirePermissions database (.known owner) [.readUser] = .ok owner) :
    (serve scheme moment database (.known owner) (.readAccount segment) body).response =
      responseOfResult (.readAccount segment)
        ((Service.getAccount database (.known owner) username).map .account) := by
  have permits : (Route.readAccount segment).Permits database (.known owner) := by
    intro required isRequired
    cases isRequired
    exact ⟨owner, permitted⟩
  rw [serve_of_asks (.readAccount isNamed) permits, Service.perform_getAccount]
  rfl

theorem getAccount_of_owner (isOpen : database.isOpen = true) (sound : database.tables.Sound)
    (isStored : owner ∈ database.tables.accounts) :
    Service.getAccount database (.known owner) owner.username = .ok owner := by
  rw [Service.getAccount_eq]
  refine Service.except_bind_eq_ok.2 ⟨owner, Identity.owner_eq_ok.2 ⟨rfl, rfl⟩, ?_⟩
  refine Service.except_bind_eq_ok.2 ⟨_, Database.connect_eq_ok.2 ⟨isOpen, rfl⟩, ?_⟩
  exact Service.found_eq_ok.2 (sound.account?_eq_some.2 ⟨isStored, rfl⟩)

/-- What a request to read an account is answered with is settled by who bears a token. -/
theorem answersReading (scheme : PasswordScheme) (moment : Moment)
    (isOpen : database.isOpen = true) (sound : database.tables.Sound)
    (isGet : request.method = "GET")
    (isRoute : Route.ofTarget? request.target = some (.readAccount segment))
    (isNamed : Text.percentDecoded? segment = some username) :
    AnswersReading moment.now database.tables request username
      (answer scheme moment database request).response := by
  have takes : (Route.readAccount segment).takes request.method = true := by
    rw [isGet]
    rfl
  have notHead : request.method ≠ "HEAD" := by
    rw [isGet]
    decide
  have served (identity : Identity)
      (resolves : Resolves moment.now database (request.header? "authorization") identity) :
      (answer scheme moment database request).response =
        (serve scheme moment database identity (.readAccount segment)
          request.body).response.withHeader "vary" "Authorization" := by
    rw [answer_of_resolves isRoute takes notHead rfl resolves]
  constructor
  case challenged =>
    intro noOwner
    cases isGiven : request.header? "authorization" with
    | some value =>
        exact answer_of_stranger isOpen sound isRoute takes notHead rfl (by simp [isGiven]) noOwner
    | none =>
        have refused : Service.requirePermissions database .anonymous [.readUser] =
            .error .unauthenticated := rfl
        rw [served .anonymous (by rw [isGiven]; exact .absent),
          serve_of_error (callOf_readAccount_of_error isNamed refused)]
        exact isChallenge_invalidToken
  case forbidden =>
    intro owner isBorn mayNot
    rw [served _ (isBorn.resolves isOpen sound), status_withHeader]
    by_cases holds : owner.isActivated = true ∧ ∀ permission ∈ [Permission.readUser],
        (owner.id, permission.code) ∈ database.tables.grants
    · have isOther : owner.username ≠ username := fun isOwn =>
        mayNot ⟨holds.1, holds.2, isOwn⟩
      have refused : Service.getAccount database (.known owner) username =
          .error Identity.notPermitted := by
        rw [Service.getAccount_eq, owner_of_other isOther]
        rfl
      rw [serve_readAccount isNamed (requirePermissions_of_holds isOpen holds.1 holds.2), refused]
      rfl
    · obtain ⟨fault, refused, isForbidden⟩ := requirePermissions_of_lacks isOpen holds
      rw [serve_of_error (callOf_readAccount_of_error isNamed refused), Exchange.unchanged,
        status_problem, isForbidden]
      rfl
  case shown =>
    rintro owner isBorn ⟨isActivated, holds, rfl⟩
    have permitted := requirePermissions_of_holds isOpen isActivated holds
    rw [served _ (isBorn.resolves isOpen sound), serve_readAccount isNamed permitted,
      getAccount_of_owner isOpen sound isBorn.isStored]
    exact shows_of_content rfl rfl

/-! ## Changing -/

theorem receive_eq_ok {α : Type} {form : Form α} {value : α} :
    form.receive body = .ok value ↔ body.length ≤ bodyLimit ∧ form.read body = .ok value := by
  unfold Form.receive
  split
  next isLong => simp [Nat.not_le.2 isLong]
  next isShort => simp [Nat.not_lt.1 isShort]

theorem receive_eq_error {α : Type} {form : Form α}
    (isRefused : bodyLimit < body.length ∨ ∃ fault, form.read body = .error fault) :
    ∃ fault, form.receive body = .error fault := by
  unfold Form.receive
  split
  next => exact ⟨_, rfl⟩
  next isShort => exact isRefused.resolve_left isShort

variable {form : AccountForm}

theorem callOf_changeAccount_of_unreadable {fault : BodyFault}
    (isNamed : Text.percentDecoded? segment = some username)
    (refused : accountForm.receive body = .error fault) :
    callOf database identity body (.changeAccount segment) =
      .error (Problem.plain .badRequest fault.message).response := by
  simp only [callOf, receiveUsername, isNamed, receiveForm, refused, bind, Except.bind]

theorem callOf_changeAccount_of_error (isNamed : Text.percentDecoded? segment = some username)
    (isReceived : accountForm.receive body = .ok form)
    (refused : Service.requirePermissions database identity [.writeUser, .readUser] =
      .error fault) :
    callOf database identity body (.changeAccount segment) =
      .error (Problem.ofFault fault).response := by
  simp only [callOf, receiveUsername, isNamed, receiveForm, isReceived, receivePermission, refused,
    bind, Except.bind]

/-- The change of the account with a name by who holds the permissions. -/
theorem serve_changeAccount (isNamed : Text.percentDecoded? segment = some username)
    (isReceived : accountForm.receive body = .ok form)
    (permitted : Service.requirePermissions database (.known owner) [.writeUser, .readUser] =
      .ok owner) :
    serve scheme moment database (.known owner) (.changeAccount segment) body =
      let outcome := Service.updateAccount scheme moment database (.known owner) username form.email
        form.password
      ⟨responseOfResult (.changeAccount segment) (outcome.result.map .update), outcome.database,
        outcome.letters⟩ := by
  have permits : (Route.changeAccount segment).Permits database (.known owner) := by
    intro required isRequired
    cases isRequired
    exact ⟨owner, permitted⟩
  rw [serve_of_asks (.changeAccount isNamed isReceived) permits]
  rfl

/-- What a request to change an account is answered with is settled by who bears a token, and then
by what is asked for. -/
theorem answersChange (scheme : PasswordScheme) (moment : Moment)
    (isOpen : database.isOpen = true) (sound : database.tables.Sound)
    (isPut : request.method = "PUT")
    (isRoute : Route.ofTarget? request.target = some (.changeAccount segment))
    (isNamed : Text.percentDecoded? segment = some username) :
    AnswersChange scheme moment database.tables request username
      (answer scheme moment database request) := by
  have takes : (Route.changeAccount segment).takes request.method = true := by
    rw [isPut]
    rfl
  have notHead : request.method ≠ "HEAD" := by
    rw [isPut]
    decide
  have served (identity : Identity)
      (resolves : Resolves moment.now database (request.header? "authorization") identity) :
      answer scheme moment database request =
        { serve scheme moment database identity (.changeAccount segment) request.body with
          response := (serve scheme moment database identity (.changeAccount segment)
            request.body).response.withHeader "vary" "Authorization" } :=
    answer_of_resolves isRoute takes notHead rfl resolves
  -- a caller who may use the account is answered by what the change leads to
  have decided {form : AccountForm} {owner : Account} (isShort : request.body.length ≤ bodyLimit)
      (isRead : accountForm.read request.body = .ok form)
      (isBorn : request.BornBy moment.now database.tables owner)
      (may : MayUse database.tables [.writeUser, .readUser] username owner) :
      let outcome := Service.updateAccount scheme moment database (.known owner) owner.username
        form.email form.password
      answer scheme moment database request =
        ⟨(responseOfResult (.changeAccount segment) (outcome.result.map .update)).withHeader "vary"
          "Authorization", outcome.database, outcome.letters⟩ := by
    obtain ⟨isActivated, holds, rfl⟩ := may
    rw [served _ (isBorn.resolves isOpen sound), serve_changeAccount isNamed
      (receive_eq_ok.2 ⟨isShort, isRead⟩) (requirePermissions_of_holds isOpen isActivated holds)]
  constructor
  case strange => exact answer_of_stranger isOpen sound isRoute takes notHead rfl
  case unreadable =>
    intro isKnown isRefused
    obtain ⟨fault, refused⟩ := receive_eq_error isRefused
    obtain ⟨identity, resolves⟩ : ∃ identity,
        Resolves moment.now database (request.header? "authorization") identity := by
      rcases isKnown with isAbsent | ⟨owner, isBorn⟩
      · exact ⟨.anonymous, by rw [isAbsent]; exact .absent⟩
      · exact ⟨_, isBorn.resolves isOpen sound⟩
    rw [served identity resolves,
      serve_of_error (callOf_changeAccount_of_unreadable isNamed refused)]
    exact status_problem _
  case anonymous =>
    intro form isShort isRead isAbsent
    have refused : Service.requirePermissions database .anonymous [.writeUser, .readUser] =
        .error .unauthenticated := rfl
    rw [served .anonymous (by rw [isAbsent]; exact .absent), serve_of_error
      (callOf_changeAccount_of_error isNamed (receive_eq_ok.2 ⟨isShort, isRead⟩) refused)]
    exact isChallenge_invalidToken
  case forbidden =>
    intro form owner isShort isRead isBorn mayNot
    have isReceived := receive_eq_ok.2 ⟨isShort, isRead⟩
    rw [served _ (isBorn.resolves isOpen sound)]
    by_cases holds : owner.isActivated = true ∧ ∀ permission ∈ [Permission.writeUser, .readUser],
        (owner.id, permission.code) ∈ database.tables.grants
    · have isOther : owner.username ≠ username := fun isOwn =>
        mayNot ⟨holds.1, holds.2, isOwn⟩
      rw [serve_changeAccount isNamed isReceived
        (requirePermissions_of_holds isOpen holds.1 holds.2)]
      dsimp only
      rw [Service.updateAccount_of_not_owner (owner_of_other isOther)]
      rfl
    · obtain ⟨fault, refused, isForbidden⟩ := requirePermissions_of_lacks isOpen holds
      rw [serve_of_error (callOf_changeAccount_of_error isNamed isReceived refused),
        Exchange.unchanged]
      exact (status_problem _).trans (congrArg ProblemKind.status isForbidden)
  case unacceptable =>
    intro form owner isShort isRead isBorn may isRefused
    rw [← Service.isAcceptable_updateReport, Bool.not_eq_true] at isRefused
    rw [decided isShort isRead isBorn may, Service.updateAccount_of_unacceptable isRefused]
    rfl
  case taken =>
    intro form owner later isShort isRead isBorn may isAcceptable salts isTaken
    have isAccepted := Service.isAcceptable_updateReport.2 isAcceptable
    rw [decided isShort isRead isBorn may,
      Service.updateAccount_of_taken isOpen isAccepted salts isBorn.isStored isTaken]
    rfl
  case changed =>
    intro form owner later isShort isRead isBorn may isAcceptable salts isFree hasDraw
    have isAccepted := Service.isAcceptable_updateReport.2 isAcceptable
    obtain ⟨made, done⟩ := Service.updateAccount_succeeds isOpen isAccepted salts
      (fun changed => Service.accepts_of_stored sound isBorn.isStored isFree) hasDraw
    obtain ⟨isChange, isKept⟩ := Service.updateAccount_stores sound isBorn.isStored done
    rw [decided isShort isRead isBorn may, done]
    exact ⟨made.account, isChange, isKept, shows_of_content rfl rfl⟩

end Gatehouse.Http

/-! ## Runs -/

namespace Gatehouse

open Http

variable {scheme : PasswordScheme} {database : Database}

/-- **Who may read and change an account over HTTP**: in every state that the service and its store
come to as long as nobody closes the database, a request to read or to change an account is answered
by authority, in the fixed order. -/
theorem Run.account_routes_answer_by_authority {past : History scheme}
    (run : Run scheme History.AdmitsAllButClosing past database) (moment : Moment)
    (request : Request) (segment username : String)
    (isNamed : Text.percentDecoded? segment = some username) :
    (request.method = "GET" → Route.ofTarget? request.target = some (.readAccount segment) →
      AnswersReading moment.now database.tables request username
        (answer scheme moment database request).response) ∧
    (request.method = "PUT" → Route.ofTarget? request.target = some (.changeAccount segment) →
      AnswersChange scheme moment database.tables request username
        (answer scheme moment database request)) := by
  have isOpen : database.isOpen = true := run.isOpen_of_admits fun _ _ admitted => admitted
  constructor
  · intro isGet isRoute
    exact answersReading scheme moment isOpen run.sound isGet isRoute isNamed
  · intro isPut isRoute
    exact answersChange scheme moment isOpen run.sound isPut isRoute isNamed

/-- The holder of the first account is given an access token. -/
def sampleAdmission : Event sampleScheme :=
  ⟨⟨⟨0⟩, [.replicate 16 1]⟩, .createToken 1 Scope.access.lifetime .access, sampleActivation.after⟩

/-- The access token of the first account. -/
def sampleBearer : String :=
  Token.plaintextOf (.replicate 16 1)

/-- A request by the holder of the first account to read it. -/
def sampleReading : Request :=
  ⟨"GET", "/v1/users/account/alice", [("Authorization", bearerValue sampleBearer)], []⟩

/-- Who has registered and activated an account may read it with an access token. -/
theorem holder_is_shown_account :
    ∃ stored ∈ sampleAdmission.after.tables.accounts, stored.username = "alice" ∧
      (answer sampleScheme ⟨⟨0⟩, []⟩ sampleAdmission.after sampleReading).response.Shows
        stored := by
  have run : Run sampleScheme History.AdmitsAllButClosing
      (([sampleRegistration] ++ [sampleActivation]) ++ [sampleAdmission])
      sampleAdmission.after := by
    refine .step (run_sampleActivation.mono ?_) _ _ nofun
    rintro _ _ admitted rfl
    exact admitted
  obtain ⟨stored, isStored, isFirst, isNamed, isActivated⟩ :
      ∃ stored ∈ sampleAdmission.after.tables.accounts, stored.id = 1 ∧
        stored.username = "alice" ∧ stored.isActivated = true := by
    decide +kernel
  obtain ⟨row, isKept, sameDigest, sameScope, isGood, owner⟩ :
      ∃ row ∈ sampleAdmission.after.tables.tokens, row.digest = Token.digestOf sampleBearer ∧
        row.scope = Scope.access.tag ∧ 0 < row.expiry ∧ row.accountId = 1 := by
    decide +kernel
  have isBorn : sampleReading.BornBy ⟨0⟩ sampleAdmission.after.tables stored := by
    have shows : sampleBearer.toList.all isBearerChar = true := by decide +kernel
    exact ⟨bearerValue sampleBearer, by decide +kernel, sampleBearer, rfl, by decide +kernel,
      List.all_eq_true.1 shows, isStored, row, isKept, sameDigest, sameScope, isGood,
      owner.trans isFirst.symm⟩
  have may : MayUse sampleAdmission.after.tables [.readUser] "alice" stored := by
    refine ⟨isActivated, fun permission isRequired => ?_, isNamed⟩
    rw [List.mem_singleton.1 isRequired, isFirst]
    decide +kernel
  have answers := (Run.account_routes_answer_by_authority run ⟨⟨0⟩, []⟩ sampleReading "alice"
    "alice" (by decide +kernel)).1 rfl (by decide +kernel)
  exact ⟨stored, isStored, isNamed, answers.shown stored isBorn may⟩

end Gatehouse
