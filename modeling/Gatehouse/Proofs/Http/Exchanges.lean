import Gatehouse.Http.Router
import Gatehouse.Proofs.Workflow.Rollback
import Gatehouse.Proofs.Workflow.Stages

/-!
# What a request does

`Request.Calls` says which call of the service a request stands for: its route takes its method,
its `Authorization` header tells who makes it, its path and its body fill in what the route asks
for, and the caller holds the permissions that the route requires.  It is told apart from the
router, which finds all this out step by step and may turn a request away at each of them.

The router adds nothing of its own (`request_has_effect_of_its_call`): what a request leaves behind
is what its call leaves behind, and nothing at all if it stands for none.  A response of success
means that the call was made and went well, and any other response that nothing has changed.
-/

namespace Gatehouse.Http

set_option autoImplicit false

variable {scheme : PasswordScheme} {moment : Moment} {now : Instant} {database : Database}

/-! ## The call that a request stands for -/

/-- Who makes a request: nobody in particular without an `Authorization` header, and otherwise the
account whose access token the header carries. -/
inductive Resolves (now : Instant) (database : Database) : Option (List UInt8) → Identity → Prop
  | absent : Resolves now database none .anonymous
  | bearer {value : List UInt8} {token : String} {account : Account}
      (carries : bearerToken? value = some token)
      (holds : Service.authenticate now database token = .ok account) :
      Resolves now database (some value) (.known account)

/-- The permissions that a route requires of the caller, if it requires any. -/
def Route.required? : Route → Option (List Permission)
  | .readAccount _ => some [.readUser]
  | .changeAccount _ => some [.writeUser, .readUser]
  | _ => none

/-- What each route asks the service for, with what the caller has handed in. -/
inductive Route.Asks (identity : Identity) (body : List UInt8) : Route → Service.Call → Prop
  | register {form : RegistrationForm} (isReceived : registrationForm.receive body = .ok form) :
      Asks identity body .register (.register form.username form.email form.password)
  | activate {form : TokenForm} (isReceived : tokenForm.receive body = .ok form) :
      Asks identity body .activate (.activate form.token)
  | logIn {form : CredentialsForm} (isReceived : credentialsForm.receive body = .ok form) :
      Asks identity body .logIn (.login form.username form.password)
  | logOut : Asks identity body .logOut (.logout identity)
  | requestReset {form : ResetForm} (isReceived : resetForm.receive body = .ok form) :
      Asks identity body .requestReset (.requestPasswordReset form.email)
  | setPassword {form : PasswordForm} (isReceived : passwordForm.receive body = .ok form) :
      Asks identity body .setPassword (.updatePassword form.token form.password)
  | readAccount {segment username : String}
      (isNamed : Text.percentDecoded? segment = some username) :
      Asks identity body (.readAccount segment) (.getAccount identity username)
  | changeAccount {segment username : String} {form : AccountForm}
      (isNamed : Text.percentDecoded? segment = some username)
      (isReceived : accountForm.receive body = .ok form) :
      Asks identity body (.changeAccount segment)
        (.updateAccount identity username form.email form.password)
  | refresh {form : TokenForm} (isReceived : tokenForm.receive body = .ok form) :
      Asks identity body .refresh (.refresh form.token)

/-- Whether a caller holds the permissions that a route requires. -/
def Route.Permits (route : Route) (database : Database) (identity : Identity) : Prop :=
  ∀ required ∈ route.required?, ∃ account,
    Service.requirePermissions database identity required = .ok account

/-- The value that tells a route who makes a request. -/
def Request.authorization (request : Request) (route : Route) : Option (List UInt8) :=
  if route.identifies then request.header? "authorization" else none

/-- Whether a request stands for a call. -/
def Request.Calls (request : Request) (now : Instant) (database : Database)
    (call : Service.Call) : Prop :=
  ∃ route identity, Route.ofTarget? request.target = some route ∧
    route.takes request.method = true ∧
    Resolves now database (request.authorization route) identity ∧
    route.Asks identity request.body call ∧ route.Permits database identity

/-! ## Steps that succeed -/

theorem identify_eq_ok {value : Option (List UInt8)} {identity : Identity} :
    identify now database value = .ok identity ↔ Resolves now database value identity := by
  constructor
  · intro isKnown
    cases value with
    | none =>
        cases isKnown
        exact .absent
    | some value =>
        cases carries : bearerToken? value with
        | none => simp [identify, carries] at isKnown
        | some token =>
            cases holds : Service.authenticate now database token with
            | error fault => simp [identify, carries, holds] at isKnown
            | ok account =>
                simp only [identify, carries, holds] at isKnown
                cases isKnown
                exact .bearer carries holds
  · rintro (_ | ⟨carries, holds⟩)
    · rfl
    · simp only [identify, carries, holds]

theorem receiveForm_eq_ok {α : Type} {form : Form α} {body : List UInt8} {value : α} :
    receiveForm form body = .ok value ↔ form.receive body = .ok value := by
  unfold receiveForm
  cases form.receive body <;> simp

theorem receiveUsername_eq_ok {segment username : String} :
    receiveUsername segment = .ok username ↔ Text.percentDecoded? segment = some username := by
  unfold receiveUsername
  cases Text.percentDecoded? segment <;> simp

theorem receivePermission_eq_ok {identity : Identity} {required : List Permission} {done : Unit} :
    receivePermission database identity required = .ok done ↔
      ∃ account, Service.requirePermissions database identity required = .ok account := by
  unfold receivePermission
  cases Service.requirePermissions database identity required <;> simp

/-- The router makes the call that the route asks for, once the caller is permitted to. -/
theorem callOf_eq_ok {identity : Identity} {body : List UInt8} {route : Route}
    {call : Service.Call} :
    callOf database identity body route = .ok call ↔
      route.Asks identity body call ∧ route.Permits database identity := by
  have permitted {route : Route} (isFree : route.required? = none) :
      route.Permits database identity := by
    intro required isRequired
    rw [isFree] at isRequired
    cases isRequired
  have permits (route : Route) {required : List Permission}
      (isRequired : route.required? = some required) :
      route.Permits database identity ↔
        ∃ account, Service.requirePermissions database identity required = .ok account := by
    simp only [Route.Permits, isRequired, Option.mem_some_iff, forall_eq']
  cases route with
  | register | activate | logIn | requestReset | setPassword | refresh =>
      simp only [callOf, Service.except_bind_eq_ok, receiveForm_eq_ok]
      constructor
      · rintro ⟨form, isReceived, same⟩
        cases same
        refine ⟨?_, permitted rfl⟩
        constructor
        exact isReceived
      · rintro ⟨asked, -⟩
        cases asked
        rename_i form isReceived
        exact ⟨form, isReceived, rfl⟩
  | logOut =>
      constructor
      · intro same
        cases same
        exact ⟨.logOut, permitted rfl⟩
      · rintro ⟨⟨⟩, -⟩
        rfl
  | readAccount segment =>
      simp only [callOf, Service.except_bind_eq_ok, receiveUsername_eq_ok, receivePermission_eq_ok,
        permits (.readAccount segment) rfl]
      constructor
      · rintro ⟨username, isNamed, -, isPermitted, same⟩
        cases same
        exact ⟨.readAccount isNamed, isPermitted⟩
      · rintro ⟨asked, isPermitted⟩
        cases asked with
        | readAccount isNamed => exact ⟨_, isNamed, (), isPermitted, rfl⟩
  | changeAccount segment =>
      simp only [callOf, Service.except_bind_eq_ok, receiveUsername_eq_ok, receiveForm_eq_ok,
        receivePermission_eq_ok, permits (.changeAccount segment) rfl]
      constructor
      · rintro ⟨username, isNamed, form, isReceived, -, isPermitted, same⟩
        cases same
        exact ⟨.changeAccount isNamed isReceived, isPermitted⟩
      · rintro ⟨asked, isPermitted⟩
        cases asked with
        | changeAccount isNamed isReceived =>
            exact ⟨_, isNamed, _, isReceived, (), isPermitted, rfl⟩
  | health =>
      constructor
      · intro impossible
        cases impossible
      · rintro ⟨⟨⟩, -⟩

/-! ## Responses to what is turned away -/

@[simp] theorem isSuccess_withoutBody (response : Response) :
    response.withoutBody.isSuccess = response.isSuccess := rfl

@[simp] theorem isSuccess_decorate (route : Route) (method : String) (response : Response) :
    (decorate route method response).isSuccess = response.isSuccess := by
  unfold decorate
  split <;> split <;> rfl

theorem status_problem (problem : Problem) : problem.response.status = problem.kind.status := by
  unfold Problem.response
  cases problem.challenge? <;> rfl

/-- No problem is answered like a success. -/
theorem isSuccess_problem (problem : Problem) : problem.response.isSuccess = false := by
  rw [Response.isSuccess, status_problem]
  cases problem.kind <;> rfl

theorem isSuccess_of_receiveForm {α : Type} {form : Form α} {body : List UInt8}
    {response : Response} (refused : receiveForm form body = .error response) :
    response.isSuccess = false := by
  unfold receiveForm at refused
  split at refused
  · cases refused
    exact isSuccess_problem _
  · cases refused

theorem isSuccess_of_receiveUsername {segment : String} {response : Response}
    (refused : receiveUsername segment = .error response) : response.isSuccess = false := by
  unfold receiveUsername at refused
  split at refused
  · cases refused
    rfl
  · cases refused

theorem isSuccess_of_receivePermission {identity : Identity} {required : List Permission}
    {response : Response}
    (refused : receivePermission database identity required = .error response) :
    response.isSuccess = false := by
  unfold receivePermission at refused
  split at refused
  · cases refused
    exact isSuccess_problem _
  · cases refused

theorem bind_eq_error {ε α β : Type} {result : Except ε α} {next : α → Except ε β} {fault : ε} :
    (result >>= next) = .error fault ↔
      result = .error fault ∨ ∃ first, result = .ok first ∧ next first = .error fault := by
  cases result <;> simp [bind, Except.bind]

/-- A request that stands for no call is not answered like a success, unless it asks whether the
service works. -/
theorem isSuccess_of_callOf {identity : Identity} {body : List UInt8} {route : Route}
    {response : Response} (isWorkflow : route ≠ .health)
    (refused : callOf database identity body route = .error response) :
    response.isSuccess = false := by
  cases route with
  | register | activate | logIn | requestReset | setPassword | refresh =>
      rcases bind_eq_error.1 refused with refused | ⟨form, -, impossible⟩
      · exact isSuccess_of_receiveForm refused
      · cases impossible
  | logOut => cases refused
  | readAccount segment =>
      rcases bind_eq_error.1 refused with refused | ⟨username, -, refused⟩
      · exact isSuccess_of_receiveUsername refused
      rcases bind_eq_error.1 refused with refused | ⟨-, -, impossible⟩
      · exact isSuccess_of_receivePermission refused
      · cases impossible
  | changeAccount segment =>
      rcases bind_eq_error.1 refused with refused | ⟨username, -, refused⟩
      · exact isSuccess_of_receiveUsername refused
      rcases bind_eq_error.1 refused with refused | ⟨form, -, refused⟩
      · exact isSuccess_of_receiveForm refused
      rcases bind_eq_error.1 refused with refused | ⟨-, -, impossible⟩
      · exact isSuccess_of_receivePermission refused
      · cases impossible
  | health => exact absurd rfl isWorkflow

/-- What is replied to a call is answered like a success, and what a call fails with is not. -/
theorem isSuccess_responseOfResult {route : Route} {result : Except Fault Service.Reply} :
    (responseOfResult route result).isSuccess = true ↔ ∃ reply, result = .ok reply := by
  cases result with
  | error fault => simp [responseOfResult, isSuccess_problem]
  | ok reply =>
      refine iff_of_true ?_ ⟨reply, rfl⟩
      cases route <;> cases reply <;> rfl

/-! ## Exchanges -/

theorem Resolves.unique {value : Option (List UInt8)} {former latter : Identity}
    (resolves : Resolves now database value former)
    (resolves' : Resolves now database value latter) : former = latter :=
  Except.ok.inj ((identify_eq_ok.2 resolves).symm.trans (identify_eq_ok.2 resolves'))

/-- The route of a request is told by its target. -/
theorem Request.calls_iff {request : Request} {route : Route} {call : Service.Call}
    (isRoute : Route.ofTarget? request.target = some route) :
    request.Calls now database call ↔ route.takes request.method = true ∧
      ∃ identity, Resolves now database (request.authorization route) identity ∧
        route.Asks identity request.body call ∧ route.Permits database identity := by
  constructor
  · rintro ⟨route', identity, isRoute', takes, resolves, asks⟩
    obtain rfl : route = route' := Option.some.inj (isRoute.symm.trans isRoute')
    exact ⟨takes, identity, resolves, asks⟩
  · rintro ⟨takes, identity, resolves, asks⟩
    exact ⟨route, identity, isRoute, takes, resolves, asks⟩

/-- A request stands for one call at most. -/
theorem Request.Calls.unique {request : Request} {former latter : Service.Call}
    (calls : request.Calls now database former) (calls' : request.Calls now database latter) :
    former = latter := by
  obtain ⟨route, identity, isRoute, -, resolves, asks⟩ := calls
  obtain ⟨-, identity', resolves', asks'⟩ := (Request.calls_iff isRoute).1 calls'
  obtain rfl := resolves.unique resolves'
  exact Except.ok.inj ((callOf_eq_ok.2 asks).symm.trans (callOf_eq_ok.2 asks'))

/-- What an exchange has to do with the call that its request stands for. -/
inductive Request.Answered (scheme : PasswordScheme) (moment : Moment) (database : Database)
    (request : Request) (exchange : Exchange) : Prop
  /-- The call has been made. -/
  | called {call : Service.Call} (calls : request.Calls moment.now database call)
      (sameDatabase : exchange.database = (Service.perform scheme moment database call).database)
      (sameLetters : exchange.letters = (Service.perform scheme moment database call).letters)
      (isSuccess_iff : exchange.response.isSuccess = true ↔
        ∃ reply, (Service.perform scheme moment database call).result = .ok reply)
  /-- There is no call to make. -/
  | refused (noCall : ∀ call, ¬request.Calls moment.now database call)
      (isUnchanged : exchange.database = database) (isSilent : exchange.letters = [])
      (isHealth : exchange.response.isSuccess = true →
        Route.ofTarget? request.target = some .health)

/-- How a response is dressed up makes no difference. -/
theorem Request.Answered.dress {request : Request} {exchange : Exchange} {response : Response}
    (answered : request.Answered scheme moment database exchange)
    (same : response.isSuccess = exchange.response.isSuccess) :
    request.Answered scheme moment database { exchange with response := response } := by
  cases answered with
  | called calls sameDatabase sameLetters isSuccess_iff =>
      exact .called calls sameDatabase sameLetters (by rw [same, isSuccess_iff])
  | refused noCall isUnchanged isSilent isHealth =>
      exact .refused noCall isUnchanged isSilent (by rwa [same])

theorem serve_answered {request : Request} {route : Route} {identity : Identity}
    (isRoute : Route.ofTarget? request.target = some route)
    (takes : route.takes request.method = true)
    (resolves : Resolves moment.now database (request.authorization route) identity) :
    request.Answered scheme moment database
      (serve scheme moment database identity route request.body) := by
  cases asked : callOf database identity request.body route with
  | ok call =>
      obtain ⟨asks, permits⟩ := callOf_eq_ok.1 asked
      have calls : request.Calls moment.now database call :=
        ⟨route, identity, isRoute, takes, resolves, asks, permits⟩
      simp only [serve, asked]
      exact .called calls rfl rfl isSuccess_responseOfResult
  | error response =>
      simp only [serve, asked]
      refine .refused ?_ rfl rfl fun isSuccess => ?_
      · intro call calls
        obtain ⟨-, identity', resolves', asks⟩ := (Request.calls_iff isRoute).1 calls
        obtain rfl := resolves.unique resolves'
        rw [callOf_eq_ok.2 asks] at asked
        cases asked
      · by_cases isHealth : route = .health
        · exact isHealth ▸ isRoute
        · rw [Exchange.unchanged, isSuccess_of_callOf isHealth asked] at isSuccess
          cases isSuccess

theorem answerAt_answered {request : Request} {route : Route}
    (isRoute : Route.ofTarget? request.target = some route) :
    request.Answered scheme moment database
      (answerAt scheme moment database request route) := by
  have turnedAway {response : Response} (isRefused : response.isSuccess = false)
      (noCall : ∀ call, ¬request.Calls moment.now database call) :
      request.Answered scheme moment database (.unchanged database response) :=
    .refused noCall rfl rfl fun isSuccess => by simp [Exchange.unchanged, isRefused] at isSuccess
  refine Request.Answered.dress ?_ (isSuccess_decorate _ _ _)
  cases isKnown : identify moment.now database (request.authorization route) with
  | error problem =>
      simp only [Request.authorization] at isKnown
      simp only [isKnown]
      refine turnedAway (isSuccess_problem problem) fun call calls => ?_
      obtain ⟨-, identity, resolves, -⟩ := (Request.calls_iff isRoute).1 calls
      rw [← identify_eq_ok, Request.authorization, isKnown] at resolves
      cases resolves
  | ok identity =>
      have resolves := identify_eq_ok.1 isKnown
      simp only [Request.authorization] at isKnown
      simp only [isKnown]
      split
      next takes => exact serve_answered isRoute takes resolves
      next isOther =>
        refine turnedAway rfl fun call calls => ?_
        exact isOther ((Request.calls_iff isRoute).1 calls).1

theorem answer_answered (scheme : PasswordScheme) (moment : Moment) (database : Database)
    (request : Request) :
    request.Answered scheme moment database (answer scheme moment database request) := by
  have headOnly {exchange : Exchange}
      (answered : request.Answered scheme moment database exchange) :
      request.Answered scheme moment database
        (if request.method == "HEAD" then
          { exchange with response := exchange.response.withoutBody }
        else exchange) := by
    split
    · exact answered.dress (isSuccess_withoutBody _)
    · exact answered
  unfold answer
  cases isRoute : Route.ofTarget? request.target with
  | none =>
      refine headOnly (.refused ?_ rfl rfl fun impossible => by cases impossible)
      rintro call ⟨route, identity, isRoute', -⟩
      rw [isRoute] at isRoute'
      cases isRoute'
  | some route => exact headOnly (answerAt_answered isRoute)

/-- **A request has the effect of its call and none of its own**, whatever its method, path, headers
and body are.  If it stands for a call, the database and the letters are those that the call leads
to, and otherwise nothing changes.  On every route but that for health the response is a success
exactly when there is such a call and it goes well, and a response that is no success leaves all as
it was. -/
theorem request_has_effect_of_its_call (scheme : PasswordScheme) (moment : Moment)
    (database : Database) (request : Request) :
    let exchange := answer scheme moment database request
    (∀ call, request.Calls moment.now database call →
      exchange.database = (Service.perform scheme moment database call).database ∧
        exchange.letters = (Service.perform scheme moment database call).letters) ∧
    ((∀ call, ¬request.Calls moment.now database call) →
      exchange.database = database ∧ exchange.letters = []) ∧
    (∀ route, Route.ofTarget? request.target = some route → route ≠ .health →
      (exchange.response.isSuccess = true ↔
        ∃ call reply, request.Calls moment.now database call ∧
          (Service.perform scheme moment database call).result = .ok reply)) ∧
    (exchange.response.isSuccess = false →
      exchange.database = database ∧ exchange.letters = []) := by
  intro exchange
  have answered : request.Answered scheme moment database exchange :=
    answer_answered scheme moment database request
  cases answered with
  | @called made calls sameDatabase sameLetters isSuccess_iff =>
      refine ⟨?_, ?_, ?_, ?_⟩
      · intro call calls'
        obtain rfl := calls.unique calls'
        exact ⟨sameDatabase, sameLetters⟩
      · exact fun noCall => absurd calls (noCall made)
      · intro route isRoute isWorkflow
        rw [isSuccess_iff]
        constructor
        · rintro ⟨reply, done⟩
          exact ⟨made, reply, calls, done⟩
        · rintro ⟨call, reply, calls', done⟩
          obtain rfl := calls.unique calls'
          exact ⟨reply, done⟩
      · intro isRefused
        rw [sameDatabase, sameLetters]
        cases result : (Service.perform scheme moment database made).result with
        | error fault => exact Service.perform_of_error result
        | ok reply =>
            have isSuccess := isSuccess_iff.2 ⟨reply, result⟩
            rw [isRefused] at isSuccess
            cases isSuccess
  | refused noCall isUnchanged isSilent isHealth =>
      refine ⟨?_, ?_, ?_, ?_⟩
      · exact fun call calls => absurd calls (noCall call)
      · exact fun _ => ⟨isUnchanged, isSilent⟩
      · intro route isRoute isWorkflow
        constructor
        · intro isSuccess
          have same := isRoute.symm.trans (isHealth isSuccess)
          exact absurd (Option.some.inj same) isWorkflow
        · rintro ⟨call, -, calls, -⟩
          exact absurd calls (noCall call)
      · exact fun _ => ⟨isUnchanged, isSilent⟩

end Gatehouse.Http
