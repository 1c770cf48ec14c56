import Gatehouse.Proofs.Http.AccountRoutes

/-!
# Who is let through to a route

Most routes ask who makes a request before anything else is looked at.  The value of the
`Authorization` header alone decides: without the header a request is let through in nobody's name,
with the word `Bearer`, one space and a live access token in the name of the owner of the token, and
with any other bytes not at all (`Run.bearer_decides_admission`).

What stands behind the door is a handler, which is given the identity.  Whether it runs, and for
whom, is told without looking into it: a request is let through in a name if every handler would
answer it under that name, and turned away if no handler makes a difference.
-/

namespace Gatehouse

set_option autoImplicit false

namespace Http

/-! ## The door -/

/-- Lets a request through to a handler, in the name that the value of its header tells, or turns
it away. -/
def letIn (now : Instant) (database : Database) (value : Option (List UInt8))
    (handler : Identity → Exchange) : Exchange :=
  match identify now database value with
  | .error problem => .unchanged database problem.response
  | .ok identity => handler identity

/-- Whether a request with a header value is let through in a name, whatever the handler is. -/
def LetsThrough (now : Instant) (database : Database) (value : Option (List UInt8))
    (identity : Identity) : Prop :=
  ∀ handler, letIn now database value handler = handler identity

/-- Whether a request with a header value is turned away, whatever the handler is, with nothing
changed. -/
def TurnsAway (now : Instant) (database : Database) (value : Option (List UInt8)) : Prop :=
  ∃ response, ∀ handler, letIn now database value handler = .unchanged database response

/-- What a route does with a method and a body for a caller. -/
def Route.handler (scheme : PasswordScheme) (moment : Moment) (database : Database) (route : Route)
    (method : String) (body : List UInt8) (identity : Identity) : Exchange :=
  if route.takes method then serve scheme moment database identity route body
  else .unchanged database (.bare 405)

/-- An exchange with the headers that its route adds, and without a body if only headers are asked
for. -/
def Exchange.dressed (exchange : Exchange) (route : Route) (method : String) : Exchange :=
  let response := decorate route method exchange.response
  { exchange with response := if method == "HEAD" then response.withoutBody else response }

/-- How a route keeps its door for a request. -/
structure KeepsDoor (scheme : PasswordScheme) (moment : Moment) (database : Database)
    (request : Request) (route : Route) : Prop where
  /-- All that a request leads to comes through the door. -/
  passes : answer scheme moment database request =
    (letIn moment.now database (request.header? "authorization")
      (route.handler scheme moment database request.method request.body)).dressed route
        request.method
  known : ∀ owner,
    LetsThrough moment.now database (request.header? "authorization") (.known owner) ↔
      request.BornBy moment.now database.tables owner
  anonymous : LetsThrough moment.now database (request.header? "authorization") .anonymous ↔
    request.header? "authorization" = none
  /-- A header that bears no good token is answered with a challenge, and nothing happens. -/
  stranger : request.header? "authorization" ≠ none →
    (∀ owner, ¬request.BornBy moment.now database.tables owner) →
      TurnsAway moment.now database (request.header? "authorization") ∧
        (answer scheme moment database request).database = database ∧
        (answer scheme moment database request).letters = [] ∧
        (answer scheme moment database request).response.IsChallenge
  varies : (answer scheme moment database request).response.header? "vary" = some "Authorization"

variable {scheme : PasswordScheme} {moment : Moment} {now : Instant} {database : Database}
  {request : Request} {route : Route} {value : Option (List UInt8)} {identity : Identity}

/-- A request is let through in the one name that its header tells. -/
theorem letsThrough_iff :
    LetsThrough now database value identity ↔ identify now database value = .ok identity := by
  constructor
  · intro lets
    cases isKnown : identify now database value with
    | error problem =>
        -- a handler that opens or closes the database would be seen to run
        have same := congrArg (fun exchange => exchange.database.isOpen)
          (lets fun _ => .unchanged { database with isOpen := !database.isOpen } (.bare 200))
        simp [letIn, isKnown, Exchange.unchanged] at same
    | ok other =>
        have same := lets fun caller =>
          .unchanged database (.bare (if caller = identity then 200 else 401))
        by_cases isSame : other = identity
        · rw [isSame]
        · simp [letIn, isKnown, Exchange.unchanged, Response.bare, isSame] at same
  · intro isKnown handler
    simp only [letIn, isKnown]

/-- What a route answers comes through its door. -/
theorem answer_eq_letIn (isRoute : Route.ofTarget? request.target = some route)
    (identifies : route.identifies = true) :
    answer scheme moment database request =
      (letIn moment.now database (request.header? "authorization")
        (route.handler scheme moment database request.method request.body)).dressed route
          request.method := by
  simp only [answer, isRoute, answerAt, identifies, if_true, Exchange.dressed, letIn]
  split <;> rfl

/-! ## Headers of responses -/

theorem header?_withHeader_of_ne {response : Response} {name other text : String}
    (isOther : other ≠ name) :
    (response.withHeader other text).header? name = response.header? name := by
  simp [Response.header?, Response.withHeader, List.find?_append, isOther]

/-- Whether a response has no headers but those that tell its type and ask for a token. -/
def Response.IsPlain (response : Response) : Prop :=
  ∀ header ∈ response.headers, header.1 = "content-type" ∨ header.1 = "www-authenticate"

theorem isPlain_ofJson (status : Nat) (body : Json) : (Response.ofJson status body).IsPlain := by
  rintro _ (_ | ⟨_, ⟨⟩⟩)
  exact .inl rfl

theorem isPlain_ofText (status : Nat) (body : String) : (Response.ofText status body).IsPlain := by
  rintro _ (_ | ⟨_, ⟨⟩⟩)
  exact .inl rfl

theorem isPlain_problem (problem : Problem) : problem.response.IsPlain := by
  unfold Problem.response
  cases problem.challenge? with
  | none => exact isPlain_ofJson _ _
  | some challenge =>
      intro header isHeader
      rcases List.mem_append.1 isHeader with isType | isAsked
      · exact isPlain_ofJson _ _ header isType
      · rw [List.mem_singleton.1 isAsked]
        exact .inr rfl

theorem isPlain_of_receiveForm {α : Type} {form : Form α} {body : List UInt8}
    {response : Response} (refused : receiveForm form body = .error response) :
    response.IsPlain := by
  unfold receiveForm at refused
  split at refused
  · cases refused
    exact isPlain_problem _
  · cases refused

theorem isPlain_of_receiveUsername {segment : String} {response : Response}
    (refused : receiveUsername segment = .error response) : response.IsPlain := by
  unfold receiveUsername at refused
  split at refused
  · cases refused
    exact isPlain_ofText _ _
  · cases refused

theorem isPlain_of_receivePermission {required : List Permission} {response : Response}
    (refused : receivePermission database identity required = .error response) :
    response.IsPlain := by
  unfold receivePermission at refused
  split at refused
  · cases refused
    exact isPlain_problem _
  · cases refused

theorem isPlain_of_callOf {body : List UInt8} {response : Response}
    (refused : callOf database identity body route = .error response) : response.IsPlain := by
  cases route with
  | register | activate | logIn | requestReset | setPassword | refresh =>
      rcases bind_eq_error.1 refused with refused | ⟨form, -, impossible⟩
      · exact isPlain_of_receiveForm refused
      · cases impossible
  | logOut => cases refused
  | readAccount segment =>
      rcases bind_eq_error.1 refused with refused | ⟨username, -, refused⟩
      · exact isPlain_of_receiveUsername refused
      rcases bind_eq_error.1 refused with refused | ⟨-, -, impossible⟩
      · exact isPlain_of_receivePermission refused
      · cases impossible
  | changeAccount segment =>
      rcases bind_eq_error.1 refused with refused | ⟨username, -, refused⟩
      · exact isPlain_of_receiveUsername refused
      rcases bind_eq_error.1 refused with refused | ⟨form, -, refused⟩
      · exact isPlain_of_receiveForm refused
      rcases bind_eq_error.1 refused with refused | ⟨-, -, impossible⟩
      · exact isPlain_of_receivePermission refused
      · cases impossible
  | health =>
      cases refused
      exact isPlain_ofJson _ _

theorem isPlain_responseOfResult (route : Route) (result : Except Fault Service.Reply) :
    (responseOfResult route result).IsPlain := by
  cases result with
  | error fault => exact isPlain_problem _
  | ok reply =>
      unfold responseOfResult responseOfReply
      dsimp only
      split <;> exact isPlain_ofJson _ _

theorem isPlain_handler (method : String) (body : List UInt8) :
    (route.handler scheme moment database method body identity).response.IsPlain := by
  unfold Route.handler serve
  split
  · cases asked : callOf database identity body route with
    | error response => exact isPlain_of_callOf asked
    | ok call => exact isPlain_responseOfResult _ _
  · exact nofun

theorem isPlain_letIn {handler : Identity → Exchange}
    (isPlain : ∀ identity, (handler identity).response.IsPlain) :
    (letIn now database value handler).response.IsPlain := by
  unfold letIn
  split
  · exact isPlain_problem _
  · exact isPlain _

theorem status_dressed (exchange : Exchange) (route : Route) (method : String) :
    (exchange.dressed route method).response.status =
      (decorate route method exchange.response).status := by
  unfold Exchange.dressed
  dsimp only
  split <;> rfl

theorem header?_dressed (exchange : Exchange) (route : Route) (method name : String) :
    (exchange.dressed route method).response.header? name =
      (decorate route method exchange.response).header? name := by
  unfold Exchange.dressed
  dsimp only
  split <;> rfl

/-- A route that asks who makes a request says so in every response. -/
theorem header?_vary_dressed {exchange : Exchange} (identifies : route.identifies = true)
    (isPlain : exchange.response.IsPlain) (method : String) :
    (exchange.dressed route method).response.header? "vary" = some "Authorization" := by
  have isAbsent : exchange.response.headers.find? (fun header => header.1 == "vary") = none := by
    refine List.find?_eq_none.2 fun header isHeader => ?_
    rcases isPlain header isHeader with isType | isAsked
    · simp [isType]
    · simp [isAsked]
  rw [header?_dressed, decorate, if_pos identifies]
  split <;> simp [Response.header?, Response.withHeader, List.find?_append, isAbsent]

/-- A challenge stays one when the headers of a route are added to it. -/
theorem isChallenge_dressed {exchange : Exchange} (isChallenge : exchange.response.IsChallenge)
    (method : String) : (exchange.dressed route method).response.IsChallenge := by
  constructor
  · rw [status_dressed, ← isChallenge.1, decorate]
    split <;> split <;> rfl
  · rw [header?_dressed, ← isChallenge.2, decorate]
    split <;> split <;> simp [header?_withHeader_of_ne]

/-! ## Every request -/

/-- A request is made in the name of the account whose token it bears. -/
theorem resolves_known_iff_bornBy (isOpen : database.isOpen = true)
    (sound : database.tables.Sound) {owner : Account} :
    Resolves now database (request.header? "authorization") (.known owner) ↔
      request.BornBy now database.tables owner := by
  constructor
  · intro resolves
    cases isValue : request.header? "authorization" with
    | none =>
        rw [isValue] at resolves
        cases resolves
    | some value =>
        rw [isValue] at resolves
        obtain ⟨other, same, bears⟩ := (resolves_known_iff isOpen sound).1 resolves
        cases same
        exact ⟨value, isValue, bears⟩
  · exact Request.BornBy.resolves isOpen sound

theorem resolves_anonymous_iff : Resolves now database value .anonymous ↔ value = none := by
  constructor
  · rintro ⟨⟩
    rfl
  · rintro rfl
    exact .absent

end Http

open Http

variable {scheme : PasswordScheme} {database : Database}

/-- **The header decides who is let through.**  In every state that the service and its store come
to with the database open, and on every route that asks who makes a request: a request is let
through in the name of an account if and only if the value of its header is the word `Bearer`, one
space and a live access token of the account, in nobody's name if and only if there is no header,
and otherwise it is turned away with a challenge and changes nothing.  Every response tells that it
depends on the header. -/
theorem Run.bearer_decides_admission {admits : History scheme → Action → Prop}
    {past : History scheme} (run : Run scheme admits past database)
    (isOpen : database.isOpen = true) (moment : Moment) {request : Request} {route : Route}
    (isRoute : Route.ofTarget? request.target = some route) (identifies : route.identifies = true) :
    KeepsDoor scheme moment database request route := by
  have passes : answer scheme moment database request = _ := answer_eq_letIn isRoute identifies
  constructor
  · exact passes
  · intro owner
    rw [letsThrough_iff, identify_eq_ok]
    exact resolves_known_iff_bornBy isOpen run.sound
  · rw [letsThrough_iff, identify_eq_ok]
    exact resolves_anonymous_iff
  · intro isGiven noOwner
    obtain ⟨value, isValue⟩ := Option.ne_none_iff_exists'.1 isGiven
    have isStrange : identify moment.now database (some value) = .error .invalidToken :=
      identify_of_not_bears isOpen run.sound fun owner bears =>
        noOwner owner ⟨value, isValue, bears⟩
    have isTurned (handler : Identity → Exchange) :
        letIn moment.now database (request.header? "authorization") handler =
          .unchanged database Problem.invalidToken.response := by
      simp only [letIn, isValue, isStrange]
    rw [passes, isTurned]
    exact ⟨⟨_, isTurned⟩, rfl, rfl, isChallenge_dressed ⟨rfl, rfl⟩ _⟩
  · rw [passes]
    exact header?_vary_dressed identifies (isPlain_letIn fun _ => isPlain_handler _ _) _

/-- The first account is given an access token that is good for a millisecond. -/
def sampleAdvance : Event .argon2id :=
  ⟨.idle, .insertToken ⟨Token.digestOf sampleBearer, 1, ⟨1000000⟩, .access⟩, creation.after⟩

/-- Who bears the token is let through while it is good, and turned away after that. -/
theorem bearer_is_let_through_in_time :
    LetsThrough ⟨0⟩ sampleAdvance.after (sampleReading.header? "authorization")
        (.known firstCopy) ∧
      TurnsAway ⟨1000000⟩ sampleAdvance.after (sampleReading.header? "authorization") := by
  have run : Run .argon2id History.AdmitsEdits ([creation] ++ [sampleAdvance])
      sampleAdvance.after := .step (.step .start .idle _ trivial) .idle _ trivial
  have isRoute : Route.ofTarget? sampleReading.target = some (.readAccount "alice") := by
    decide +kernel
  have isBorn : sampleReading.BornBy ⟨0⟩ sampleAdvance.after.tables firstCopy := by
    have shows : sampleBearer.toList.all isBearerChar = true := by decide +kernel
    have isStored : Tables.rowOfToken ⟨Token.digestOf sampleBearer, 1, ⟨1000000⟩, .access⟩ ∈
        sampleAdvance.after.tables.tokens := by decide +kernel
    exact ⟨bearerValue sampleBearer, by decide +kernel, sampleBearer, rfl, by decide +kernel,
      List.all_eq_true.1 shows, by decide +kernel, _, isStored, rfl, rfl, by decide, rfl⟩
  have noOwner : ∀ owner, ¬sampleReading.BornBy ⟨1000000⟩ sampleAdvance.after.tables owner := by
    have isPast : ∀ row ∈ sampleAdvance.after.tables.tokens, row.expiry = 1 := by decide +kernel
    rintro owner ⟨_, -, _, -, -, -, -, row, isStored, -, -, isGood, -⟩
    rw [isPast row isStored] at isGood
    exact absurd isGood (by decide)
  constructor
  · exact ((run.bearer_decides_admission rfl ⟨⟨0⟩, []⟩ isRoute rfl).known firstCopy).2 isBorn
  · exact ((run.bearer_decides_admission rfl ⟨⟨1000000⟩, []⟩ isRoute rfl).stranger
      (by decide +kernel) noOwner).1

end Gatehouse
