import Gatehouse.Http.Content
import Gatehouse.Proofs.Http.Exchanges
import Gatehouse.Proofs.Json.Integers
import Gatehouse.Proofs.Json.Printing

/-!
# Responses that are read back

The body of a response is printed from a JSON value, and whoever reads it gets that value.  For
problems this means that nothing in a fault, be it a message or the name of a field, can add to what
is told or take away from it: the body holds a code, a message and, for faults of fields, the
message of each field, and the code is that of the status.  A fault of the service itself is told in
the same words whatever its details are.

The reader's limits are no obstacle.  The bodies nest no deeper than three containers, and the only
number in them is the id of an account, which fits into 64 bits.

The main statement is `responses_are_read_back`.
-/

namespace Gatehouse.Http

set_option autoImplicit false

/-! ## Bodies within the limits of the reader -/

/-- An object of texts is within any limit that allows one container. -/
theorem isWithin_ofTexts (depth : Nat) (entries : List (String × String)) :
    Json.IsWithin (depth + 1) (.ofTexts entries) := by
  refine .object fun member present => ?_
  obtain ⟨entry, -, rfl⟩ := List.mem_map.1 present
  exact .string depth entry.2

/-- An object with a single member is within a limit if its value is within one container less. -/
theorem isWithin_single {depth : Nat} {key : String} {value : Json}
    (isWithin : Json.IsWithin depth value) : Json.IsWithin (depth + 1) (.object [(key, value)]) :=
  .object fun _ present => List.mem_singleton.1 present ▸ isWithin

/-- The body of a problem is within the limits of the reader. -/
theorem Problem.isWithin_body (problem : Problem) (depth : Nat) :
    Json.IsWithin (depth + 1 + 1 + 1) problem.body := by
  apply isWithin_single
  refine .object fun member present => ?_
  rcases List.mem_append.1 present with told | detailed
  · simp only [List.mem_cons, List.not_mem_nil, or_false] at told
    rcases told with rfl | rfl <;> exact .string _ _
  · cases isDetails : problem.details with
    | none => simp [isDetails] at detailed
    | some details =>
        simp only [isDetails, List.mem_singleton] at detailed
        exact detailed ▸ isWithin_ofTexts depth details.entries

/-- The body that shows an account is within the limits of the reader if the id of the account
is. -/
theorem isWithin_accountContent {id : Int} (small : id.natAbs < UInt64.size)
    (username email : String) (isActivated : Bool) (depth : Nat) :
    Json.IsWithin (depth + 1 + 1) (accountContent id username email isActivated) := by
  apply isWithin_single
  refine .object fun member present => ?_
  simp only [List.mem_cons, List.not_mem_nil, or_false] at present
  rcases present with rfl | rfl | rfl | rfl
  · exact Json.isWithin_ofInt small depth
  · exact .string _ _
  · exact .string _ _
  · exact .boolean _ _

/-! ## Dictionaries -/

/-- The keys of a dictionary are distinct. -/
theorem nodup_keys (dictionary : Text.Dictionary) :
    (dictionary.entries.map Prod.fst).Nodup := by
  rw [List.Nodup, List.pairwise_map]
  apply dictionary.ascending.imp
  intro former latter before same
  exact String.lt_irrefl _ (same ▸ before)

/-- The members of the object that maps keys to texts. -/
def textMembers (dictionary : Text.Dictionary) : List (String × Json) :=
  dictionary.entries.map fun entry => (entry.1, .string entry.2)

/-- The object of a dictionary's texts gives each key its text. -/
theorem member?_textMembers (dictionary : Text.Dictionary) (key : String) :
    Json.member? (textMembers dictionary) key = (dictionary.get? key).map .string := by
  have keys : (textMembers dictionary).map Prod.fst = dictionary.entries.map Prod.fst :=
    List.map_map
  rw [Text.Dictionary.get?]
  cases found : dictionary.entries.find? fun entry => entry.1 == key with
  | none =>
      have absent : ¬ key ∈ (textMembers dictionary).map Prod.fst := by
        rw [keys]
        intro present
        obtain ⟨entry, isEntry, isKey⟩ := List.mem_map.1 present
        exact List.find?_eq_none.1 found entry isEntry (by simp [isKey])
      exact Json.member?_eq_none absent
  | some entry =>
      obtain rfl : entry.1 = key := by simpa using List.find?_some found
      have distinct : ((textMembers dictionary).map Prod.fst).Nodup := keys ▸ nodup_keys dictionary
      exact Json.member?_of_mem distinct (List.mem_map_of_mem (List.mem_of_find?_eq_some found))

/-! ## Problems -/

/-- Whether a fault is one of the service itself, and not of the caller. -/
inductive IsInternal : Fault → Prop
  | storage (detail : String) : IsInternal (.storage detail)
  | entropy (detail : String) : IsInternal (.entropy detail)
  | hashing (detail : String) : IsInternal (.hashing detail)
  | mail (detail : String) : IsInternal (.mail detail)
  | file (fault : FileFault) : IsInternal (.file fault)
  | configuration (detail : String) : IsInternal (.configuration detail)

/-- The status, the code and the message with which a fault is answered. -/
inductive AnswersFault : Fault → Nat → String → String → Prop
  | validation {report : Validation.Report} :
      AnswersFault (.validation report) 422 "VALIDATION_ERROR" "validation failed"
  | conflict {field message : String} :
      AnswersFault (.conflict field message) 422 "VALIDATION_ERROR" "validation failed"
  | notFound :
      AnswersFault .notFound 401 "UNAUTHORIZED" "invalid authentication credentials"
  | unauthenticated :
      AnswersFault .unauthenticated 401 "UNAUTHORIZED" "invalid or missing authentication token"
  | permission {message : String} :
      AnswersFault (.permission message) 403 "FORBIDDEN" message
  | internal {fault : Fault} (isInternal : IsInternal fault) :
      AnswersFault fault 500 "INTERNAL_ERROR"
        "the server encountered a problem and could not process your request"

/-- A fault is answered with what it should be answered with. -/
theorem answersFault (fault : Fault) :
    AnswersFault fault (Problem.ofFault fault).kind.status (Problem.ofFault fault).kind.code
      (Problem.ofFault fault).message := by
  cases fault with
  | validation => exact .validation
  | conflict => exact .conflict
  | notFound => exact .notFound
  | unauthenticated => exact .unauthenticated
  | permission => exact .permission
  | storage | entropy | hashing | mail | file | configuration => exact .internal (by constructor)

/-- What a problem says of the fields at fault. -/
def detailsOf : Fault → List (String × Json)
  | .validation report => [("details", .object (textMembers report.messages))]
  | .conflict field message => [("details", .object [(field, .string message)])]
  | _ => []

/-- The body of a problem holds its code, its message and what it says of the fields at fault. -/
theorem body_ofFault (fault : Fault) :
    (Problem.ofFault fault).body = .object [("error", .object
      ([("code", .string (Problem.ofFault fault).kind.code),
        ("message", .string (Problem.ofFault fault).message)] ++ detailsOf fault))] := by
  cases fault <;> rfl

/-- A problem is answered with its body. -/
theorem body_response (problem : Problem) : problem.response.body = problem.body.text := by
  unfold Problem.response
  cases problem.challenge? <;> rfl

/-- **The bodies of responses are read back to exactly their contents.**  A problem holds a code,
which is that of the status, a message and, for faults of fields, the message of each field.  A
fault of the service itself is answered in the same way whatever its details are. -/
theorem responses_are_read_back :
    (∀ fault, ∃ status code message, AnswersFault fault status code message ∧
      (Problem.ofFault fault).response.status = status ∧
      Json.read (Text.bytes (Problem.ofFault fault).response.body) = .ok (.object [("error", .object
        ([("code", .string code), ("message", .string message)] ++ detailsOf fault))])) ∧
    (∀ detail file, (Problem.ofFault (.storage detail)).response = Problem.internal.response ∧
      (Problem.ofFault (.entropy detail)).response = Problem.internal.response ∧
      (Problem.ofFault (.hashing detail)).response = Problem.internal.response ∧
      (Problem.ofFault (.mail detail)).response = Problem.internal.response ∧
      (Problem.ofFault (.file file)).response = Problem.internal.response ∧
      (Problem.ofFault (.configuration detail)).response = Problem.internal.response) ∧
    (∀ report : Validation.Report, Json.read (Text.bytes
        (Json.ofTexts report.messages.entries).text) = .ok (.object (textMembers report.messages)) ∧
      ∀ field, Json.member? (textMembers report.messages) field =
        (report.get? field).map .string) ∧
    (∀ message, Json.read (Text.bytes (messageContent message).text) =
      .ok (.object [("message", .string message)])) ∧
    ∀ (id : Int64) username email isActivated,
      Json.read (Text.bytes (accountContent id.toInt username email isActivated).text) =
        .ok (.object [("user", .object [("id", .ofInt id.toInt), ("username", .string username),
          ("email", .string email), ("activated", .boolean isActivated)])]) := by
  refine ⟨?_, ?_, ?_, ?_, ?_⟩
  · intro fault
    refine ⟨_, _, _, answersFault fault, status_problem (Problem.ofFault fault), ?_⟩
    rw [body_response, Json.read_text_printed ((Problem.ofFault fault).isWithin_body 124),
      body_ofFault]
  · intro detail file
    exact ⟨rfl, rfl, rfl, rfl, rfl, rfl⟩
  · intro report
    exact ⟨Json.read_text_printed (isWithin_ofTexts 126 report.messages.entries),
      member?_textMembers report.messages⟩
  · intro message
    exact Json.read_text_printed (isWithin_ofTexts 126 [("message", message)])
  · intro id username email isActivated
    have small : id.toInt.natAbs < UInt64.size := by
      have low := id.le_toInt
      have high := id.toInt_lt
      simp only [UInt64.size]
      omega
    exact Json.read_text_printed (isWithin_accountContent small username email isActivated 125)

end Gatehouse.Http
