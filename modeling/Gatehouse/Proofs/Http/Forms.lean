import Mathlib.Data.List.Induction
import Gatehouse.Http.Form
import Gatehouse.Proofs.Json.Printing

/-!
# What fills in a form

A value is accepted for the fields of a form (`Accepts`) if it is an object whose keys are all
declared and whose values fit, the last one counting where a key is repeated, or an array that is
not too long and whose elements fit the fields in order.  Nothing else fills in a form.  A field
then holds what it was given, and is empty if it was given nothing (`Field.holding`).

The reader decides this in several steps: it goes through the members of an object in the order of
their keys, stops at the first that cannot be taken, and if there is none builds the form from the
contents of its fields by position.
`contents_eq_ok_iff` says that the steps come to the plain description, for any fields, and
`body_fills_form` carries it to the bodies of requests: whatever text of the value the body holds,
each of the service's forms is filled in exactly if the value is accepted, and with exactly what the
value gives.
-/

namespace Gatehouse.Http

set_option autoImplicit false

/-! ## The forms of the service -/

/-- The kinds of forms that requests fill in. -/
inductive FormKind where
  | registration
  | credentials
  | token
  | reset
  | password
  | account
  deriving DecidableEq, Repr

namespace FormKind

/-- What a form of a kind is when it is filled in. -/
def Filled : FormKind → Type
  | .registration => RegistrationForm
  | .credentials => CredentialsForm
  | .token => TokenForm
  | .reset => ResetForm
  | .password => PasswordForm
  | .account => AccountForm

/-- The form of a kind. -/
def form : (kind : FormKind) → Form kind.Filled
  | .registration => registrationForm
  | .credentials => credentialsForm
  | .token => tokenForm
  | .reset => resetForm
  | .password => passwordForm
  | .account => accountForm

/-- What the fields of a filled-in form hold, in the order in which the form declares them. -/
def held : (kind : FormKind) → kind.Filled → List (Option String)
  | .registration, filled => [some filled.username, some filled.email, some filled.password]
  | .credentials, filled => [some filled.username, some filled.password]
  | .token, filled => [some filled.token]
  | .reset, filled => [some filled.email]
  | .password, filled => [some filled.token, some filled.password]
  | .account, filled => [filled.email, filled.password]

end FormKind

/-! ## Accepted values -/

/-- Whether a value fits a field. -/
def Field.Fits (field : Field) (value : Json) : Prop :=
  (∃ text, value = .string text) ∨ field.isOptional = true ∧ value = .null

/-- Whether a value is accepted for fields. -/
def Accepts (fields : List Field) : Json → Prop
  | .object members =>
      (∀ member ∈ members, ∃ field ∈ fields, field.name = member.1) ∧
        ∀ field ∈ fields, ∀ value, Json.member? members field.name = some value → field.Fits value
  | .array elements =>
      elements.length ≤ fields.length ∧ ∀ pair ∈ fields.zip elements, pair.1.Fits pair.2
  | _ => False

/-- What a value gives for the field at a position. -/
def givenAt (value : Json) (position : Nat) (field : Field) : Option Json :=
  match value with
  | .object members => Json.member? members field.name
  | .array elements => elements[position]?
  | _ => none

/-- What a field holds that was given something or nothing. -/
def Field.holding (field : Field) : Option Json → Option String
  | some (.string text) => some text
  | some _ => none
  | none => if field.isOptional then none else some ""

/-! ## Contents of fields -/

/-- A value has a content for a field exactly if it fits. -/
theorem Field.isSome_content?_iff (field : Field) (value : Json) :
    (field.content? value).isSome = true ↔ field.Fits value := by
  cases value <;> simp [content?, Fits]

/-- The contents of fields that a value gives something for, where it fits. -/
def contentsGiven (fields : List Field) (value : Json) : List (Option String) :=
  fields.mapIdx fun position field => ((givenAt value position field).bind field.content?).join

/-- An array is accepted if its first element fits the first field and the others are accepted
for the other fields. -/
theorem accepts_array_cons {field : Field} {fields : List Field} {element : Json}
    {elements : List Json} :
    Accepts (field :: fields) (.array (element :: elements)) ↔
      field.Fits element ∧ Accepts fields (.array elements) := by
  simp only [Accepts, List.length_cons, Nat.add_le_add_iff_right, List.zip_cons_cons,
    List.forall_mem_cons]
  exact and_left_comm

/-- The elements of an array are the contents of the first fields if they fit. -/
theorem contentsOfElements_eq_some_iff (fields : List Field) (elements : List Json)
    (given : List (Option String)) :
    contentsOfElements fields elements = some given ↔
      Accepts fields (.array elements) ∧ given = contentsGiven fields (.array elements) := by
  induction fields generalizing elements given with
  | nil => cases elements <;> simp [contentsOfElements, Accepts, contentsGiven, eq_comm]
  | cons field fields ih =>
      cases elements with
      | nil =>
          have empty : contentsGiven (field :: fields) (.array []) =
              (field :: fields).map fun _ => none :=
            List.mapIdx_eq_iff.2 fun position => by
              rw [List.getElem?_map]
              simp [givenAt]
          simp [contentsOfElements, Accepts, empty, eq_comm]
      | cons element elements =>
          rw [accepts_array_cons, ← field.isSome_content?_iff]
          cases isContent : field.content? element with
          | none => simp [contentsOfElements, isContent]
          | some content =>
              have first : contentsGiven (field :: fields) (.array (element :: elements)) =
                  content :: contentsGiven fields (.array elements) := by
                simp [contentsGiven, givenAt, List.mapIdx_cons, isContent]
              have others := ih elements
              rw [first]
              cases isGiven : contentsOfElements fields elements with
              | none => simp_all [contentsOfElements]
              | some rest =>
                  obtain ⟨accepted, isRest⟩ := (others rest).1 isGiven
                  simp [contentsOfElements, isContent, isGiven, accepted, isRest, eq_comm]

/-! ## Members of objects -/

theorem inOrder_concat (members : List (String × Json)) (last : String × Json) :
    inOrder (members ++ [last]) =
      Text.Dictionary.insertEntry (fun _ => last.2) last.1 last.2 (inOrder members) := by
  simp only [inOrder, List.foldl_append, List.foldl_cons, List.foldl_nil]

theorem ascending_inOrder (members : List (String × Json)) : Text.Ascending (inOrder members) := by
  induction members using List.reverseRecOn with
  | nil => exact List.Pairwise.nil
  | append_singleton members last ih =>
      rw [inOrder_concat]
      exact Text.Dictionary.ascending_insertEntry _ _ _ ih

/-- A member is gone through if its value is the one that counts for its key. -/
theorem mem_inOrder_iff {members : List (String × Json)} {key : String} {value : Json} :
    (key, value) ∈ inOrder members ↔ Json.member? members key = some value := by
  rw [← Text.Dictionary.lookup_eq_some_iff (ascending_inOrder members)]
  suffices isLookup : Text.Dictionary.lookup key (inOrder members) = Json.member? members key by
    rw [isLookup]
  induction members using List.reverseRecOn with
  | nil => rfl
  | append_singleton members last ih =>
      rw [inOrder_concat, Text.Dictionary.lookup_insertEntry _ _ _ _ (ascending_inOrder members),
        ih, Json.member?, Json.member?, List.reverse_append, List.reverse_singleton,
        List.singleton_append, List.find?_cons]
      by_cases same : key = last.1
      · cases Text.Dictionary.lookup last.1 (inOrder members) <;> simp [same]
      · have different : (last.1 == key) = false := beq_eq_false_iff_ne.2 (Ne.symm same)
        simp [same, different]

/-- Whether a member of an object can be taken: a field has its key for a name, and its value fits
what has. -/
def Takes (fields : List Field) (key : String) (value : Json) : Prop :=
  (∃ field ∈ fields, field.name = key) ∧ ∀ field ∈ fields, field.name = key → field.Fits value

theorem misfit?_eq_none_iff {fields : List Field} {key : String} {value : Json} :
    misfit? fields (key, value) = none ↔ Takes fields key value := by
  have someNamed : (fields.filter fun field => field.name == key).isEmpty = false ↔
      ∃ field ∈ fields, field.name = key := by
    simp
  have allFit : ((fields.filter fun field => field.name == key).all fun field =>
        (field.content? value).isSome) = true ↔
      ∀ field ∈ fields, field.name = key → field.Fits value := by
    simp only [List.all_eq_true, List.mem_filter, beq_iff_eq, and_imp, Field.isSome_content?_iff]
  rw [Takes, ← someNamed, ← allFit, misfit?]
  dsimp only
  generalize (fields.filter fun field => field.name == key) = named
  cases named.isEmpty <;> cases named.all fun field => (field.content? value).isSome <;> simp

/-- An object can be taken exactly if each of its members can be. -/
theorem firstMisfit?_eq_none_iff {fields : List Field} {members : List (String × Json)} :
    firstMisfit? fields members = none ↔
      ∀ key value, Json.member? members key = some value → Takes fields key value := by
  simp only [firstMisfit?, List.findSome?_eq_none_iff, Prod.forall, mem_inOrder_iff,
    misfit?_eq_none_iff]

/-- An object has no fault exactly if it is accepted. -/
theorem memberFault?_eq_none_iff {fields : List Field} {members : List (String × Json)} :
    memberFault? fields members = none ↔ Accepts fields (.object members) := by
  rw [memberFault?, Option.map_eq_none_iff, firstMisfit?_eq_none_iff]
  constructor
  · intro areTaken
    refine ⟨fun member present => ?_, fun field isField value isValue => ?_⟩
    · obtain ⟨value, isValue⟩ := Json.exists_member?_iff.2 ⟨member, present, rfl⟩
      exact (areTaken _ value isValue).1
    · exact (areTaken _ value isValue).2 field isField rfl
  · rintro ⟨areDeclared, areFitting⟩ key value isValue
    refine ⟨?_, fun field isField isNamed => ?_⟩
    · obtain ⟨member, present, rfl⟩ := Json.exists_member?_iff.1 ⟨value, isValue⟩
      exact areDeclared member present
    · exact areFitting field isField value (isNamed ▸ isValue)

/-- An object gives each field the value of its name. -/
theorem contentsGiven_object (fields : List Field) (members : List (String × Json)) :
    contentsGiven fields (.object members) = contentsOfMembers fields members :=
  List.mapIdx_eq_iff.2 fun position => by simp [contentsOfMembers, givenAt]

/-- **A value has contents for fields exactly if it is accepted**, and they are what it gives. -/
theorem contents_eq_ok_iff (fields : List Field) (value : Json) (given : List (Option String)) :
    contents fields value = .ok given ↔
      Accepts fields value ∧ given = contentsGiven fields value := by
  cases value with
  | array elements =>
      rw [← contentsOfElements_eq_some_iff, contents]
      cases contentsOfElements fields elements <;> simp
  | object members =>
      rw [← memberFault?_eq_none_iff, contents, contentsGiven_object]
      cases memberFault? fields members <;> simp [eq_comm]
  | _ => simp [contents, Accepts]

/-- A form is filled in exactly from the values that are accepted for its fields. -/
theorem Form.decode_eq_ok_iff {α : Type} (form : Form α) (value : Json) (filled : α) :
    form.decode value = .ok filled ↔
      Accepts form.fields value ∧ filled = form.build (contentsGiven form.fields value) := by
  rw [decode]
  constructor
  · intro success
    cases isGiven : contents form.fields value with
    | error fault =>
        rw [isGiven] at success
        cases success
    | ok given =>
        rw [isGiven] at success
        obtain ⟨accepted, rfl⟩ := (contents_eq_ok_iff _ _ _).1 isGiven
        cases success
        exact ⟨accepted, rfl⟩
  · rintro ⟨accepted, rfl⟩
    rw [(contents_eq_ok_iff _ _ _).2 ⟨accepted, rfl⟩]
    rfl

/-! ## Filled-in forms -/

/-- A field holds the content it is built from, and an empty text for none unless it is
optional. -/
def Field.fill (field : Field) (content : Option String) : Option String :=
  if field.isOptional then content else some (content.getD "")

/-- A form that is built from contents holds them. -/
theorem held_build (kind : FormKind) (given : List (Option String)) :
    kind.held (kind.form.build given) =
      kind.form.fields.mapIdx fun position field => field.fill (given[position]?).join := by
  cases kind <;> rfl

/-- What an accepted value gives for a field fits it. -/
theorem fits_of_accepts {fields : List Field} {value given : Json} (accepted : Accepts fields value)
    {position : Nat} (isPosition : position < fields.length)
    (isGiven : givenAt value position fields[position] = some given) :
    fields[position].Fits given := by
  cases value with
  | array elements =>
      obtain ⟨isElement, rfl⟩ := List.getElem?_eq_some_iff.1 isGiven
      apply accepted.2 (fields[position], elements[position])
      exact List.mem_iff_getElem.2 ⟨position, by rw [List.length_zip]; omega, by simp⟩
  | object members => exact accepted.2 _ (List.getElem_mem isPosition) given isGiven
  | _ => cases isGiven

/-- A field that is filled with what fits it holds that. -/
theorem Field.fill_eq_holding (field : Field) {given : Option Json}
    (fits : ∀ value, given = some value → field.Fits value) :
    field.fill (given.bind field.content?).join = field.holding given := by
  cases given with
  | none => simp [fill, holding]
  | some value =>
      rcases fits value rfl with ⟨text, rfl⟩ | ⟨isOptional, rfl⟩
      · simp [fill, holding, content?]
      · simp [fill, holding, content?, isOptional]

/-- A form built from what an accepted value gives holds that. -/
theorem held_build_contentsGiven {kind : FormKind} {value : Json}
    (accepted : Accepts kind.form.fields value) :
    kind.held (kind.form.build (contentsGiven kind.form.fields value)) =
      kind.form.fields.mapIdx fun position field => field.holding (givenAt value position field) := by
  rw [held_build, List.mapIdx_eq_mapIdx_iff]
  intro position isPosition
  have content : (contentsGiven kind.form.fields value)[position]? =
      some ((givenAt value position kind.form.fields[position]).bind
        kind.form.fields[position].content?).join := by
    simp [contentsGiven, isPosition]
  rw [content, Option.join_some]
  apply Field.fill_eq_holding
  intro given isGiven
  exact fits_of_accepts accepted isPosition isGiven

/-- **A body fills in a form exactly if the value it holds is accepted for the form's fields**, and
the form then holds what the value gives.  The body may be any text of the value, which must be
within the limits of the reader. -/
theorem body_fills_form (kind : FormKind) {value : Json} {source before after : List UInt8}
    (isText : Json.IsText value source) (isWithin : Json.IsWithin Json.depthLimit value)
    (isBefore : Json.Blank before) (isAfter : Json.Blank after) :
    ((∃ filled, kind.form.read (before ++ source ++ after) = .ok filled) ↔
        Accepts kind.form.fields value) ∧
      ∀ filled, kind.form.read (before ++ source ++ after) = .ok filled →
        kind.held filled = kind.form.fields.mapIdx fun position field =>
          field.holding (givenAt value position field) := by
  have isRead : kind.form.read (before ++ source ++ after) = kind.form.decode value := by
    simp only [Form.read, Json.read_text isText isWithin isBefore isAfter]
  simp only [isRead, Form.decode_eq_ok_iff]
  constructor
  · constructor
    · rintro ⟨filled, accepted, -⟩
      exact accepted
    · intro accepted
      exact ⟨_, accepted, rfl⟩
  · rintro filled ⟨accepted, rfl⟩
    exact held_build_contentsGiven accepted

/-- A body that repeats a key and gives null for an optional field fills in the form with the last
value of the key and with nothing. -/
theorem repeated_key_fills_account_form :
    ∃ filled, FormKind.account.form.read ([0x20] ++ Text.bytes (Json.object
        [("password", .string "old"), ("email", .null), ("password", .string "new")]).text
          ++ [0x0a]) = .ok filled ∧
      FormKind.account.held filled = [none, some "new"] := by
  let members : List (String × Json) :=
    [("password", .string "old"), ("email", .null), ("password", .string "new")]
  have isWithin : Json.IsWithin (126 + 1) (.object members) := by
    refine .object fun member present => ?_
    simp only [members, List.mem_cons, List.not_mem_nil, or_false] at present
    rcases present with rfl | rfl | rfl
    · exact .string _ _
    · exact .null _
    · exact .string _ _
  have isBefore : Json.Blank [0x20] := Json.blank_singleton rfl
  have isAfter : Json.Blank [0x0a] := Json.blank_singleton rfl
  obtain ⟨fills, holds⟩ := body_fills_form .account
    (Json.isText_of_spaced isWithin _ (Json.spaced_text (.object members))) isWithin
    isBefore isAfter
  have accepted : Accepts FormKind.account.form.fields (.object members) :=
    memberFault?_eq_none_iff.1 (by decide)
  obtain ⟨filled, isFilled⟩ := fills.2 accepted
  exact ⟨filled, isFilled, holds filled isFilled⟩

end Gatehouse.Http
