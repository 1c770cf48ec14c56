import Gatehouse.Proofs.Http.Forms
import Gatehouse.Proofs.Json.Cutting

/-!
# Bodies that write a form

A filled-in form is written as an object that gives the content of each field under its name, a
text as a string and nothing as null.  The members may stand in any order, with any blanks between
the tokens (`FormKind.IsBodyOf`).

Such a body is read back to the form, whatever characters its texts hold.  Cut short anywhere it is
badly formed, without a position; with anything but blanks behind it, it is more than a single
value; and blanks alone are an empty body.  `body_of_form` states all four.
-/

namespace Gatehouse.Http

set_option autoImplicit false

/-! ## Writing a form -/

/-- The value that a field's content is written as. -/
def writtenContent : Option String → Json
  | some text => .string text
  | none => .null

namespace FormKind

/-- The members of the object that a filled-in form is written as, in the order of its fields. -/
def members (kind : FormKind) (filled : kind.Filled) : List (String × Json) :=
  (kind.form.fields.zip (kind.held filled)).map fun pair => (pair.1.name, writtenContent pair.2)

/-- Whether bytes write a filled-in form: an object with its members in any order, any blanks
between the tokens. -/
def IsBodyOf (kind : FormKind) (filled : kind.Filled) (source : List UInt8) : Prop :=
  ∃ members : List (String × Json), members.Perm (kind.members filled) ∧
    Json.Spaced (Json.tokens (.object members)) source

end FormKind

/-! ## Members -/

variable {kind : FormKind} {filled : kind.Filled} {members : List (String × Json)}

/-- The names of a form's fields are distinct. -/
theorem nodup_members (kind : FormKind) (filled : kind.Filled) :
    ((kind.members filled).map Prod.fst).Nodup := by
  have names : (kind.members filled).map Prod.fst = kind.form.fields.map Field.name := by
    cases kind <;> rfl
  rw [names]
  cases kind <;> decide

/-- In whatever order the members stand, each field is given what is written for it. -/
theorem member?_of_perm (perm : members.Perm (kind.members filled)) {member : String × Json}
    (present : member ∈ kind.members filled) :
    Json.member? members member.1 = some member.2 := by
  have distinct : (members.map Prod.fst).Nodup :=
    (perm.map Prod.fst).nodup_iff.2 (nodup_members kind filled)
  exact Json.member?_of_mem distinct (perm.mem_iff.2 present)

/-- The values of a form's members are strings or null. -/
theorem value_of_mem_members {member : String × Json} (present : member ∈ kind.members filled) :
    (∃ text, member.2 = .string text) ∨ member.2 = .null := by
  obtain ⟨⟨field, content⟩, -, rfl⟩ := List.mem_map.1 present
  cases content with
  | some text => exact .inl ⟨text, rfl⟩
  | none => exact .inr rfl

/-! ## Reading a form back -/

/-- Only an optional field holds nothing. -/
theorem content?_writtenContent {pair : Field × Option String}
    (present : pair ∈ kind.form.fields.zip (kind.held filled)) :
    pair.1.content? (writtenContent pair.2) = some pair.2 := by
  obtain ⟨field, content⟩ := pair
  have holds : content = none → field.isOptional = true := by
    rintro rfl
    cases kind <;>
      simp [FormKind.form, FormKind.held, registrationForm, credentialsForm, tokenForm, resetForm,
        passwordForm, accountForm] at present
    rcases present with ⟨rfl, -⟩ | ⟨rfl, -⟩ <;> rfl
  cases content with
  | some text => rfl
  | none => simp [writtenContent, Field.content?, holds]

/-- A form holds something for each field. -/
theorem length_held (kind : FormKind) (filled : kind.Filled) :
    (kind.held filled).length = kind.form.fields.length := by
  cases kind <;> rfl

/-- The members of a form give it back what it holds. -/
theorem contentsGiven_of_perm (perm : members.Perm (kind.members filled)) :
    contentsGiven kind.form.fields (.object members) = kind.held filled := by
  have length := length_held kind filled
  let pairs := kind.form.fields.zip (kind.held filled)
  calc contentsGiven kind.form.fields (.object members)
      = contentsOfMembers (pairs.map Prod.fst) members := by
        rw [contentsGiven_object, List.map_fst_zip (Nat.le_of_eq length.symm)]
    _ = pairs.map fun pair =>
          ((Json.member? members pair.1.name).bind pair.1.content?).join := by
        rw [contentsOfMembers, List.map_map]
        rfl
    _ = pairs.map Prod.snd := by
        refine List.map_congr_left fun pair isPair => ?_
        have given := member?_of_perm perm (List.mem_map_of_mem isPair)
        rw [given, Option.bind_some, content?_writtenContent isPair, Option.join_some]
    _ = kind.held filled := List.map_snd_zip (Nat.le_of_eq length)

/-- A form built from what a filled-in form holds is that form. -/
theorem build_held (kind : FormKind) (filled : kind.Filled) :
    kind.form.build (kind.held filled) = filled := by
  cases kind <;> rfl

/-- The members of a filled-in form are accepted for it. -/
theorem accepts_of_perm (perm : members.Perm (kind.members filled)) :
    Accepts kind.form.fields (.object members) := by
  constructor
  · intro member present
    obtain ⟨pair, isPair, rfl⟩ := List.mem_map.1 (perm.mem_iff.1 present)
    exact ⟨pair.1, (List.of_mem_zip isPair).1, rfl⟩
  · intro field isField value isGiven
    have fields := List.map_fst_zip (Nat.le_of_eq (length_held kind filled).symm)
    obtain ⟨pair, isPair, rfl⟩ := List.mem_map.1 (fields.symm ▸ isField)
    have given := member?_of_perm perm (List.mem_map_of_mem isPair)
    obtain rfl : writtenContent pair.2 = value := Option.some.inj (given.symm.trans isGiven)
    rw [← Field.isSome_content?_iff, content?_writtenContent isPair]
    rfl

/-- The object that a form is written as fills it in again. -/
theorem decode_of_perm (perm : members.Perm (kind.members filled)) :
    kind.form.decode (.object members) = .ok filled := by
  rw [Form.decode_eq_ok_iff, contentsGiven_of_perm perm, build_held]
  exact ⟨accepts_of_perm perm, rfl⟩

/-! ## Bodies -/

/-- The object that a form is written as is within the limits of the reader. -/
theorem isWithin_of_perm (perm : members.Perm (kind.members filled)) :
    Json.IsWithin Json.depthLimit (.object members) := by
  have within : Json.IsWithin (126 + 1) (.object members) := by
    refine .object fun member present => ?_
    rcases value_of_mem_members (perm.mem_iff.1 present) with ⟨text, isText⟩ | isNull
    · exact isText ▸ .string _ text
    · exact isNull ▸ .null _
  exact within

/-- There is no number in the object that a form is written as. -/
theorem not_hasNumber_of_perm (perm : members.Perm (kind.members filled)) :
    ¬ Json.HasNumber (.object members) := by
  intro hasNumber
  cases hasNumber with
  | member present hasNumber =>
      rcases value_of_mem_members (perm.mem_iff.1 present) with ⟨text, isText⟩ | isNull
      · cases isText ▸ hasNumber
      · cases isNull ▸ hasNumber

/-- What is missing of the text of an object holds its last brace. -/
theorem not_blank_of_cut {source before front back : List UInt8}
    (isText : Json.IsText (.object members) source) (isCut : front ++ back = before ++ source)
    (missing : back ≠ []) : ¬ Json.Blank back := by
  obtain ⟨inner, isSource⟩ : ∃ inner, source = inner ++ [0x7d] := by
    cases isText with
    | emptyObject isBlank => exact ⟨_, rfl⟩
    | object isWritten => exact ⟨_, rfl⟩
  have last : back.getLast missing = 0x7d := by
    have whole := congrArg List.getLast? isCut
    rw [List.getLast?_append, List.getLast?_eq_some_getLast missing, Option.some_or, isSource,
      ← List.append_assoc, List.getLast?_concat] at whole
    exact Option.some.inj whole
  intro blank
  have isBlank := blank _ (last ▸ List.getLast_mem missing)
  cases isBlank

/-- **The fate of a body that writes a form.**  With blanks around it, it is read back to the form.
Cut anywhere after its first brace it is badly formed, with anything but blanks behind it there is
more than a single value, and blanks alone are an empty body. -/
theorem body_of_form (kind : FormKind) (filled : kind.Filled) {source before : List UInt8}
    (isBody : kind.IsBodyOf filled source) (isBefore : Json.Blank before) :
    (∀ after, Json.Blank after →
        kind.form.read (before ++ source ++ after) = .ok filled) ∧
      (∀ front back, front ++ back = before ++ source → back ≠ [] → ¬ Json.Blank front →
        (kind.form.read front).mapError BodyFault.message =
          .error "request body contains badly-formed JSON") ∧
      (∀ more, ¬ Json.Blank more →
        (kind.form.read (before ++ source ++ more)).mapError BodyFault.message =
          .error "request body must only contain a single JSON value") ∧
      ∀ body, Json.Blank body →
        (kind.form.read body).mapError BodyFault.message =
          .error "request body must not be empty" := by
  obtain ⟨members, perm, spaced⟩ := isBody
  have isWithin := isWithin_of_perm perm
  have isText := Json.isText_of_spaced isWithin source spaced
  refine ⟨?_, ?_, ?_, ?_⟩
  · intro after isAfter
    rw [Form.read, Json.read_text isText isWithin isBefore isAfter]
    exact decode_of_perm perm
  · intro front back isCut missing started
    have isRead : Json.read (front ++ back) = .ok (.object members) := by
      rw [isCut]
      simpa using Json.read_text isText isWithin isBefore Json.blank_nil
    have notBlank := not_blank_of_cut isText isCut missing
    rw [Form.read, Json.read_of_cut isRead (not_hasNumber_of_perm perm) started notBlank]
    rfl
  · intro more notBlank
    have notBare : ¬ Json.IsBare (.object members) := by
      simp [Json.IsBare]
    rw [Form.read, Json.read_of_more isText isWithin isBefore notBare notBlank]
    rfl
  · intro body blank
    rw [Form.read, Json.read_of_blank blank]
    rfl

/-- A token with a quote, a letter outside ASCII, a backslash and a line break is read back. -/
theorem token_body_is_read_back :
    let source := (Json.tokens (.object [("token", .string "\"é\\\n")])).flatten
    FormKind.token.form.read ([0x20] ++ source ++ [0x0a]) = .ok ⟨"\"é\\\n"⟩ ∧
      (FormKind.token.form.read [0x20, 0x7b]).mapError BodyFault.message =
        .error "request body contains badly-formed JSON" ∧
      (FormKind.token.form.read ([0x20] ++ source ++ [0x2c])).mapError BodyFault.message =
        .error "request body must only contain a single JSON value" := by
  intro source
  have isBody : FormKind.token.IsBodyOf ⟨"\"é\\\n"⟩ source :=
    ⟨_, .refl _, Json.Spaced.flatten (Json.tokens_ne_nil _)⟩
  have isBefore : Json.Blank [0x20] := Json.blank_singleton rfl
  obtain ⟨whole, cut, more, -⟩ := body_of_form .token _ isBody isBefore
  refine ⟨whole [0x0a] (Json.blank_singleton rfl), cut [0x20, 0x7b] (source.drop 1) rfl ?_ ?_,
    more [0x2c] ?_⟩
  · exact List.append_ne_nil_of_right_ne_nil _ (List.cons_ne_nil _ _)
  · intro isBlank
    cases isBlank 0x7b (.tail _ (.head _))
  · intro isBlank
    cases isBlank 0x2c (.head _)

end Gatehouse.Http
