import Mathlib.Data.List.TakeWhile
import Gatehouse.Proofs.Http.Forms
import Gatehouse.Proofs.Text.ByteOrder

/-!
# Which key is blamed

A key of an object offends the fields of a form if none of them has it for a name, or if its value
does not fit (`Offends`).  A form that an object does not fill in blames one key, the least of those
that offend in the order of their bytes: the members are gone through in this order, so the first
that cannot be taken is the least (`firstMisfit?_eq_some`), and of the members that are tried alone
it is the first that cannot be taken, too (`describe_invalidValue`).

How the key is told differs.  That of a declared field is told in full.  A key that is not declared
is taken from words in which it stands between backticks, and so only as far as it holds none
(`upToBacktick_unknownFieldWords`).
-/

namespace Gatehouse.Http

set_option autoImplicit false

/-! ## Offending keys -/

/-- Whether some fields have a name among them. -/
def Declares (fields : List Field) (name : String) : Prop :=
  ∃ field ∈ fields, field.name = name

/-- Whether a key of an object is not declared or has a value that does not fit. -/
def Offends (fields : List Field) (members : List (String × Json)) (key : String) : Prop :=
  ∃ value, Json.member? members key = some value ∧
    (¬Declares fields key ∨ ∃ field ∈ fields, field.name = key ∧ ¬field.Fits value)

/-- Whether a key offends and is the least, in byte order, of those that do. -/
structure IsBlamed (fields : List Field) (members : List (String × Json)) (key : String) :
    Prop where
  offends : Offends fields members key
  least : ∀ other, Offends fields members other → Text.bytes key ≤ Text.bytes other

section

variable {fields : List Field} {members : List (String × Json)} {key : String} {value : Json}
  {misfit : Misfit}

theorem offends_iff :
    Offends fields members key ↔
      ∃ value, Json.member? members key = some value ∧ misfit? fields (key, value) ≠ none := by
  refine exists_congr fun value => and_congr_right fun _ => ?_
  rw [ne_eq, misfit?_eq_none_iff, Takes, not_and_or]
  simp only [not_forall, exists_prop, Declares]

/-- What cannot be taken of a member tells whether its key is declared. -/
theorem misfit?_cases (isMisfit : misfit? fields (key, value) = some misfit) :
    (misfit = .unknownField key ∧ ¬Declares fields key) ∨
      (misfit = .invalidValue ∧ Declares fields key) := by
  have noneNamed : (fields.filter fun field => field.name == key).isEmpty = true ↔
      ¬Declares fields key := by
    simp [Declares]
  rw [misfit?] at isMisfit
  split at isMisfit
  next isEmpty =>
    cases isMisfit
    exact .inl ⟨rfl, noneNamed.1 isEmpty⟩
  next notEmpty =>
    split at isMisfit
    next => cases isMisfit
    next =>
      cases isMisfit
      exact .inr ⟨rfl, not_not.1 (mt noneNamed.2 notEmpty)⟩

/-- The first member that cannot be taken has the key to blame. -/
theorem firstMisfit?_eq_some (isFirst : firstMisfit? fields members = some misfit) :
    ∃ key value, misfit? fields (key, value) = some misfit ∧ IsBlamed fields members key ∧
      (inOrder members).find? (fun member => (misfit? fields member).isSome) =
        some (key, value) := by
  obtain ⟨before, ⟨key, value⟩, behind, isSplit, isMisfit, areTaken⟩ :=
    List.findSome?_eq_some_iff.1 isFirst
  have present : (key, value) ∈ inOrder members := by
    rw [isSplit]
    exact List.mem_append_right _ (.head _)
  refine ⟨key, value, isMisfit, ⟨?_, fun other offends => ?_⟩, ?_⟩
  · refine offends_iff.2 ⟨value, mem_inOrder_iff.1 present, ?_⟩
    rw [isMisfit]
    exact Option.some_ne_none _
  · obtain ⟨otherValue, isValue, notTaken⟩ := offends_iff.1 offends
    have isOther : (other, otherValue) ∈ inOrder members := mem_inOrder_iff.2 isValue
    have ascending := ascending_inOrder members
    rw [isSplit] at isOther ascending
    -- the keys in front of the first can be taken, and those behind it are greater
    rcases List.mem_append.1 isOther with isBefore | isThere
    · exact absurd (areTaken _ isBefore) notTaken
    · rcases List.mem_cons.1 isThere with same | isBehind
      · cases same
        exact List.le_refl _
      · have above := (List.pairwise_cons.1 (List.pairwise_append.1 ascending).2.1).1 _ isBehind
        exact List.le_of_lt (Text.bytes_lt_bytes_iff.2 above)
  · rw [isSplit, List.find?_append, List.find?_eq_none.2 fun member isBefore => by
      simp [areTaken member isBefore]]
    simp [isMisfit]

theorem firstMisfit?_singleton (member : String × Json) :
    firstMisfit? fields [member] = misfit? fields member := by
  have alone : inOrder [member] = [member] := rfl
  rw [firstMisfit?, alone, List.findSome?_singleton]

end

/-! ## What is told of a key -/

theorem upToBacktick_eq_self {key : String} (noBacktick : '\x60' ∉ key.toList) :
    upToBacktick key = key := by
  have notBacktick : ∀ c ∈ key.toList, (c != '\x60') = true := fun c isMember =>
    bne_iff_ne.2 fun same => noBacktick (same ▸ isMember)
  rw [upToBacktick, List.takeWhile_eq_self_iff.2 notBacktick, String.ofList_toList]

theorem takeWhile_append_backtick (cs rest : List Char) :
    (cs ++ '\x60' :: rest).takeWhile (fun c => c != '\x60') =
      cs.takeWhile fun c => c != '\x60' := by
  induction cs with
  | nil => rfl
  | cons c cs ih => simp only [List.cons_append, List.takeWhile_cons, ih]

/-- The words about an unknown field quote its name as far as it holds no backtick. -/
theorem upToBacktick_unknownFieldWords (fields : List Field) (key : String) :
    upToBacktick (unknownFieldWords fields key) = upToBacktick key := by
  have opening : "\x60, expected ".toList = '\x60' :: ", expected ".toList := rfl
  simp only [unknownFieldWords, upToBacktick, String.toList_append, opening, List.append_assoc,
    List.cons_append, takeWhile_append_backtick]

/-- The fault of an object that cannot be taken blames the key to blame: one that is not declared as
an unknown field, up to its first backtick, and one that is declared for its value, in full. -/
theorem memberFault?_eq_some {fields : List Field} {members : List (String × Json)}
    {fault : BodyFault} (isFault : memberFault? fields members = some fault) :
    ∃ key, IsBlamed fields members key ∧
      ((¬Declares fields key ∧ fault = .unknownField (upToBacktick key)) ∨
        (Declares fields key ∧ fault = .invalidField key)) := by
  obtain ⟨misfit, isFirst, rfl⟩ := Option.map_eq_some_iff.1 isFault
  obtain ⟨key, value, isMisfit, isBlamed, isFound⟩ := firstMisfit?_eq_some isFirst
  refine ⟨key, isBlamed, ?_⟩
  rcases misfit?_cases isMisfit with ⟨rfl, notDeclared⟩ | ⟨rfl, isDeclared⟩
  · exact .inl ⟨notDeclared, by rw [describe, upToBacktick_unknownFieldWords]⟩
  · exact .inr ⟨isDeclared, by simp only [describe, firstMisfit?_singleton, isFound]⟩

/-! ## Bodies -/

variable {α : Type} {form : Form α} {body : List UInt8} {members : List (String × Json)}

/-- A body that holds an object fails to fill in a form with the fault of the object. -/
theorem Form.read_eq_error_iff (isRead : Json.read body = .ok (.object members))
    {fault : BodyFault} :
    form.read body = .error fault ↔ memberFault? form.fields members = some fault := by
  simp only [read, isRead, decode, contents]
  cases memberFault? form.fields members <;> simp [Except.map]

/-- **The least offending key is blamed.**  Take any form and any body that holds an object.

* The body fails to fill in the form exactly if one of the object's keys offends: the form does not
  declare it, or the last value that it is given does not fit.
* If it fails, the message blames the least of these keys in byte order.  If the form declares the
  key, the message names it in full as a field with an invalid value.  If not, the message names it
  as an unknown field, up to its first backtick, and so in full if it has none. -/
theorem Form.blames_least_key (form : Form α)
    (isRead : Json.read body = .ok (.object members)) :
    ((∃ fault, form.read body = .error fault) ↔ ∃ key, Offends form.fields members key) ∧
      ∀ fault, form.read body = .error fault → ∃ key, IsBlamed form.fields members key ∧
        (Declares form.fields key → fault.message =
          "request body contains an invalid value for the \"" ++ key ++ "\" field") ∧
        (¬Declares form.fields key → fault.message =
          "request body contains unknown field \"" ++ upToBacktick key ++ "\"") ∧
        ('\x60' ∉ key.toList → upToBacktick key = key) := by
  simp only [Form.read_eq_error_iff isRead]
  constructor
  · constructor
    · rintro ⟨fault, isFault⟩
      obtain ⟨key, isBlamed, -⟩ := memberFault?_eq_some isFault
      exact ⟨key, isBlamed.offends⟩
    · rintro ⟨key, offends⟩
      obtain ⟨value, isValue, notTaken⟩ := offends_iff.1 offends
      refine Option.ne_none_iff_exists'.1 fun noFault => notTaken ?_
      rw [memberFault?, Option.map_eq_none_iff, firstMisfit?_eq_none_iff] at noFault
      exact misfit?_eq_none_iff.2 (noFault key value isValue)
  · intro fault isFault
    obtain ⟨key, isBlamed, ⟨notDeclared, rfl⟩ | ⟨isDeclared, rfl⟩⟩ := memberFault?_eq_some isFault
    · exact ⟨key, isBlamed, fun isDeclared => absurd isDeclared notDeclared, fun _ => rfl,
        upToBacktick_eq_self⟩
    · exact ⟨key, isBlamed, fun _ => rfl, fun notDeclared => absurd isDeclared notDeclared,
        upToBacktick_eq_self⟩

/-- The members of a registration in which three keys offend: a text that is null, one that is a
truth value, and a key that is not declared. -/
def mixedMembers : List (String × Json) :=
  [("rôle", .string "admin"), ("password", .boolean true), ("username", .string "alice"),
    ("email", .null)]

theorem isWithin_mixedMembers : Json.IsWithin (126 + 1) (.object mixedMembers) := by
  refine .object fun member present => ?_
  simp only [mixedMembers, List.mem_cons, List.not_mem_nil, or_false] at present
  rcases present with rfl | rfl | rfl | rfl
  · exact .string _ _
  · exact .boolean _ _
  · exact .string _ _
  · exact .null _

/-- Of several keys that offend the least is blamed, wherever it is written. -/
theorem least_of_mixed_keys_is_blamed :
    ∃ fault, registrationForm.read (Text.bytes (Json.object mixedMembers).text) = .error fault ∧
      fault.message = "request body contains an invalid value for the \"email\" field" := by
  obtain ⟨fails, blames⟩ :=
    registrationForm.blames_least_key (Json.read_text_printed isWithin_mixedMembers)
  have isDeclared : Declares registrationForm.fields "email" := ⟨.required "email", by decide, rfl⟩
  have offends : Offends registrationForm.fields mixedMembers "email" :=
    ⟨.null, rfl, .inr ⟨.required "email", by decide, rfl, by simp [Field.Fits, Field.required]⟩⟩
  obtain ⟨fault, isFault⟩ := fails.2 ⟨_, offends⟩
  obtain ⟨key, isBlamed, ofDeclared, -⟩ := blames fault isFault
  have isLeast : ∀ key ∈ mixedMembers.map Prod.fst,
      Text.bytes key ≤ Text.bytes "email" → key = "email" := by decide
  obtain ⟨value, isValue, -⟩ := isBlamed.offends
  obtain ⟨member, present, rfl⟩ := Json.exists_member?_iff.1 ⟨value, isValue⟩
  have isEmail := isLeast _ (List.mem_map_of_mem present) (isBlamed.least _ offends)
  rw [isEmail] at ofDeclared
  exact ⟨fault, isFault, ofDeclared isDeclared⟩

/-- A key that holds a backtick, with the name of a declared field in front of it. -/
def backtickMembers : List (String × Json) :=
  [("email\x60x", .string "a@b.co")]

/-- What is told of such a key is the name of the declared field, and not the key. -/
theorem declared_field_is_reported_as_unknown :
    ∃ fault, resetForm.read (Text.bytes "\x7b\"email\x60x\":\"a@b.co\"\x7d") = .error fault ∧
      IsBlamed resetForm.fields backtickMembers "email\x60x" ∧
      ¬Declares resetForm.fields "email\x60x" ∧ Declares resetForm.fields "email" ∧
      fault.message = "request body contains unknown field \"email\"" ∧
      fault.message ≠ "request body contains unknown field \"email\x60x\"" := by
  have isWithin : Json.IsWithin (126 + 1) (.object backtickMembers) := by
    refine .object fun member present => ?_
    rw [List.mem_singleton.1 present]
    exact .string _ _
  have isText : "\x7b\"email\x60x\":\"a@b.co\"\x7d" = (Json.object backtickMembers).text := rfl
  have isFault : memberFault? resetForm.fields backtickMembers = some (.unknownField "email") := by
    decide
  have notDeclared : ¬Declares resetForm.fields "email\x60x" := by
    rintro ⟨field, isField, isNamed⟩
    rw [List.mem_singleton.1 isField] at isNamed
    exact absurd isNamed (by decide)
  refine ⟨.unknownField "email", ?_, ⟨?_, fun other offends => ?_⟩, notDeclared,
    ⟨.required "email", .head _, rfl⟩, rfl, by decide⟩
  · rw [isText]
    exact (Form.read_eq_error_iff (Json.read_text_printed isWithin)).2 isFault
  · exact ⟨.string "a@b.co", rfl, .inl notDeclared⟩
  · obtain ⟨value, isValue, -⟩ := offends
    obtain ⟨member, present, rfl⟩ := Json.exists_member?_iff.1 ⟨value, isValue⟩
    rw [List.mem_singleton.1 present]
    exact List.le_refl _

end Gatehouse.Http
