import Gatehouse.Proofs.Workflow.Logins

/-!
# What a report lists

A report has one entry for each field that breaks its rule, and no others.  That is so whatever the
number of checks made on a field: of several complaints about one the first stays
(`mem_fields_check`).  For a registration the fields are those in `BreaksRegistration`, and for a
change of an account those in `BreaksChange`, where asking for nothing is a complaint about the
account as a whole.
-/

namespace Gatehouse.Validation

set_option autoImplicit false

/-! ## Fields -/

namespace Report

/-- The fields that a report complains about. -/
def fields (report : Report) : List String :=
  report.messages.entries.map Prod.fst

/-- Whether a report has one entry for each field with a property, and no others. -/
structure Lists (report : Report) (breaks : String → Prop) : Prop where
  once : report.fields.Nodup
  mem_iff : ∀ field, field ∈ report.fields ↔ breaks field

variable {report : Report} {field name message : String}

theorem mem_fields_iff : field ∈ report.fields ↔ (report.get? field).isSome = true := by
  simp [fields, get?, Text.Dictionary.get?]

theorem nodup_fields (report : Report) : report.fields.Nodup :=
  List.pairwise_map.2 (report.messages.ascending.imp String.ne_of_lt)

theorem isAcceptable_iff : report.isAcceptable = true ↔ ∀ field, field ∉ report.fields := by
  rw [isAcceptable, Text.Dictionary.isEmpty, List.isEmpty_iff, ← List.eq_nil_iff_forall_not_mem,
    fields, List.map_eq_nil_iff]

/-- A check adds its field if its rule is broken, unless the field is there already. -/
theorem mem_fields_check {isKept : Bool} :
    field ∈ (report.check isKept name message).fields ↔
      field ∈ report.fields ∨ (isKept = false ∧ field = name) := by
  cases isKept with
  | true => simp [check]
  | false =>
      rw [check, if_neg Bool.false_ne_true, mem_fields_iff, mem_fields_iff, get?_add]
      by_cases same : field = name <;> simp [same]

/-- Two checks of one field are one check of both rules. -/
theorem mem_fields_check_check {former latter : Bool} {message' : String} :
    field ∈ ((report.check former name message).check latter name message').fields ↔
      field ∈ report.fields ∨ ((former && latter) = false ∧ field = name) := by
  rw [mem_fields_check, mem_fields_check, or_assoc, ← or_and_right, Bool.and_eq_false_iff]

end Report

/-! ## Rules of a registration -/

/-- The fields of a registration that break their rules. -/
inductive BreaksRegistration (username email password : String) : String → Prop
  | username (isBroken : isUsername username = false) :
      BreaksRegistration username email password "username"
  | email (isBroken : isEmail email = false) :
      BreaksRegistration username email password "email"
  | password (isBroken : meetsPasswordPolicy password = false) :
      BreaksRegistration username email password "password"

variable {report : Report} {username email password field : String}

/-- A registration that breaks no rule has an address, and a password that meets the policy. -/
theorem isEmail_and_meetsPasswordPolicy
    (isKept : ∀ field, ¬BreaksRegistration username email password field) :
    isEmail email = true ∧ meetsPasswordPolicy password = true := by
  rw [← Bool.not_eq_false, ← Bool.not_eq_false]
  exact ⟨fun isBroken => isKept _ (.email isBroken), fun isBroken => isKept _ (.password isBroken)⟩

theorem mem_fields_checkUsername :
    field ∈ (checkUsername report username).fields ↔
      field ∈ report.fields ∨ (isUsername username = false ∧ field = "username") := by
  have isGiven : (!username.isEmpty && isUsername username) = isUsername username := by
    rw [Bool.and_eq_right_iff_imp, isUsername, Bool.and_eq_true]
    exact fun kept => not_isEmpty_of_lengthBetween kept.1
  rw [checkUsername, Report.mem_fields_check_check, Report.mem_fields_check, or_assoc,
    ← or_and_right, ← Bool.and_eq_false_iff]
  change _ ∨ ((!username.isEmpty && isUsername username) = false ∧ _) ↔ _
  rw [isGiven]

theorem mem_fields_checkEmail :
    field ∈ (checkEmail report email).fields ↔
      field ∈ report.fields ∨ (isEmail email = false ∧ field = "email") := by
  have isGiven : (!email.isEmpty && isEmail email) = isEmail email := by
    rw [Bool.and_eq_right_iff_imp, Bool.not_eq_true', String.isEmpty_eq_false_iff]
    rintro isAddress rfl
    cases isAddress
  rw [checkEmail, Report.mem_fields_check_check, isGiven]

theorem mem_fields_checkPassword :
    field ∈ (checkPassword report password).fields ↔
      field ∈ report.fields ∨ (meetsPasswordPolicy password = false ∧ field = "password") :=
  Report.mem_fields_check

theorem notMem_fields_empty : field ∉ Report.empty.fields :=
  List.not_mem_nil

/-- The report on a registration lists the fields that break their rules. -/
theorem registrationReport_lists (username email password : String) :
    (registrationReport username email password).Lists
      (BreaksRegistration username email password) := by
  refine ⟨Report.nodup_fields _, fun field => ?_⟩
  simp only [registrationReport, mem_fields_checkPassword, mem_fields_checkEmail,
    mem_fields_checkUsername, notMem_fields_empty, false_or]
  constructor
  · rintro ((⟨isBroken, rfl⟩ | ⟨isBroken, rfl⟩) | ⟨isBroken, rfl⟩)
    · exact .username isBroken
    · exact .email isBroken
    · exact .password isBroken
  · rintro (isBroken | isBroken | isBroken)
    · exact .inl (.inl ⟨isBroken, rfl⟩)
    · exact .inl (.inr ⟨isBroken, rfl⟩)
    · exact .inr ⟨isBroken, rfl⟩

/-! ## Rules of a change -/

/-- The fields of a change that break their rules.  A change must ask for something. -/
inductive BreaksChange (email password : Option String) : String → Prop
  | email {given : String} (isGiven : email = some given) (isBroken : isEmail given = false) :
      BreaksChange email password "email"
  | password {given : String} (isGiven : password = some given)
      (isBroken : meetsPasswordPolicy given = false) : BreaksChange email password "password"
  | account (noEmail : email = none) (noPassword : password = none) :
      BreaksChange email password "account"

/-- The report on a change lists the fields that break their rules. -/
theorem updateReport_lists (email password : Option String) :
    (Service.updateReport email password).Lists (BreaksChange email password) := by
  refine ⟨Report.nodup_fields _, fun field => ?_⟩
  rw [Service.updateReport, Report.mem_fields_check]
  constructor
  · rintro (isListed | ⟨isEmpty, rfl⟩)
    · cases email <;> cases password <;>
        simp only [changeReport, mem_fields_checkPassword, mem_fields_checkEmail,
          notMem_fields_empty, false_or] at isListed
      case none.some => exact isListed.2 ▸ .password rfl isListed.1
      case some.none => exact isListed.2 ▸ .email rfl isListed.1
      case some.some =>
        rcases isListed with ⟨isBroken, rfl⟩ | ⟨isBroken, rfl⟩
        · exact .email rfl isBroken
        · exact .password rfl isBroken
    · obtain ⟨noEmail, noPassword⟩ := Bool.or_eq_false_iff.1 isEmpty
      exact .account (by simpa using noEmail) (by simpa using noPassword)
  · rintro (⟨rfl, isBroken⟩ | ⟨rfl, isBroken⟩ | ⟨rfl, rfl⟩)
    · cases password <;>
        simp [changeReport, mem_fields_checkPassword, mem_fields_checkEmail, isBroken]
    · cases email <;> simp [changeReport, mem_fields_checkPassword, isBroken]
    · exact .inr ⟨rfl, rfl⟩

end Gatehouse.Validation
