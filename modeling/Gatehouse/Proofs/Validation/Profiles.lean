import Gatehouse.Proofs.Validation.AddressGrammar
import Gatehouse.Proofs.Validation.Reports

/-!
# Profiles as lists of rules

Each field of a form has its rules, in an order, and a value is answered with the message of the
first rule that it breaks (`complaint?`).  Checking the rules of a field one after the other puts
this message into a report, unless the field has one already, and leaves the other fields alone
(`Report.get?_checkAll`).  A profile is therefore told by the fields that it checks: it says of each
what a registration says of it, and nothing of the others (`Report.AgreesOn`).

A username is one exactly if it has 3 to 25 characters that are all ASCII letters and digits.  The
rule for its length counts bytes, which are its characters as soon as the rule for the characters is
kept (`isUsername_iff`).
-/

namespace Gatehouse.Validation

set_option autoImplicit false

/-! ## Rules -/

/-- A rule for a field, with what is said of a value that breaks it. -/
structure Rule where
  isKept : String → Bool
  message : String

/-- What is said of a value: the message of the first rule that it breaks, if it breaks one. -/
def complaint? (rules : List Rule) (value : String) : Option String :=
  (rules.find? fun rule => !rule.isKept value).map Rule.message

/-- The rules for usernames. -/
def usernameRules : List Rule :=
  [⟨fun username => !username.isEmpty, missingMessage⟩,
   ⟨fun username => lengthBetween username 3 25, "must be 3-25 characters long"⟩,
   ⟨fun username => username.toList.all isLetterOrDigit, "must contain only letters and numbers"⟩]

/-- The rules for email addresses. -/
def emailRules : List Rule :=
  [⟨fun email => !email.isEmpty, missingMessage⟩, ⟨isEmail, "must be a valid email address"⟩]

/-- The rule for passwords. -/
def passwordRules : List Rule :=
  [⟨meetsPasswordPolicy, passwordMessage⟩]

/-! ## Reports by fields -/

namespace Report

variable {report whole : Report} {field other : String}

/-- Checks a value against the rules of its field, one after the other. -/
def checkAll (report : Report) (field : String) (rules : List Rule) (value : String) : Report :=
  rules.foldl (fun report rule => report.check (rule.isKept value) field rule.message) report

/-- The message of a field after one more check. -/
theorem get?_check (report : Report) (isKept : Bool) (field message other : String) :
    (report.check isKept field message).get? other =
      if other = field ∧ isKept = false then some ((report.get? field).getD message)
      else report.get? other := by
  cases isKept with
  | true => simp [check]
  | false => simp [check, get?_add]

/-- What is said of a field first stays, and the other fields are left alone. -/
theorem get?_checkAll (report : Report) (field : String) (rules : List Rule)
    (value other : String) :
    (report.checkAll field rules value).get? other =
      if other = field then (report.get? field).or (complaint? rules value)
      else report.get? other := by
  induction rules generalizing report with
  | nil =>
      by_cases same : other = field
      · simp [checkAll, complaint?, same]
      · simp [checkAll, same]
  | cons rule rest ih =>
      have begun := ih (report.check (rule.isKept value) field rule.message)
      rw [get?_check, get?_check] at begun
      rw [checkAll, List.foldl_cons, ← checkAll, begun]
      by_cases same : other = field
      · cases isKept : rule.isKept value with
        | true => simp [same, complaint?, isKept]
        | false => cases report.get? field <;> simp [same, complaint?, isKept]
      · simp [same]

theorem get?_empty (field : String) : empty.get? field = none := rfl

theorem isAcceptable_iff_get? :
    report.isAcceptable = true ↔ ∀ field, report.get? field = none := by
  rw [isAcceptable_iff]
  refine forall_congr' fun field => ?_
  rw [mem_fields_iff, Bool.not_eq_true, Option.isSome_eq_false_iff, Option.isNone_iff_eq_none]

/-- Whether a report says of some fields what another one says of them, and of no other field
anything. -/
def AgreesOn (report whole : Report) (fields : List String) : Prop :=
  ∀ field, report.get? field = if field ∈ fields then whole.get? field else none

theorem AgreesOn.isAcceptable {fields : List String} (agrees : report.AgreesOn whole fields)
    (isAccepted : whole.isAcceptable = true) : report.isAcceptable = true := by
  rw [isAcceptable_iff_get?] at isAccepted ⊢
  intro field
  rw [agrees field, isAccepted field, ite_self]

end Report

/-! ## Profiles -/

/-- Checks the value of a field if it is given. -/
def Report.checkGiven (report : Report) (field : String) (rules : List Rule) :
    Option String → Report
  | none => report
  | some value => report.checkAll field rules value

/-- The report on a form of which some fields are given. -/
def formReport (username email password : Option String) : Report :=
  ((Report.empty.checkGiven "username" usernameRules username).checkGiven
    "email" emailRules email).checkGiven "password" passwordRules password

/-- The fields of a form that are given. -/
def givenFields (username email password : Option String) : List String :=
  [("username", username), ("email", email), ("password", password)].filterMap
    fun (field, value) => value.map fun _ => field

variable (username email password : String)

theorem registrationReport_eq : registrationReport username email password =
    formReport (some username) (some email) (some password) := rfl

theorem Report.get?_checkGiven (report : Report) (field : String) (rules : List Rule)
    (value : Option String) (other : String) :
    (report.checkGiven field rules value).get? other =
      if other = field then (report.get? field).or (value.bind (complaint? rules))
      else report.get? other := by
  cases value with
  | none => by_cases same : other = field <;> simp [checkGiven, same]
  | some value => exact report.get?_checkAll field rules value other

/-- What a form is told of a field depends on this field alone. -/
theorem get?_formReport (username email password : Option String) (field : String) :
    (formReport username email password).get? field =
      if field = "username" then username.bind (complaint? usernameRules)
      else if field = "email" then email.bind (complaint? emailRules)
      else if field = "password" then password.bind (complaint? passwordRules)
      else none := by
  simp only [formReport, Report.get?_checkGiven, Report.get?_empty]
  by_cases isUsername : field = "username"
  · simp [isUsername]
  by_cases isEmail : field = "email"
  · simp [isEmail]
  · simp [isUsername, isEmail]

theorem mem_givenFields {username email password : Option String} {field : String} :
    field ∈ givenFields username email password ↔
      username.isSome = true ∧ field = "username" ∨ email.isSome = true ∧ field = "email" ∨
        password.isSome = true ∧ field = "password" := by
  cases username <;> cases email <;> cases password <;> simp [givenFields]

/-- A form that gives some fields of a registration is told of them what the registration is told,
and nothing of the others. -/
theorem formReport_agreesOn {username? email? password? : Option String}
    (hasUsername : username? = none ∨ username? = some username)
    (hasEmail : email? = none ∨ email? = some email)
    (hasPassword : password? = none ∨ password? = some password) :
    (formReport username? email? password?).AgreesOn (registrationReport username email password)
      (givenFields username? email? password?) := by
  intro field
  rw [registrationReport_eq, get?_formReport, get?_formReport]
  by_cases isUsername : field = "username"
  · rcases hasUsername with rfl | rfl <;> simp [mem_givenFields, isUsername]
  by_cases isEmail : field = "email"
  · rcases hasEmail with rfl | rfl <;> simp [mem_givenFields, isEmail]
  by_cases isPassword : field = "password"
  · rcases hasPassword with rfl | rfl <;> simp [mem_givenFields, isPassword]
  · simp [isUsername, isEmail, isPassword]

/-! ## Usernames -/

/-- Whether a text is a username: 3 to 25 characters, each of them an ASCII letter or digit. -/
def IsUsername (username : String) : Prop :=
  3 ≤ username.length ∧ username.length ≤ 25 ∧ ∀ c ∈ username.toList, c ∈ letterClass ∪ digitClass

/-- An ASCII letter or digit takes one byte. -/
theorem toNat_of_letterOrDigit {c : Char} (isMember : c ∈ letterClass ∪ digitClass) :
    c.toNat < 128 := by
  rcases isMember with isLetter | ⟨-, isDigit⟩
  · exact toNat_of_letter isLetter
  · exact Nat.lt_of_le_of_lt (UInt32.le_iff_toNat_le.1 isDigit) (by decide)

theorem isUsername_iff {username : String} : isUsername username = true ↔ IsUsername username := by
  have isPlain_iff : username.toList.all isLetterOrDigit = true ↔
      ∀ c ∈ username.toList, c ∈ letterClass ∪ digitClass := by
    rw [List.all_eq_true]
    exact forall₂_congr fun c _ => isLetterOrDigit_iff
  rw [isUsername, Bool.and_eq_true, isPlain_iff, IsUsername, ← and_assoc]
  refine and_congr_left fun isPlain => ?_
  have size : username.utf8ByteSize = username.length := by
    have ofCharacters := Text.utf8ByteSize_ofList_of_ascii fun c inText =>
      toNat_of_letterOrDigit (isPlain c inText)
    rwa [String.ofList_toList, String.length_toList] at ofCharacters
  simp [lengthBetween, size]

/-! ## Entries of a registration -/

theorem isSome_get?_registrationReport (field : String) :
    ((registrationReport username email password).get? field).isSome = true ↔
      isUsername username = false ∧ field = "username" ∨
        isEmail email = false ∧ field = "email" ∨
          meetsPasswordPolicy password = false ∧ field = "password" := by
  rw [← Report.mem_fields_iff, registrationReport, mem_fields_checkPassword, mem_fields_checkEmail,
    mem_fields_checkUsername, or_assoc, or_assoc]
  exact or_iff_right notMem_fields_empty

/-- What a report on a registration says: it has entries for the fields that break their rules and
no others, and each entry is the message of the first rule of its field that is broken, whatever the
other fields are. -/
structure Report.Judges (report : Report) (username email password : String) : Prop where
  username_iff : (report.get? "username").isSome = true ↔ ¬IsUsername username
  email_iff : (report.get? "email").isSome = true ↔ isEmail email = false
  password_iff : (report.get? "password").isSome = true ↔ meetsPasswordPolicy password = false
  no_other : ∀ field, field ≠ "username" → field ≠ "email" → field ≠ "password" →
    report.get? field = none
  username_first : report.get? "username" = complaint? usernameRules username
  email_first : report.get? "email" = complaint? emailRules email
  password_first : report.get? "password" = complaint? passwordRules password

theorem registrationReport_judges :
    (registrationReport username email password).Judges username email password where
  username_iff := by
    rw [isSome_get?_registrationReport, ← isUsername_iff, Bool.not_eq_true]
    simp
  email_iff := by
    rw [isSome_get?_registrationReport]
    simp
  password_iff := by
    rw [isSome_get?_registrationReport]
    simp
  no_other field notUsername notEmail notPassword := by
    rw [← Option.not_isSome_iff_eq_none, isSome_get?_registrationReport]
    simp [notUsername, notEmail, notPassword]
  username_first := by
    rw [registrationReport_eq, get?_formReport]
    rfl
  email_first := by
    rw [registrationReport_eq, get?_formReport]
    rfl
  password_first := by
    rw [registrationReport_eq, get?_formReport]
    rfl

end Gatehouse.Validation
