import Gatehouse.Proofs.Http.Forms
import Gatehouse.Proofs.Json.Stops
import Gatehouse.Proofs.Number.Numerals
import Gatehouse.Proofs.Text.Places

/-!
# The position in a message

A client is told at which character its body cannot be read.  The reader tells its place by line and
column; turned back into a number of bytes it is the number of bytes of the body up to and including
the one at which the reader stops (`read_eq_malformed_iff`), however many lines there are in front
of it.  No other fault is told in words that could be taken for these (`message_eq_iff`).
-/

namespace Gatehouse.Http

set_option autoImplicit false

/-! ## The words -/

/-- The words about a body that cannot be read at a character. -/
def positionWords (number : Nat) : String :=
  "request body contains badly-formed JSON (at character " ++ toString number ++ ")"

/-- A number can be told from a text that it stands in. -/
theorem toString_between_injective {front back : String} {former latter : Nat}
    (same : front ++ toString former ++ back = front ++ toString latter ++ back) :
    former = latter := by
  have sameDigits := congrArg String.toList same
  simp only [String.toList_append, List.append_cancel_left_eq,
    List.append_cancel_right_eq] at sameDigits
  rw [← (Number.numeral_toString former).ofDigits_eq (by decide), sameDigits,
    (Number.numeral_toString latter).ofDigits_eq (by decide)]

/-- The characters at the front of a text are not changed by what follows. -/
theorem take_toList_append {count : Nat} {front : String} (isWithin : count ≤ front.toList.length)
    (back : String) : (front ++ back).toList.take count = front.toList.take count := by
  rw [String.toList_append, List.take_append_of_le_length isWithin]

namespace BodyFault

/-- The words that tell a position tell no other fault. -/
theorem message_eq_iff {fault : BodyFault} {number : Nat} :
    fault.message = positionWords number ↔ fault = .malformed number := by
  refine ⟨fun same => ?_, fun isMalformed => isMalformed ▸ rfl⟩
  -- every other message is shorter than the words or differs from them at the 23rd character
  have opening (count : Nat) (isWithin : count ≤
      "request body contains badly-formed JSON (at character ".toList.length) :
      fault.message.toList.take count =
        "request body contains badly-formed JSON (at character ".toList.take count := by
    have words : positionWords number =
        "request body contains badly-formed JSON (at character " ++ (toString number ++ ")") :=
      String.append_assoc
    rw [same, words, take_toList_append isWithin]
  cases fault with
  | malformed position => rw [toString_between_injective same]
  | unknownField name =>
      have words : message (.unknownField name) =
          "request body contains unknown field \"" ++ (name ++ "\"") := String.append_assoc
      have differs := opening 23 (by decide)
      rw [words, take_toList_append (by decide)] at differs
      exact absurd differs (by decide)
  | invalidField name =>
      have words : message (.invalidField name) =
          "request body contains an invalid value for the \"" ++ (name ++ "\" field") :=
        String.append_assoc
      have differs := opening 23 (by decide)
      rw [words, take_toList_append (by decide)] at differs
      exact absurd differs (by decide)
  | tooLarge | empty | unfinished | severalValues | wrongType =>
      exact absurd (opening 40 (by decide)) (by decide)

end BodyFault

/-! ## Bodies -/

variable {α : Type} {form : Form α} {body : List UInt8} {number : Nat}

theorem contents_ne_malformed (fields : List Field) (value : Json) :
    contents fields value ≠ .error (.malformed number) := by
  intro isFault
  cases value with
  | array elements =>
      rw [contents] at isFault
      split at isFault <;> cases isFault
  | object members =>
      rw [contents] at isFault
      split at isFault
      next fault isMisfit =>
        cases isFault
        obtain ⟨misfit, -, isDescribed⟩ := Option.map_eq_some_iff.1 isMisfit
        cases misfit with
        | unknownField key => cases isDescribed
        | invalidValue =>
            rw [describe] at isDescribed
            split at isDescribed <;> cases isDescribed
      next => cases isFault
  | null | boolean _ | number _ | string _ => cases isFault

/-- A value that does not fill in a form was read whole. -/
theorem Form.decode_ne_malformed (form : Form α) (value : Json) :
    form.decode value ≠ .error (.malformed number) := by
  intro isFault
  rw [decode] at isFault
  cases isContents : contents form.fields value with
  | error fault =>
      rw [isContents] at isFault
      cases isFault
      exact contents_ne_malformed _ _ isContents
  | ok given =>
      rw [isContents] at isFault
      cases isFault

/-- The place at which a body cannot be read on leads back to the position that the reader gives. -/
theorem BodyFault.ofReadFault_malformed {position : Nat}
    (isRead : Json.read body = .error (.malformed position)) :
    ofReadFault body (.malformed position) = .malformed position := by
  obtain ⟨front, byte, rest, -, rfl, rfl⟩ := Json.read_eq_malformed_iff.1 isRead
  have isWithin : front.length + 1 ≤ (front ++ byte :: rest).length := by
    rw [List.length_append, List.length_cons]
    omega
  rw [ofReadFault, Text.Place.offset_behind isWithin]

/-- The position that is told of a body is the one that the reader gives. -/
theorem Form.read_eq_malformed_iff :
    form.read body = .error (.malformed number) ↔ Json.read body = .error (.malformed number) := by
  rw [read]
  cases isRead : Json.read body with
  | ok value => exact iff_of_false (form.decode_ne_malformed value) (by simp)
  | error fault =>
      cases fault with
      | malformed position => simp [BodyFault.ofReadFault_malformed isRead]
      | empty | unfinished | severalValues => simp [BodyFault.ofReadFault]

/-- **The position in a message is the number of bytes up to where the reader stops.**

* For every body and every index within it, the place that is told by the newlines among the first
  bytes and the bytes since the last one leads back to the index.
* Whatever the form, a body is answered with the words about a character exactly if the reader stops
  at a byte of the body, and the number in the words counts the bytes up to and including this one.
* The number is at least one and at most the number of bytes of the body. -/
theorem Form.tells_where_reader_stops (form : Form α) :
    (∀ (body : List UInt8) (index : Nat), index ≤ body.length →
      Text.Place.offset ⟨1 + (body.take index).count Text.newline,
        index - Text.lineStart body index⟩ body = index) ∧
    ∀ (body : List UInt8) (number : Nat),
      ((∃ fault, form.read body = .error fault ∧ fault.message =
          "request body contains badly-formed JSON (at character " ++ toString number ++ ")") ↔
        ∃ front byte rest, Json.StopsAt front byte rest ∧ body = front ++ byte :: rest ∧
          number = front.length + 1) ∧
      ((∃ fault, form.read body = .error fault ∧ fault.message =
          "request body contains badly-formed JSON (at character " ++ toString number ++ ")") →
        1 ≤ number ∧ number ≤ body.length) := by
  refine ⟨fun body index _ => Text.Place.offset_place body index, fun body number => ?_⟩
  have isTold : (∃ fault, form.read body = .error fault ∧ fault.message = positionWords number) ↔
      ∃ front byte rest, Json.StopsAt front byte rest ∧ body = front ++ byte :: rest ∧
        number = front.length + 1 := by
    simp only [BodyFault.message_eq_iff, exists_eq_right, Form.read_eq_malformed_iff,
      Json.read_eq_malformed_iff]
  refine ⟨isTold, fun told => ?_⟩
  obtain ⟨front, byte, rest, -, rfl, rfl⟩ := isTold.1 told
  rw [List.length_append, List.length_cons]
  omega

/-- An array over several lines that is closed behind a comma. -/
def danglingComma : List UInt8 :=
  Text.bytes "[\n  true,\n\n  ]"

/-- The closing bracket, in the fourth line, is the byte at which the reader stops. -/
theorem comma_before_bracket_is_told :
    14 ≤ danglingComma.length ∧ Text.Place.offset ⟨4, 3⟩ danglingComma = 14 ∧
      ∃ fault, registrationForm.read danglingComma = .error fault ∧
        fault.message = "request body contains badly-formed JSON (at character 14)" := by
  obtain ⟨places, positions⟩ := registrationForm.tells_where_reader_stops
  have isWithin : 14 ≤ danglingComma.length := by decide
  have ran : Json.Reader.run 0 .start (danglingComma.take 13) =
      .ok ⟨[.array [.boolean true]], .value⟩ := rfl
  have stops : Json.StopsAt (danglingComma.take 13) 0x5d [] := .byte (.of_run ran) rfl
  obtain ⟨fault, isFault, isTold⟩ := (positions danglingComma 14).1.2 ⟨_, _, _, stops, rfl, rfl⟩
  exact ⟨isWithin, places danglingComma 14 isWithin, fault, isFault, isTold⟩

end Gatehouse.Http
