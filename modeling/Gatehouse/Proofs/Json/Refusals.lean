import Gatehouse.Proofs.Json.Runs

/-!
# What the reader refuses

A byte is refused for where it stands, or for what is in front of it: a number that is too large and
ends there, or a string that is closed there and is no text (`refuses_of_step`).

The first byte that is refused decides about a text, with the fault that belongs to its refusal
(`run_eq_error_iff`).
-/

namespace Gatehouse.Json

set_option autoImplicit false

namespace Reader

variable {stack : List Frame} {purpose : Purpose} {stage : TextStage} {draft : TextDraft}
  {reader : Reader} {byte : UInt8}

/-! ## Refusals -/

theorem beginValue_eq_error {mode : Mode} {refusal : Refusal}
    (stepped : beginValue stack mode byte = .error refusal) : refusal = .byte := by
  simp only [beginValue, openFrame] at stepped
  repeat' split at stepped
  all_goals cases stepped <;> rfl

theorem beginKey_eq_error {mode : Mode} {refusal : Refusal}
    (stepped : beginKey stack mode byte = .error refusal) : refusal = .byte := by
  simp only [beginKey] at stepped
  repeat' split at stepped
  all_goals cases stepped <;> rfl

theorem continueContainer_eq_error {refusal : Refusal}
    (stepped : continueContainer stack byte = .error refusal) : refusal = .byte := by
  simp only [continueContainer] at stepped
  repeat' split at stepped
  all_goals cases stepped <;> rfl

/-- Why a byte may be refused: where it stands, or for what is in front of it. -/
inductive Refuses : Reader → UInt8 → Refusal → Prop
  /-- The byte cannot stand where it does. -/
  | byte {reader : Reader} {byte : UInt8} : Refuses reader byte .byte
  /-- The byte begins a second value. -/
  | secondValue {reader : Reader} {byte : UInt8} : Refuses reader byte .secondValue
  /-- The number that ends in front of the byte is too large. -/
  | numberBefore {stack : List Frame} {numeral : Numeral} {byte : UInt8}
      (isEnded : numeral.take byte = .ended) (tooLarge : numeral.isFinite = false) :
      Refuses ⟨stack, .number numeral⟩ byte .numberBefore
  /-- The string that the byte closes is no text. -/
  | characterBefore {stack : List Frame} {purpose : Purpose} {draft : TextDraft}
      (noText : Text.ofBytes? draft.content.reverse = none) :
      Refuses ⟨stack, .text purpose .plain draft⟩ 0x22 (.characterBefore draft.unreadable)

/-- A byte that cannot stand where it does is refused for it. -/
theorem refuses_of_eq_byte {refusal : Refusal} (isByte : refusal = .byte) :
    Refuses reader byte refusal :=
  isByte ▸ .byte

theorem refuses_of_continueFinished {value : Json} {isDelimited : Bool} {refusal : Refusal}
    (stepped : continueFinished value isDelimited byte = .error refusal) :
    Refuses reader byte refusal := by
  simp only [continueFinished] at stepped
  repeat' split at stepped
  all_goals cases stepped
  · exact .secondValue
  · exact .byte

theorem endEscape_eq_error {value leading : Option Nat} {refusal : Refusal}
    (ended : endEscape stack purpose draft value leading = .error refusal) : refusal = .byte := by
  simp only [endEscape] at ended
  repeat' split at ended
  all_goals cases ended <;> rfl

theorem refuses_of_endText {refusal : Refusal}
    (ended : endText stack purpose draft = .error refusal) :
    Refuses ⟨stack, .text purpose .plain draft⟩ 0x22 refusal := by
  simp only [endText] at ended
  repeat' split at ended
  all_goals cases ended
  · exact .characterBefore ‹_›
  · exact .byte

theorem refuses_of_continueText {refusal : Refusal}
    (stepped : continueText stack purpose stage draft byte = .error refusal) :
    Refuses ⟨stack, .text purpose stage draft⟩ byte refusal := by
  cases stage with
  | plain =>
      simp only [continueText, beq_iff_eq] at stepped
      split at stepped
      next isQuote =>
        subst isQuote
        exact refuses_of_endText stepped
      next =>
        repeat' split at stepped
        all_goals cases stepped
        exact .byte
  | digits left value leading =>
      simp only [continueText] at stepped
      split at stepped
      · exact refuses_of_eq_byte (endEscape_eq_error stepped)
      · cases stepped
  | escape | trailingMark leading | trailingLetter leading =>
      simp only [continueText] at stepped
      repeat' split at stepped
      all_goals cases stepped
      exact .byte

theorem refuses_of_continueNumber {numeral : Numeral} {refusal : Refusal}
    (stepped : continueNumber stack numeral byte = .error refusal) :
    Refuses ⟨stack, .number numeral⟩ byte refusal := by
  simp only [continueNumber] at stepped
  split at stepped
  next => cases stepped
  next =>
    cases stepped
    exact .byte
  next isEnded =>
    split at stepped
    next =>
      rw [continueAccepted] at stepped
      split at stepped
      · exact refuses_of_continueFinished stepped
      · exact refuses_of_eq_byte (continueContainer_eq_error stepped)
    next tooLarge =>
      cases stepped
      exact .numberBefore isEnded (eq_false_of_ne_true tooLarge)

/-- **Every refusal is one of these.** -/
theorem refuses_of_step {refusal : Refusal} (stepped : reader.step byte = .error refusal) :
    Refuses reader byte refusal := by
  obtain ⟨stack, mode⟩ := reader
  cases mode with
  | value => exact refuses_of_eq_byte (beginValue_eq_error stepped)
  | firstElement =>
      simp only [step] at stepped
      repeat' split at stepped
      · cases stepped
      · exact refuses_of_eq_byte (beginValue_eq_error stepped)
      · cases stepped
        exact .byte
  | firstKey =>
      simp only [step] at stepped
      repeat' split at stepped
      · cases stepped
      · exact refuses_of_eq_byte (beginKey_eq_error stepped)
      · cases stepped
        exact .byte
  | key => exact refuses_of_eq_byte (beginKey_eq_error stepped)
  | colon =>
      simp only [step] at stepped
      repeat' split at stepped
      all_goals cases stepped
      exact .byte
  | afterValue => exact refuses_of_eq_byte (continueContainer_eq_error stepped)
  | text purpose stage draft => exact refuses_of_continueText stepped
  | word rest value =>
      simp only [step, continueWord] at stepped
      repeat' split at stepped
      all_goals cases stepped <;> exact .byte
  | number numeral => exact refuses_of_continueNumber stepped
  | finished value isDelimited => exact refuses_of_continueFinished stepped

end Reader

/-! ## Faults of texts -/

/-- The fault of a text that has a byte refused behind this many others. -/
def Refusal.fault (taken : Nat) : Refusal → ReadFault
  | .byte => .malformed (taken + 1)
  | .numberBefore => .malformed taken
  | .characterBefore distance => .malformed (taken + 1 - distance)
  | .secondValue => .severalValues

namespace Reader

variable {reader : Reader} {byte : UInt8}

theorem run_cons_of_refused {refusal : Refusal} (refused : reader.step byte = .error refusal)
    (taken : Nat) (rest : List UInt8) :
    run taken reader (byte :: rest) = .error (refusal.fault taken) := by
  simp only [run, refused]
  cases refusal <;> rfl

/-- **The first byte that is refused decides about a text.** -/
theorem run_eq_error_iff (taken : Nat) {bytes : List UInt8} {fault : ReadFault} :
    run taken reader bytes = .error fault ↔
      ∃ front byte rest middle refusal, bytes = front ++ byte :: rest ∧
        Reads reader front middle ∧ middle.step byte = .error refusal ∧
        fault = refusal.fault (taken + front.length) := by
  constructor
  · intro ran
    induction bytes generalizing taken reader with
    | nil => cases ran
    | cons byte rest ih =>
        cases stepped : reader.step byte with
        | error refusal =>
            rw [run_cons_of_refused stepped] at ran
            cases ran
            exact ⟨[], byte, rest, reader, refusal, rfl, .nil reader, stepped, rfl⟩
        | ok next =>
            simp only [run, stepped] at ran
            obtain ⟨front, other, rest, middle, refusal, rfl, front_run, refused, rfl⟩ := ih _ ran
            refine ⟨byte :: front, other, rest, middle, refusal, rfl, .cons stepped front_run,
              refused, ?_⟩
            rw [List.length_cons, Nat.add_assoc, Nat.add_comm 1]
  · rintro ⟨front, byte, rest, middle, refusal, rfl, front_run, refused, rfl⟩
    rw [run_append, front_run taken]
    exact run_cons_of_refused refused _ rest

end Reader

end Gatehouse.Json
