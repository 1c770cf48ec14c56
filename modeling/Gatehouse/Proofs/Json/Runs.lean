import Gatehouse.Proofs.Json.Grammar

/-!
# Feeding bytes to the reader

`Reads` says that bytes lead the reader from one state to another.  It composes along a
concatenation (`Reads.append`), so that a text is followed part by part.

The states between the parts of a text are described by what they are about to take.  A reader may
await a value or a key, whether or not it is the first one of its container.  After the last byte
of a value it may not know yet that the value is complete, since a number could go on; `Holds` says
that a reader has a value in hand either way, and that the byte behind it decides nothing about the
value.
-/

namespace Gatehouse.Json

set_option autoImplicit false

/-! ## Composing runs -/

/-- Whether bytes lead the reader from one state to another. -/
def Reads (reader : Reader) (bytes : List UInt8) (last : Reader) : Prop :=
  ∀ taken, Reader.run taken reader bytes = .ok last

namespace Reads

variable {reader middle last : Reader} {byte : UInt8} {bytes bytes' : List UInt8}

theorem nil (reader : Reader) : Reads reader [] reader := by
  intro taken
  rfl

theorem cons (first : reader.step byte = .ok middle) (others : Reads middle bytes last) :
    Reads reader (byte :: bytes) last := by
  intro taken
  simp only [Reader.run, first]
  exact others (taken + 1)

theorem one (step : reader.step byte = .ok last) : Reads reader [byte] last :=
  cons step (nil last)

theorem append (front : Reads reader bytes middle) (back : Reads middle bytes' last) :
    Reads reader (bytes ++ bytes') last := by
  intro taken
  rw [Reader.run_append, front taken]
  exact back (taken + bytes.length)

/-- A run does not depend on how many bytes were taken before. -/
theorem of_run {taken : Nat} (ran : Reader.run taken reader bytes = .ok last) :
    Reads reader bytes last := by
  induction bytes generalizing taken reader with
  | nil =>
      cases ran
      exact nil last
  | cons byte bytes ih =>
      simp only [Reader.run] at ran
      cases stepped : reader.step byte with
      | error refusal =>
          rw [stepped] at ran
          cases refusal <;> cases ran
      | ok middle =>
          rw [stepped] at ran
          exact cons stepped (ih ran)

theorem nil_cases (run : Reads reader [] last) : last = reader := by
  cases run 0
  rfl

theorem cons_cases (run : Reads reader (byte :: bytes) last) :
    ∃ middle, reader.step byte = .ok middle ∧ Reads middle bytes last := by
  have ran := run 0
  simp only [Reader.run] at ran
  cases stepped : reader.step byte with
  | error refusal =>
      rw [stepped] at ran
      cases refusal <;> cases ran
  | ok middle =>
      rw [stepped] at ran
      exact ⟨middle, rfl, of_run ran⟩

theorem append_cases (run : Reads reader (bytes ++ bytes') last) :
    ∃ middle, Reads reader bytes middle ∧ Reads middle bytes' last := by
  induction bytes generalizing reader with
  | nil => exact ⟨reader, nil reader, run⟩
  | cons byte bytes ih =>
      obtain ⟨next, stepped, others⟩ := cons_cases run
      obtain ⟨middle, front, back⟩ := ih others
      exact ⟨middle, cons stepped front, back⟩

/-- Blanks lead nowhere if no single blank does. -/
theorem blank (isBlank : Blank bytes)
    (stays : ∀ byte, Json.isBlank byte = true → reader.step byte = .ok reader) :
    Reads reader bytes reader := by
  induction bytes with
  | nil => exact nil reader
  | cons byte bytes ih =>
      obtain ⟨first, others⟩ := List.forall_mem_cons.1 isBlank
      exact cons (stays byte first) (ih others)

/-- A text is read to the value of the state that its bytes lead to. -/
theorem read_eq (run : Reads Reader.start bytes last) : read bytes = last.finish bytes.length := by
  rw [read, run 0]

/-- A text that has a value leads to a state that has it. -/
theorem of_read {value : Json} (isRead : read bytes = .ok value) :
    ∃ last, Reads Reader.start bytes last ∧ last.finish bytes.length = .ok value := by
  rw [read] at isRead
  cases ran : Reader.run 0 Reader.start bytes with
  | error fault =>
      rw [ran] at isRead
      cases isRead
  | ok last =>
      rw [ran] at isRead
      exact ⟨last, of_run ran, isRead⟩

end Reads

/-! ## States between the parts of a text -/

namespace Reader

/-- Whether a value may begin next. -/
inductive AwaitsValue : Reader → Prop
  | next (stack : List Frame) : AwaitsValue ⟨stack, .value⟩
  | first (reversed : List Json) (outer : List Frame) :
      AwaitsValue ⟨.array reversed :: outer, .firstElement⟩

/-- Whether a key may begin next, in an object with these members so far. -/
inductive AwaitsKey (reversed : List (String × Json)) (outer : List Frame) : Reader → Prop
  | next (key : String) : AwaitsKey reversed outer ⟨.object reversed key :: outer, .key⟩
  | first (key : String) : AwaitsKey reversed outer ⟨.object reversed key :: outer, .firstKey⟩

/-- Whether a reader has taken a value whole, which belongs to the innermost of some containers. -/
inductive Holds : Reader → List Frame → Json → Prop
  /-- The value showed that it was complete. -/
  | delimited (stack : List Frame) (value : Json) : Holds (accept stack value true) stack value
  /-- The value is a bare word. -/
  | word {stack : List Frame} {value : Json} (isWord : value = .null ∨ ∃ b, value = .boolean b) :
      Holds (accept stack value false) stack value
  /-- The value is a number, which could still go on. -/
  | number {stack : List Frame} {numeral : Numeral} (isComplete : numeral.isComplete = true)
      (isFinite : numeral.isFinite = true) :
      Holds ⟨stack, .number numeral⟩ stack numeral.toJson

/-- What begins a value does so wherever one may begin, except that an array may end instead. -/
theorem AwaitsValue.step_eq {reader : Reader} (awaits : reader.AwaitsValue) {byte : UInt8}
    (notEnd : byte ≠ 0x5d) : reader.step byte = beginValue reader.stack reader.mode byte := by
  cases awaits with
  | next stack => rfl
  | first reversed outer => simp [step, notEnd]

/-- What begins a key does so wherever one may begin, except that an object may end instead. -/
theorem AwaitsKey.step_eq {reversed : List (String × Json)} {outer : List Frame} {reader : Reader}
    (awaits : reader.AwaitsKey reversed outer) {byte : UInt8} (notEnd : byte ≠ 0x7d) :
    reader.step byte = beginKey reader.stack reader.mode byte := by
  cases awaits with
  | next key => rfl
  | first key => simp [step, notEnd]

/-! ## Blanks -/

theorem isBlank_iff {byte : UInt8} :
    isBlank byte = true ↔ byte = 0x20 ∨ byte = 0x0a ∨ byte = 0x09 ∨ byte = 0x0d := by
  simp [isBlank, or_assoc]

/-- Blanks before a value change nothing. -/
theorem AwaitsValue.reads_blank {reader : Reader} (awaits : reader.AwaitsValue)
    {bytes : List UInt8} (blank : Blank bytes) : Reads reader bytes reader := by
  apply Reads.blank blank
  intro byte isBlank
  have notEnd : byte ≠ 0x5d := by
    rcases isBlank_iff.1 isBlank with rfl | rfl | rfl | rfl <;> decide
  rw [awaits.step_eq notEnd]
  simp [beginValue, isBlank]

/-- Blanks before a key change nothing. -/
theorem AwaitsKey.reads_blank {reversed : List (String × Json)} {outer : List Frame}
    {reader : Reader} (awaits : reader.AwaitsKey reversed outer) {bytes : List UInt8}
    (blank : Blank bytes) : Reads reader bytes reader := by
  apply Reads.blank blank
  intro byte isBlank
  have notEnd : byte ≠ 0x7d := by
    rcases isBlank_iff.1 isBlank with rfl | rfl | rfl | rfl <;> decide
  rw [awaits.step_eq notEnd]
  simp [beginKey, isBlank]

/-- Blanks before a colon change nothing. -/
theorem reads_blank_colon (stack : List Frame) {bytes : List UInt8} (blank : Blank bytes) :
    Reads ⟨stack, .colon⟩ bytes ⟨stack, .colon⟩ := by
  apply Reads.blank blank
  intro byte isBlank
  simp [step, isBlank]

/-! ## Behind a value -/

/-- Whether a byte may stand behind a value. -/
def Follows (byte : UInt8) : Prop :=
  isBlank byte = true ∨ byte = 0x2c ∨ byte = 0x5d ∨ byte = 0x7d

/-- A number ends before whatever may stand behind a value. -/
theorem take_eq_ended {numeral : Numeral} (isComplete : numeral.isComplete = true) {byte : UInt8}
    (follows : Follows byte) : numeral.take byte = .ended := by
  have plain : isDigit byte = false ∧ byte ≠ 0x2e ∧ byte ≠ 0x65 ∧ byte ≠ 0x45 := by
    simp only [Follows, isBlank_iff] at follows
    rcases follows with (rfl | rfl | rfl | rfl) | rfl | rfl | rfl <;> decide
  obtain ⟨notDigit, notPoint, notMark, notMark'⟩ := plain
  unfold Numeral.isComplete at isComplete
  cases phase : numeral.phase <;>
    simp_all [Numeral.take, Numeral.afterDigits]

/-- What follows a value inside a container is taken as if the value were known to be complete. -/
theorem Holds.step_eq {reader : Reader} {stack : List Frame} {value : Json}
    (holds : reader.Holds stack value) (inside : stack ≠ []) {byte : UInt8}
    (follows : Follows byte) :
    reader.step byte = continueContainer (accept stack value true).stack byte := by
  obtain ⟨frame, outer, rfl⟩ := List.exists_cons_of_ne_nil inside
  cases holds with
  | delimited => cases frame <;> rfl
  | word isWord => cases frame <;> rfl
  | number isComplete isFinite =>
      simp only [step, continueNumber, take_eq_ended isComplete follows, isFinite]
      cases frame <;> rfl

/-- A blank leaves a value in hand. -/
theorem Holds.step_blank {reader : Reader} {stack : List Frame} {value : Json}
    (holds : reader.Holds stack value) {byte : UInt8} (blank : isBlank byte = true) :
    reader.step byte = .ok (accept stack value true) := by
  cases stack with
  | nil =>
      cases holds with
      | delimited => simp [accept, step, continueFinished, blank]
      | word isWord => simp [accept, step, continueFinished, blank]
      | number isComplete isFinite =>
          simp [step, continueNumber, take_eq_ended isComplete (.inl blank), isFinite,
            continueAccepted, accept, continueFinished, blank]
  | cons frame outer =>
      rw [holds.step_eq (List.cons_ne_nil frame outer) (.inl blank)]
      cases frame <;> simp [accept, continueContainer, blank]

/-- Blanks leave a value in hand. -/
theorem Holds.reads_blank {reader : Reader} {stack : List Frame} {value : Json}
    (holds : reader.Holds stack value) {bytes : List UInt8} (blank : Blank bytes) :
    ∃ last, Reads reader bytes last ∧ last.Holds stack value := by
  induction bytes generalizing reader with
  | nil => exact ⟨reader, .nil reader, holds⟩
  | cons byte bytes ih =>
      obtain ⟨first, others⟩ := List.forall_mem_cons.1 blank
      obtain ⟨last, run, holds'⟩ := ih (.delimited stack value) others
      exact ⟨last, .cons (holds.step_blank first) run, holds'⟩

/-- A text that ends with a value in hand has that value. -/
theorem Holds.finish_eq {reader : Reader} {value : Json} (holds : reader.Holds [] value)
    (taken : Nat) : reader.finish taken = .ok value := by
  cases holds with
  | delimited => rfl
  | word isWord => rfl
  | number isComplete isFinite => simp [finish, isComplete, isFinite]

end Reader

end Gatehouse.Json
