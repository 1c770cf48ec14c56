import Gatehouse.Proofs.Json.Moves
import Gatehouse.Proofs.Json.Reading

/-!
# Texts that are cut short or go on

A text that has a value is cut somewhere.  If what is left is more than blanks and so is what is
missing, then what is left is unfinished, wherever the cut is: inside a character, an escape or a
word (`read_of_cut`).  Numbers are the one exception, since a number that is cut may still be one,
and one that is too large may have become small only through its exponent.

Behind a text whose end shows, which is that of a string or a container, nothing but blanks may
stand, and anything else counts as a second value (`read_of_more`).  Blanks alone are no value
(`read_of_blank`).
-/

namespace Gatehouse.Json

set_option autoImplicit false

open Reader

/-! ## Blanks alone -/

/-- Blanks alone are no value. -/
theorem read_of_blank {body : List UInt8} (blank : Blank body) : read body = .error .empty := by
  rw [((AwaitsValue.next []).reads_blank blank).read_eq]
  rfl

/-- Before the value blanks are taken, and anything else begins it. -/
theorem begun_of_step_start {byte : UInt8} {next : Reader}
    (stepped : Reader.start.step byte = .ok next) (notBlank : ¬ isBlank byte = true) :
    next.Begun := by
  simp only [step, Reader.start, beginValue, openFrame] at stepped
  rw [if_neg notBlank] at stepped
  repeat' split at stepped
  all_goals cases stepped
  all_goals first | exact fun _ => .inl trivial | exact begun_of_cons _ _ _

/-- More than blanks begin the value. -/
theorem begun_of_reads {bytes : List UInt8} {last : Reader} (run : Reads Reader.start bytes last)
    (notBlank : ¬ Blank bytes) : last.Begun := by
  induction bytes with
  | nil => exact absurd blank_nil notBlank
  | cons byte bytes ih =>
      obtain ⟨next, stepped, others⟩ := run.cons_cases
      by_cases isBlank : Json.isBlank byte = true
      · have stays : next = Reader.start := by
          have same : Reader.start.step byte = .ok Reader.start := by
            simp [step, Reader.start, beginValue, isBlank]
          exact Except.ok.inj (stepped.symm.trans same)
        apply ih (stays ▸ others)
        intro blank
        exact notBlank (List.forall_mem_cons.2 ⟨isBlank, blank⟩)
      · exact (leads_of_reads others).keeps Moves.begun (begun_of_step_start stepped isBlank)

/-! ## Behind the value -/

/-- Behind the value only blanks are taken. -/
theorem blank_of_reads_finished {stack : List Frame} {value : Json} {isDelimited : Bool}
    {bytes : List UInt8} {last : Reader}
    (run : Reads ⟨stack, .finished value isDelimited⟩ bytes last) : Blank bytes := by
  induction bytes generalizing stack isDelimited with
  | nil => exact blank_nil
  | cons byte bytes ih =>
      obtain ⟨next, stepped, others⟩ := run.cons_cases
      simp only [step, continueFinished] at stepped
      split at stepped
      · rename_i isBlank
        cases stepped
        exact List.forall_mem_cons.2 ⟨isBlank, ih others⟩
      · split at stepped <;> cases stepped

/-- Behind a value whose end shows, anything but blanks counts as a second value. -/
theorem run_of_more {value : Json} {bytes : List UInt8} (notBlank : ¬ Blank bytes) (taken : Nat) :
    Reader.run taken ⟨[], .finished value true⟩ bytes = .error .severalValues := by
  induction bytes generalizing taken with
  | nil => exact absurd blank_nil notBlank
  | cons byte bytes ih =>
      by_cases isBlank : Json.isBlank byte = true
      · simp only [Reader.run, step, continueFinished, isBlank, if_true]
        apply ih
        intro blank
        exact notBlank (List.forall_mem_cons.2 ⟨isBlank, blank⟩)
      · simp [Reader.run, step, continueFinished, isBlank]

/-- Whether the end of a value does not show: that of a bare word or a number. -/
def IsBare (value : Json) : Prop :=
  value = .null ∨ (∃ b, value = .boolean b) ∨ ∃ literal, value = .number literal

/-- A value whose end shows is known to be complete when it is in hand. -/
theorem Reader.Holds.eq_of_not_isBare {reader : Reader} {stack : List Frame} {value : Json}
    (holds : reader.Holds stack value) (notBare : ¬ value.IsBare) :
    reader = accept stack value true := by
  cases holds with
  | delimited => rfl
  | word isWord => exact absurd (isWord.imp_right .inl) notBare
  | number => exact absurd (.inr (.inr ⟨_, rfl⟩)) notBare

/-- **Behind a string or a container anything but blanks is a second value.** -/
theorem read_of_more {value : Json} {source before more : List UInt8} (isText : IsText value source)
    (isWithin : IsWithin depthLimit value) (isBefore : Blank before) (notBare : ¬ value.IsBare)
    (notBlank : ¬ Blank more) : read (before ++ source ++ more) = .error .severalValues := by
  obtain ⟨last, run, holds⟩ := reads_text_of_isWithin isText isWithin isBefore
  rw [read, Reader.run_append, run 0, holds.eq_of_not_isBare notBare]
  simp only [accept, run_of_more notBlank]

/-! ## Cuts -/

/-- A number that was read is in the value. -/
theorem hasNumber_of_finish {last : Reader} {taken : Nat} {value : Json}
    (finished : last.finish taken = .ok value) (shows : last.ShowsNumber) : HasNumber value := by
  obtain ⟨stack, mode⟩ := last
  cases mode with
  | finished value' isDelimited =>
      cases finished
      exact shows
  | number numeral =>
      simp only [finish] at finished
      repeat' split at finished
      all_goals cases finished
      exact .number _
  | value =>
      simp only [finish] at finished
      split at finished <;> cases finished
  | _ => cases finished

/-- A reader that has begun and is neither behind a value nor inside a number is unfinished. -/
theorem finish_of_begun {reader : Reader} (begun : reader.Begun)
    (notFinished : ∀ value isDelimited, reader.mode ≠ .finished value isDelimited)
    (noNumber : ¬ reader.ShowsNumber) (taken : Nat) : reader.finish taken = .error .unfinished := by
  obtain ⟨stack, mode⟩ := reader
  cases mode with
  | finished value isDelimited => exact absurd rfl (notFinished value isDelimited)
  | number numeral => exact absurd trivial noNumber
  | value =>
      cases stack with
      | nil =>
          rcases begun rfl with isToken | ⟨value, isDelimited, isFinished⟩
          · exact isToken.elim
          · cases isFinished
      | cons frame outer => rfl
  | _ => rfl

/-- **A text without numbers that is cut short is unfinished**, if more than blanks are left and
more than blanks are missing. -/
theorem read_of_cut {front back : List UInt8} {value : Json}
    (isRead : read (front ++ back) = .ok value) (noNumber : ¬ HasNumber value)
    (started : ¬ Blank front) (missing : ¬ Blank back) : read front = .error .unfinished := by
  obtain ⟨last, run, finished⟩ := Reads.of_read isRead
  obtain ⟨middle, runFront, runBack⟩ := run.append_cases
  rw [runFront.read_eq]
  apply finish_of_begun (begun_of_reads runFront started)
  · intro value isDelimited isFinished
    obtain ⟨stack, mode⟩ := middle
    obtain rfl : mode = .finished value isDelimited := isFinished
    exact missing (blank_of_reads_finished runBack)
  · intro shows
    have shown : last.ShowsNumber := (leads_of_reads runBack).keeps Moves.showsNumber shows
    exact noNumber (hasNumber_of_finish finished shown)

end Gatehouse.Json
