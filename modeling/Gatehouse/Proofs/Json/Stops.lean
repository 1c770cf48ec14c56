import Gatehouse.Proofs.Json.OpenStrings
import Gatehouse.Proofs.Json.Refusals

/-!
# Where the reader stops

A text that is not JSON is refused at one of its bytes (`StopsAt`): at a byte that cannot stand
where it does, at the last byte of a number that is too large, or at the first byte of a string that
belongs to no character.  The first is noticed at once, the second one byte later or at the end of
the text, and the third only where the string ends.  `read_eq_malformed_iff` says that the position
of a refusal is the number of bytes up to and including this byte, wherever it was noticed.
-/

namespace Gatehouse.Json

set_option autoImplicit false

open Text (AreCharacters BeginsCharacter)

/-- Whether a number ends in front of bytes: there are none, and it is complete, or the first of
them is no part of it. -/
def Numeral.EndsBefore (numeral : Numeral) : List UInt8 → Prop
  | [] => numeral.isComplete = true
  | byte :: _ => numeral.take byte = .ended

/-- Whether the reader stops at a byte of a text, with these bytes in front of it and these behind
it. -/
inductive StopsAt : List UInt8 → UInt8 → List UInt8 → Prop
  /-- The byte cannot stand there. -/
  | byte {front rest : List UInt8} {byte : UInt8} {reader : Reader}
      (run : Reads .start front reader) (refused : reader.step byte = .error .byte) :
      StopsAt front byte rest
  /-- The byte is the last one of a number that is too large. -/
  | number {front rest : List UInt8} {byte : UInt8} {stack : List Frame} {numeral : Numeral}
      (run : Reads .start (front ++ [byte]) ⟨stack, .number numeral⟩)
      (ends : numeral.EndsBefore rest) (tooLarge : numeral.isFinite = false) :
      StopsAt front byte rest
  /-- The byte stands in a string behind characters, no character begins there, and the string is
  closed. -/
  | character {opening good more rest : List UInt8} {byte : UInt8} {stack : List Frame}
      {purpose : Purpose} {content : List UInt8}
      (opened : Reads .start (opening ++ [0x22]) ⟨stack, .text purpose .plain .empty⟩)
      (run : Reads ⟨stack, .text purpose .plain .empty⟩ (good ++ byte :: more)
        ⟨stack, .text purpose .plain ⟨content, (good ++ byte :: more).reverse⟩⟩)
      (areCharacters : AreCharacters good) (noCharacter : ¬BeginsCharacter (byte :: more)) :
      StopsAt (opening ++ 0x22 :: good) byte (more ++ 0x22 :: rest)

/-! ## Refused texts -/

/-- A text is refused for the first byte that is. -/
theorem read_of_refused {front rest : List UInt8} {byte : UInt8} {reader : Reader}
    {refusal : Refusal} (run : Reads .start front reader)
    (refused : reader.step byte = .error refusal) :
    read (front ++ byte :: rest) = .error (refusal.fault front.length) := by
  have ran := (Reader.run_eq_error_iff 0).2
    ⟨front, byte, rest, reader, refusal, rfl, run, refused, rfl⟩
  rw [Nat.zero_add] at ran
  rw [read, ran]

/-- A number that is too large is refused where it ends. -/
theorem read_of_tooLarge {front rest : List UInt8} {stack : List Frame} {numeral : Numeral}
    (run : Reads .start front ⟨stack, .number numeral⟩) (ends : numeral.EndsBefore rest)
    (tooLarge : numeral.isFinite = false) :
    read (front ++ rest) = .error (.malformed front.length) := by
  cases rest with
  | nil =>
      have isComplete : numeral.isComplete = true := ends
      rw [List.append_nil, run.read_eq]
      simp [Reader.finish, isComplete, tooLarge]
  | cons next rest =>
      have isEnded : numeral.take next = .ended := ends
      have refused : Reader.step ⟨stack, .number numeral⟩ next = .error .numberBefore := by
        simp [Reader.step, Reader.continueNumber, isEnded, tooLarge]
      exact read_of_refused run refused

/-- A string that is no text is refused at its closing quote, with the position of the first byte
that belongs to no character. -/
theorem read_of_noCharacter (rest : List UInt8) {opening good bad : List UInt8}
    {stack : List Frame} {purpose : Purpose} {content : List UInt8}
    (run : Reads .start (opening ++ 0x22 :: (good ++ bad))
      ⟨stack, .text purpose .plain ⟨content, (good ++ bad).reverse⟩⟩)
    (areCharacters : AreCharacters good) (noCharacter : ¬BeginsCharacter bad)
    (notEmpty : bad ≠ []) :
    read (opening ++ 0x22 :: (good ++ bad) ++ 0x22 :: rest) =
      .error (.malformed (opening.length + good.length + 2)) := by
  have alike := Reader.spellsText_of_reads run Reader.spellsText_start _ _ _ rfl []
  simp only [List.append_nil, List.reverse_reverse] at alike
  have noText : Text.ofBytes? content.reverse = none :=
    Text.ofBytes?_eq_none_iff.2 fun isText =>
      Text.not_areCharacters_append areCharacters noCharacter notEmpty (alike.1 isText)
  have unreadable : TextDraft.unreadable ⟨content, (good ++ bad).reverse⟩ = bad.length := by
    rw [TextDraft.unreadable, List.reverse_reverse,
      Text.validLength_append areCharacters noCharacter, List.length_reverse, List.length_append,
      Nat.add_sub_cancel_left]
  have refused : Reader.step ⟨stack, .text purpose .plain ⟨content, (good ++ bad).reverse⟩⟩ 0x22 =
      .error (.characterBefore bad.length) := by
    simp [Reader.step, Reader.continueText, Reader.endText, noText, unreadable, -List.reverse_append]
  rw [read_of_refused run refused, Refusal.fault]
  simp only [List.length_append, List.length_cons]
  congr 2
  omega

/-- Where the reader stops the text is refused, with the position behind the byte. -/
theorem StopsAt.read_eq {front rest : List UInt8} {byte : UInt8} (stops : StopsAt front byte rest) :
    read (front ++ byte :: rest) = .error (.malformed (front.length + 1)) := by
  cases stops with
  | byte run refused => exact read_of_refused run refused
  | number run ends tooLarge =>
      have isRefused := read_of_tooLarge run ends tooLarge
      rwa [List.append_assoc, List.singleton_append, List.length_append,
        List.length_singleton] at isRefused
  | @character opening good more rest byte stack purpose content opened run areCharacters
      noCharacter =>
      have whole := opened.append run
      rw [List.append_assoc, List.singleton_append] at whole
      have isRefused :=
        read_of_noCharacter rest whole areCharacters noCharacter (List.cons_ne_nil byte more)
      have length : (opening ++ 0x22 :: good).length + 1 = opening.length + good.length + 2 := by
        rw [List.length_append, List.length_cons]
        omega
      rw [length, ← isRefused]
      simp only [List.append_assoc, List.cons_append]

/-! ## Stops -/

/-- Where a number ends that is too large, the reader stops at its last byte. -/
theorem exists_stopsAt_of_tooLarge {front : List UInt8} (rest : List UInt8) {stack : List Frame}
    {numeral : Numeral} (run : Reads .start front ⟨stack, .number numeral⟩)
    (ends : numeral.EndsBefore rest) (tooLarge : numeral.isFinite = false) :
    ∃ before byte, StopsAt before byte rest ∧ front = before ++ [byte] := by
  rcases List.eq_nil_or_concat front with rfl | ⟨before, byte, rfl⟩
  · cases run.nil_cases
  · rw [List.concat_eq_append] at run ⊢
    exact ⟨before, byte, .number run ends tooLarge, rfl⟩

/-- Where a string is closed that is no text, the reader stops at the first of its bytes that belongs
to no character. -/
theorem exists_stopsAt_of_noText {front : List UInt8} (rest : List UInt8) {stack : List Frame}
    {purpose : Purpose} {draft : TextDraft}
    (run : Reads .start front ⟨stack, .text purpose .plain draft⟩)
    (noText : Text.ofBytes? draft.content.reverse = none) :
    ∃ before byte more, StopsAt before byte (more ++ 0x22 :: rest) ∧
      front = before ++ byte :: more ∧ draft.unreadable = (byte :: more).length := by
  obtain ⟨opening, rfl, opened, inside⟩ := Reader.exists_opening run
  obtain ⟨good, bad, isCut, isLength, areCharacters, noCharacter⟩ :=
    Text.validLength_cut draft.written.reverse
  have notEmpty : bad ≠ [] := by
    rintro rfl
    have alike := Reader.spellsText_of_reads run Reader.spellsText_start _ _ _ rfl []
    rw [List.append_nil, List.append_nil, isCut, List.append_nil] at alike
    exact Text.ofBytes?_eq_none_iff.1 noText (alike.2 areCharacters)
  obtain ⟨byte, more, rfl⟩ := List.exists_cons_of_ne_nil notEmpty
  obtain ⟨content, written⟩ := draft
  obtain rfl : written = (good ++ byte :: more).reverse := List.reverse_eq_iff.1 isCut
  refine ⟨opening ++ 0x22 :: good, byte, more, .character opened (isCut ▸ inside) areCharacters
    noCharacter, ?_, ?_⟩
  · rw [isCut, List.append_assoc, List.cons_append]
  · rw [TextDraft.unreadable, isLength, List.length_reverse, List.length_append,
      Nat.add_sub_cancel_left]

/-- At its end a text is refused only for a number that is too large. -/
theorem Reader.finish_eq_malformed {reader : Reader} {taken position : Nat}
    (isRefused : reader.finish taken = .error (.malformed position)) :
    ∃ stack numeral, reader = ⟨stack, .number numeral⟩ ∧ numeral.isComplete = true ∧
      numeral.isFinite = false ∧ position = taken := by
  obtain ⟨stack, mode⟩ := reader
  cases mode with
  | number numeral =>
      simp only [finish, Bool.not_eq_true'] at isRefused
      split at isRefused
      next => cases isRefused
      next isComplete =>
        split at isRefused
        next tooLarge =>
          cases isRefused
          exact ⟨stack, numeral, rfl, Bool.not_eq_false _ ▸ isComplete, tooLarge, rfl⟩
        next => split at isRefused <;> cases isRefused
  | value =>
      simp only [finish] at isRefused
      split at isRefused <;> cases isRefused
  | _ => cases isRefused

/-- A text that is refused has a byte at which the reader stops. -/
theorem exists_stopsAt {body : List UInt8} {position : Nat}
    (isRefused : read body = .error (.malformed position)) :
    ∃ front byte rest, StopsAt front byte rest ∧ body = front ++ byte :: rest ∧
      position = front.length + 1 := by
  rw [read] at isRefused
  split at isRefused
  next fault ran =>
    cases isRefused
    obtain ⟨front, byte, rest, middle, refusal, rfl, run, refused, isFault⟩ :=
      (Reader.run_eq_error_iff 0).1 ran
    rw [Nat.zero_add] at isFault
    cases Reader.refuses_of_step refused with
    | byte =>
        cases isFault
        exact ⟨front, byte, rest, .byte run refused, rfl, rfl⟩
    | secondValue => cases isFault
    | numberBefore isEnded tooLarge =>
        cases isFault
        obtain ⟨before, last, stops, rfl⟩ :=
          exists_stopsAt_of_tooLarge (byte :: rest) run isEnded tooLarge
        exact ⟨before, last, byte :: rest, stops, by simp, by simp⟩
    | characterBefore noText =>
        cases isFault
        obtain ⟨before, bad, more, stops, rfl, isLength⟩ := exists_stopsAt_of_noText rest run noText
        refine ⟨before, bad, more ++ 0x22 :: rest, stops, by simp, ?_⟩
        rw [isLength, List.length_append, Nat.add_right_comm, Nat.add_sub_cancel]
  next last ran =>
    obtain ⟨stack, numeral, rfl, isComplete, tooLarge, rfl⟩ := Reader.finish_eq_malformed isRefused
    obtain ⟨before, byte, stops, rfl⟩ :=
      exists_stopsAt_of_tooLarge [] (Reads.of_run ran) isComplete tooLarge
    exact ⟨before, byte, [], stops, rfl, by simp⟩

/-- **A text is refused where the reader stops**, and the position is the number of bytes up to
there. -/
theorem read_eq_malformed_iff {body : List UInt8} {position : Nat} :
    read body = .error (.malformed position) ↔
      ∃ front byte rest, StopsAt front byte rest ∧ body = front ++ byte :: rest ∧
        position = front.length + 1 := by
  refine ⟨exists_stopsAt, ?_⟩
  rintro ⟨front, byte, rest, stops, rfl, rfl⟩
  exact stops.read_eq

end Gatehouse.Json
