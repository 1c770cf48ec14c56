import Mathlib.Data.List.Induction
import Gatehouse.Proofs.Json.Moves
import Gatehouse.Proofs.Text.Characters

/-!
# Strings that are open

While the reader is inside a string it keeps the bytes that write the string and those that the
string stands for.  The two differ by the escapes, which are written in ASCII and stand for whole
characters; so, between escapes, the bytes of the one are those of characters exactly if the bytes
of the other are (`spellsText_of_reads`).

What is kept begins with the string: the bytes in front of it are some that lead to an opening
quote, followed by the bytes that write the string so far (`exists_opening`).
-/

namespace Gatehouse.Json

set_option autoImplicit false

open Text (AreCharacters)

/-! ## What is known of a string -/

/-- Whether two lists of bytes are those of characters or not alike, whatever follows them. -/
def Alike (content written : List UInt8) : Prop :=
  ∀ behind, AreCharacters (content ++ behind) ↔ AreCharacters (written ++ behind)

namespace TextDraft

/-- Whether a string, up to here, is one of characters exactly if it is written in characters. -/
def IsSettled (draft : TextDraft) : Prop :=
  Alike draft.content.reverse draft.written.reverse

/-- Whether the last of the bytes that write a string are those of an escape which is not complete,
and the others make it plain. -/
def IsEscaping (draft : TextDraft) : Prop :=
  ∃ front escape, draft.written.reverse = front ++ escape ∧ escape ≠ [] ∧
    (∀ byte ∈ escape, byte.toNat < 128) ∧ Alike draft.content.reverse front

variable {draft : TextDraft} {byte : UInt8}

theorem isSettled_empty : empty.IsSettled :=
  fun _ => Iff.rfl

theorem IsSettled.takePlain (isSettled : draft.IsSettled) (byte : UInt8) :
    (draft.takePlain byte).IsSettled := by
  intro behind
  simpa only [TextDraft.takePlain, List.reverse_cons, List.append_assoc]
    using isSettled ([byte] ++ behind)

theorem IsSettled.takeEscape (isSettled : draft.IsSettled) (isAscii : byte.toNat < 128) :
    (draft.takeEscape byte).IsEscaping := by
  refine ⟨draft.written.reverse, [byte], ?_, List.cons_ne_nil byte [], ?_, isSettled⟩
  · rw [TextDraft.takeEscape, List.reverse_cons]
  · rintro _ (_ | ⟨_, ⟨⟩⟩)
    exact isAscii

theorem IsEscaping.takeEscape (isEscaping : draft.IsEscaping) (isAscii : byte.toNat < 128) :
    (draft.takeEscape byte).IsEscaping := by
  obtain ⟨front, escape, isWritten, notEmpty, areAscii, alike⟩ := isEscaping
  refine ⟨front, escape ++ [byte], ?_, List.append_ne_nil_of_left_ne_nil notEmpty _, ?_, alike⟩
  · rw [TextDraft.takeEscape, List.reverse_cons, isWritten, List.append_assoc]
  · intro other present
    rcases List.mem_append.1 present with isBefore | isLast
    · exact areAscii other isBefore
    · rwa [List.mem_singleton.1 isLast]

/-- A complete escape stands for a character and is written in characters. -/
theorem IsEscaping.addCodePoint (isEscaping : draft.IsEscaping) (codePoint : Nat) :
    (draft.addCodePoint codePoint).IsSettled := by
  obtain ⟨front, escape, isWritten, notEmpty, areAscii, alike⟩ := isEscaping
  intro behind
  have isFront := alike []
  rw [List.append_nil, List.append_nil] at isFront
  rw [TextDraft.addCodePoint, isWritten, List.reverse_append, List.reverse_reverse,
    List.append_assoc, List.append_assoc, Text.areCharacters_append_encoding_append_iff,
    Text.areCharacters_append_ascii_append_iff notEmpty areAscii, isFront]

end TextDraft

/-- What is known of a string that is open.  Once a digit of an escape was wrong the string is
refused, and nothing need be known. -/
def Spells : TextStage → TextDraft → Prop
  | .plain, draft => draft.IsSettled
  | .digits _ none _, _ => True
  | _, draft => draft.IsEscaping

theorem toNat_of_shortEscape? {byte meaning : UInt8} (isShort : shortEscape? byte = some meaning) :
    byte.toNat < 128 := by
  simp only [shortEscape?, beq_iff_eq] at isShort
  repeat' split at isShort
  all_goals first | (subst_vars; decide) | cases isShort

theorem toNat_of_hexValue? {byte : UInt8} {value : Nat} (isDigit : hexValue? byte = some value) :
    byte.toNat < 128 := by
  simp only [hexValue?, Json.isDigit, Bool.and_eq_true, decide_eq_true_eq,
    UInt8.le_iff_toNat_le] at isDigit
  repeat' split at isDigit
  all_goals first | (simp_all; omega) | cases isDigit

/-- The number of an escape goes on only if no digit was wrong, and then all of the escape is
ASCII. -/
theorem isEscaping_of_isGrown {draft : TextDraft} {byte : UInt8} {left grown : Nat}
    {value leading : Option Nat}
    (isGrown : (do return (← value) * 16 + (← hexValue? byte)) = some grown)
    (spells : Spells (.digits left value leading) draft) :
    (draft.takeEscape byte).IsEscaping := by
  cases value with
  | none => cases isGrown
  | some value =>
      cases isDigit : hexValue? byte with
      | none =>
          rw [isDigit] at isGrown
          cases isGrown
      | some digit => exact TextDraft.IsEscaping.takeEscape spells (toNat_of_hexValue? isDigit)

namespace Reader

variable {stack stack' : List Frame} {purpose purpose' : Purpose} {stage stage' : TextStage}
  {draft draft' : TextDraft} {reader next : Reader} {byte : UInt8}

/-- Behind a value no string is open. -/
theorem accept_ne_text (stack : List Frame) (value : Json) (isDelimited : Bool) :
    accept stack value isDelimited ≠ ⟨stack', .text purpose stage draft⟩ := by
  cases stack with
  | nil => simp [accept]
  | cons frame outer => cases frame <;> simp [accept]

/-- At its closing quote no string is left open. -/
theorem endText_ne_text :
    endText stack purpose draft ≠ .ok ⟨stack', .text purpose' stage' draft'⟩ := by
  intro ended
  simp only [endText] at ended
  repeat' split at ended
  all_goals first
    | exact accept_ne_text _ _ _ (Except.ok.inj ended)
    | cases ended

/-- A complete escape leaves a string open if it stands for a character or for half of one. -/
theorem endEscape_eq_ok {value leading : Option Nat}
    (ended : endEscape stack purpose draft value leading =
      .ok ⟨stack', .text purpose' stage' draft'⟩) :
    stack' = stack ∧ purpose' = purpose ∧ value.isSome ∧
      ((∃ unit, stage' = .trailingMark unit ∧ draft' = draft) ∨
        ∃ codePoint, stage' = .plain ∧ draft' = draft.addCodePoint codePoint) := by
  simp only [endEscape] at ended
  repeat' split at ended
  all_goals cases ended
  · exact ⟨rfl, rfl, rfl, .inl ⟨_, rfl, rfl⟩⟩
  · exact ⟨rfl, rfl, rfl, .inr ⟨_, rfl, rfl⟩⟩
  · exact ⟨rfl, rfl, rfl, .inr ⟨_, rfl, rfl⟩⟩

/-- A string that goes on keeps the byte, and what is known of it. -/
theorem continueText_eq_ok
    (stepped : continueText stack purpose stage draft byte =
      .ok ⟨stack', .text purpose' stage' draft'⟩) :
    stack' = stack ∧ purpose' = purpose ∧ draft'.written = byte :: draft.written ∧
      (Spells stage draft → Spells stage' draft') := by
  cases stage with
  | plain =>
      simp only [continueText, beq_iff_eq] at stepped
      split at stepped
      next => exact absurd stepped endText_ne_text
      split at stepped
      next isBackslash =>
        cases stepped
        exact ⟨rfl, rfl, rfl, fun isSettled => isSettled.takeEscape (isBackslash ▸ by decide)⟩
      split at stepped
      next => cases stepped
      next =>
        cases stepped
        exact ⟨rfl, rfl, rfl, fun isSettled => isSettled.takePlain byte⟩
  | escape =>
      simp only [continueText, beq_iff_eq] at stepped
      split at stepped
      next isUnit =>
        cases stepped
        exact ⟨rfl, rfl, rfl, fun isEscaping => isEscaping.takeEscape (isUnit ▸ by decide)⟩
      split at stepped
      next meaning isShort =>
        cases stepped
        have isAscii := toNat_of_shortEscape? isShort
        exact ⟨rfl, rfl, rfl, fun isEscaping => (isEscaping.takeEscape isAscii).addCodePoint _⟩
      next => cases stepped
  | digits left value leading =>
      simp only [continueText] at stepped
      split at stepped
      next =>
        obtain ⟨rfl, rfl, isSome, isNext⟩ := endEscape_eq_ok stepped
        obtain ⟨grown, isGrown⟩ := Option.isSome_iff_exists.1 isSome
        rcases isNext with ⟨unit, rfl, rfl⟩ | ⟨codePoint, rfl, rfl⟩
        · exact ⟨rfl, rfl, rfl, isEscaping_of_isGrown isGrown⟩
        · refine ⟨rfl, rfl, rfl, fun spells => ?_⟩
          exact (isEscaping_of_isGrown isGrown spells).addCodePoint codePoint
      next =>
        generalize isGrown : (do return (← value) * 16 + (← hexValue? byte)) = grown at stepped
        cases stepped
        refine ⟨rfl, rfl, rfl, fun spells => ?_⟩
        cases grown with
        | none => trivial
        | some grown => exact isEscaping_of_isGrown isGrown spells
  | trailingMark leading =>
      simp only [continueText, beq_iff_eq] at stepped
      split at stepped
      next isBackslash =>
        cases stepped
        exact ⟨rfl, rfl, rfl, fun isEscaping => isEscaping.takeEscape (isBackslash ▸ by decide)⟩
      next => cases stepped
  | trailingLetter leading =>
      simp only [continueText, beq_iff_eq] at stepped
      split at stepped
      next isUnit =>
        cases stepped
        exact ⟨rfl, rfl, rfl, fun isEscaping => isEscaping.takeEscape (isUnit ▸ by decide)⟩
      next => cases stepped

/-- Whether a byte opens a string in this state. -/
def OpensText (byte : UInt8) (stage : TextStage) (draft : TextDraft) : Prop :=
  byte = 0x22 ∧ stage = .plain ∧ draft = .empty

theorem opensText_of_beginValue {mode : Mode} (notText : ¬mode.IsToken)
    (stepped : beginValue stack mode byte = .ok ⟨stack', .text purpose stage draft⟩) :
    OpensText byte stage draft := by
  simp only [beginValue, openFrame, beq_iff_eq] at stepped
  repeat' split at stepped
  all_goals cases stepped
  · exact absurd trivial notText
  · exact ⟨‹_›, rfl, rfl⟩

theorem opensText_of_beginKey {mode : Mode} (notText : ¬mode.IsToken)
    (stepped : beginKey stack mode byte = .ok ⟨stack', .text purpose stage draft⟩) :
    OpensText byte stage draft := by
  simp only [beginKey, beq_iff_eq] at stepped
  repeat' split at stepped
  all_goals cases stepped
  · exact absurd trivial notText
  · exact ⟨‹_›, rfl, rfl⟩

theorem continueContainer_ne_text :
    continueContainer stack byte ≠ .ok ⟨stack', .text purpose stage draft⟩ := by
  intro stepped
  simp only [continueContainer] at stepped
  repeat' split at stepped
  all_goals first
    | exact accept_ne_text _ _ _ (Except.ok.inj stepped)
    | cases stepped

theorem continueFinished_ne_text {value : Json} {isDelimited : Bool} :
    continueFinished value isDelimited byte ≠ .ok ⟨stack', .text purpose stage draft⟩ := by
  intro stepped
  simp only [continueFinished] at stepped
  repeat' split at stepped
  all_goals cases stepped

theorem continueWord_ne_text {rest : List UInt8} {value : Json} :
    continueWord stack rest value byte ≠ .ok ⟨stack', .text purpose stage draft⟩ := by
  intro stepped
  simp only [continueWord] at stepped
  repeat' split at stepped
  all_goals first
    | exact accept_ne_text _ _ _ (Except.ok.inj stepped)
    | cases stepped

theorem continueNumber_ne_text {numeral : Numeral} :
    continueNumber stack numeral byte ≠ .ok ⟨stack', .text purpose stage draft⟩ := by
  intro stepped
  simp only [continueNumber, continueAccepted] at stepped
  repeat' split at stepped
  all_goals first
    | exact continueFinished_ne_text stepped
    | exact continueContainer_ne_text stepped
    | cases stepped

/-- A string that is open was opened by the last byte, or it was open before. -/
theorem step_eq_ok_text (stepped : reader.step byte = .ok ⟨stack, .text purpose stage draft⟩) :
    OpensText byte stage draft ∨
      ∃ stage' draft', reader = ⟨stack, .text purpose stage' draft'⟩ ∧
        continueText stack purpose stage' draft' byte =
          .ok ⟨stack, .text purpose stage draft⟩ := by
  obtain ⟨stack', mode⟩ := reader
  cases mode with
  | text purpose' stage' draft' =>
      obtain ⟨rfl, rfl, -⟩ := continueText_eq_ok stepped
      exact .inr ⟨stage', draft', rfl, stepped⟩
  | value => exact .inl (opensText_of_beginValue id stepped)
  | firstElement =>
      simp only [step] at stepped
      repeat' split at stepped
      · exact absurd (Except.ok.inj stepped) (accept_ne_text _ _ _)
      · exact .inl (opensText_of_beginValue id stepped)
      · cases stepped
  | firstKey =>
      simp only [step] at stepped
      repeat' split at stepped
      · exact absurd (Except.ok.inj stepped) (accept_ne_text _ _ _)
      · exact .inl (opensText_of_beginKey id stepped)
      · cases stepped
  | key => exact .inl (opensText_of_beginKey id stepped)
  | colon =>
      simp only [step] at stepped
      repeat' split at stepped
      all_goals cases stepped
  | afterValue => exact absurd stepped continueContainer_ne_text
  | word rest value => exact absurd stepped continueWord_ne_text
  | number numeral => exact absurd stepped continueNumber_ne_text
  | finished value isDelimited => exact absurd stepped continueFinished_ne_text

/-! ## Runs -/

/-- What is known of the string that is open, if one is. -/
def SpellsText (reader : Reader) : Prop :=
  ∀ purpose stage draft, reader.mode = .text purpose stage draft → Spells stage draft

theorem spellsText_start : start.SpellsText := by
  rintro purpose stage draft ⟨⟩

theorem spellsText_of_step (stepped : reader.step byte = .ok next) (spells : reader.SpellsText) :
    next.SpellsText := by
  obtain ⟨stack, mode⟩ := next
  rintro purpose stage draft rfl
  rcases step_eq_ok_text stepped with ⟨-, rfl, rfl⟩ | ⟨stage', draft', rfl, goesOn⟩
  · exact TextDraft.isSettled_empty
  · obtain ⟨-, -, -, keeps⟩ := continueText_eq_ok goesOn
    exact keeps (spells purpose stage' draft' rfl)

/-- **Between escapes a string is written in characters exactly if it is one of characters.** -/
theorem spellsText_of_reads {bytes : List UInt8} (run : Reads reader bytes next)
    (spells : reader.SpellsText) : next.SpellsText := by
  induction bytes generalizing reader with
  | nil => exact run.nil_cases ▸ spells
  | cons byte bytes ih =>
      obtain ⟨middle, stepped, others⟩ := run.cons_cases
      exact ih others (spellsText_of_step stepped spells)

/-- **A string that is open was opened by a quote**, and the bytes behind it are those that write
the string. -/
theorem exists_opening {bytes : List UInt8}
    (run : Reads start bytes ⟨stack, .text purpose stage draft⟩) :
    ∃ opening, bytes = opening ++ 0x22 :: draft.written.reverse ∧
      Reads start (opening ++ [0x22]) ⟨stack, .text purpose .plain .empty⟩ ∧
      Reads ⟨stack, .text purpose .plain .empty⟩ draft.written.reverse
        ⟨stack, .text purpose stage draft⟩ := by
  induction bytes using List.reverseRecOn generalizing stage draft with
  | nil => cases run.nil_cases
  | append_singleton bytes byte ih =>
      obtain ⟨middle, front, last⟩ := run.append_cases
      obtain ⟨next, stepped, isLast⟩ := last.cons_cases
      obtain rfl := isLast.nil_cases
      rcases step_eq_ok_text stepped with ⟨rfl, rfl, rfl⟩ | ⟨stage', draft', rfl, goesOn⟩
      · exact ⟨bytes, rfl, run, .nil _⟩
      · obtain ⟨opening, rfl, opened, inside⟩ := ih front
        obtain ⟨-, -, isWritten, -⟩ := continueText_eq_ok goesOn
        rw [isWritten, List.reverse_cons]
        exact ⟨opening, by rw [List.append_assoc, List.cons_append], opened, inside.append last⟩

end Reader

end Gatehouse.Json
