import Gatehouse.Proofs.Json.Runs

/-!
# Reading strings

However a string is written, the reader takes it for the string it writes.  While characters are
read, the draft of the string grows by the bytes of each (`reads_char`), whichever way the character
is written; what is kept besides is of no matter here.  The bytes of the characters of a text are
the bytes of the text, so at the closing quote the draft is a text and no other than the one that
was written (`reads_chars`).
-/

namespace Gatehouse.Json

set_option autoImplicit false

open Reader

variable {stack : List Frame} {purpose : Purpose}

/-! ## Plain characters -/

/-- A byte that stands for itself inside a string. -/
def IsPlain (byte : UInt8) : Prop :=
  byte ≠ 0x22 ∧ byte ≠ 0x5c ∧ ¬ byte < 0x20

/-- A byte above the ASCII range stands for itself. -/
theorem isPlain_of_le {number : Nat} (low : 0x80 ≤ number) (high : number < 0x100) :
    IsPlain (UInt8.ofNat number) := by
  simp only [IsPlain, ne_eq, ← UInt8.toNat_inj, UInt8.lt_iff_toNat_lt, UInt8.toNat_ofNat']
  simp
  omega

/-- All bytes of a visible character other than the quote and the backslash stand for
themselves. -/
theorem isPlain_of_mem_encoding {c : Char} (notQuote : c ≠ '"') (notBackslash : c ≠ '\\')
    (isVisible : 32 ≤ c.toNat) {byte : UInt8} (present : byte ∈ String.utf8EncodeChar c) :
    IsPlain byte := by
  have notQuote' : c.toNat ≠ 0x22 := fun same => notQuote (Char.toNat_inj.1 same)
  have notBackslash' : c.toNat ≠ 0x5c := fun same => notBackslash (Char.toNat_inj.1 same)
  simp only [String.utf8EncodeChar, Char.toNat_val] at present
  split at present
  · obtain rfl := List.mem_singleton.1 present
    simp only [IsPlain, ne_eq, ← UInt8.toNat_inj, UInt8.lt_iff_toNat_lt, UInt8.toNat_ofNat',
      UInt8.reduceToNat]
    omega
  · -- Of the other bytes it is enough that none is in the ASCII range.
    have isHigh : ∃ number, 0x80 ≤ number ∧ number < 0x100 ∧ byte = UInt8.ofNat number := by
      split at present
      · simp only [List.mem_cons, List.not_mem_nil, or_false] at present
        rcases present with rfl | rfl <;> exact ⟨_, by omega, by omega, rfl⟩
      · split at present
        · simp only [List.mem_cons, List.not_mem_nil, or_false] at present
          rcases present with rfl | rfl | rfl <;> exact ⟨_, by omega, by omega, rfl⟩
        · simp only [List.mem_cons, List.not_mem_nil, or_false] at present
          rcases present with rfl | rfl | rfl | rfl <;> exact ⟨_, by omega, by omega, rfl⟩
    obtain ⟨number, low, high, rfl⟩ := isHigh
    exact isPlain_of_le low high

/-- Bytes that stand for themselves are taken as they are. -/
theorem reads_plain {bytes : List UInt8} (arePlain : ∀ byte ∈ bytes, IsPlain byte)
    (draft : TextDraft) :
    ∃ grown : TextDraft, Reads ⟨stack, .text purpose .plain draft⟩ bytes
        ⟨stack, .text purpose .plain grown⟩ ∧
      grown.content = bytes.reverse ++ draft.content := by
  induction bytes generalizing draft with
  | nil => exact ⟨draft, .nil _, rfl⟩
  | cons byte bytes ih =>
      obtain ⟨⟨notQuote, notBackslash, isVisible⟩, others⟩ := List.forall_mem_cons.1 arePlain
      obtain ⟨grown, run, content⟩ := ih others (draft.takePlain byte)
      refine ⟨grown, .cons ?_ run, ?_⟩
      · simp [step, continueText, notQuote, notBackslash, isVisible]
      · simp [content, TextDraft.takePlain]

/-! ## Escapes -/

/-- A short escape stands for the character that its letter is listed with. -/
theorem shortEscape?_of_mem {letter : UInt8} {c : Char} (isShort : (letter, c) ∈ shortEscapes) :
    letter ≠ 0x75 ∧ ∃ meaning, shortEscape? letter = some meaning ∧
      Char.ofNat meaning.toNat = c := by
  simp only [shortEscapes, List.mem_cons, Prod.mk.injEq, List.not_mem_nil, or_false] at isShort
  rcases isShort with ⟨rfl, rfl⟩ | ⟨rfl, rfl⟩ | ⟨rfl, rfl⟩ | ⟨rfl, rfl⟩ | ⟨rfl, rfl⟩ | ⟨rfl, rfl⟩
    | ⟨rfl, rfl⟩ | ⟨rfl, rfl⟩ <;> exact ⟨by decide, _, rfl, by decide⟩

/-- Bytes of an escape add nothing to the string. -/
theorem content_takeEscapes (bytes : List UInt8) (draft : TextDraft) :
    (bytes.foldl TextDraft.takeEscape draft).content = draft.content := by
  induction bytes generalizing draft with
  | nil => rfl
  | cons byte bytes ih => exact ih (draft.takeEscape byte)

/-- A digit of an escape before the last one is added to the number so far. -/
theorem step_digit {left value digit : Nat} (isEarly : 1 < left) {leading : Option Nat}
    {draft : TextDraft} {byte : UInt8} (isDigit : hexValue? byte = some digit) :
    step ⟨stack, .text purpose (.digits left (some value) leading) draft⟩ byte =
      .ok ⟨stack, .text purpose (.digits (left - 1) (some (value * 16 + digit)) leading)
        (draft.takeEscape byte)⟩ := by
  simp [step, continueText, isDigit, Nat.not_le.2 isEarly]

/-- Four digits are read as the number they write. -/
theorem reads_digits {digits : List UInt8} {number : Nat} (isNumber : FourDigits digits number)
    {leading : Option Nat} {draft : TextDraft} {next : Reader}
    (ends : endEscape stack purpose (digits.foldl TextDraft.takeEscape draft) (some number) leading
      = .ok next) :
    Reads ⟨stack, .text purpose (.digits 4 (some 0) leading) draft⟩ digits next := by
  obtain ⟨a, b, c, d, first, second, third, fourth, rfl, isFirst, isSecond, isThird, isFourth,
    rfl⟩ := isNumber
  refine .cons (step_digit (by decide) isFirst) (.cons (step_digit (by decide) isSecond)
    (.cons (step_digit (by decide) isThird) (.one ?_)))
  simpa [step, continueText, isFourth] using ends

/-- A character is added to the string by its bytes. -/
theorem content_addCodePoint (draft : TextDraft) (c : Char) :
    (draft.addCodePoint c.toNat).content = (String.utf8EncodeChar c).reverse ++ draft.content := by
  rw [TextDraft.addCodePoint, Char.ofNat_toNat]

/-- A short escape is read as its character. -/
theorem reads_short {letter : UInt8} {c : Char} (isShort : (letter, c) ∈ shortEscapes)
    (draft : TextDraft) :
    ∃ grown : TextDraft, Reads ⟨stack, .text purpose .plain draft⟩ [0x5c, letter]
        ⟨stack, .text purpose .plain grown⟩ ∧
      grown.content = (String.utf8EncodeChar c).reverse ++ draft.content := by
  obtain ⟨notUnit, meaning, isMeaning, isChar⟩ := shortEscape?_of_mem isShort
  refine ⟨((draft.takeEscape 0x5c).takeEscape letter).addCodePoint meaning.toNat,
    .cons rfl (.one ?_), ?_⟩
  · simp [step, continueText, notUnit, isMeaning]
  · rw [TextDraft.addCodePoint, isChar]
    rfl

/-- The number of a character, which is no surrogate, is read as the character. -/
theorem reads_unit {c : Char} {digits : List UInt8} (isNumber : FourDigits digits c.toNat)
    (draft : TextDraft) :
    ∃ grown : TextDraft, Reads ⟨stack, .text purpose .plain draft⟩ (0x5c :: 0x75 :: digits)
        ⟨stack, .text purpose .plain grown⟩ ∧
      grown.content = (String.utf8EncodeChar c).reverse ++ draft.content := by
  let drafted := digits.foldl TextDraft.takeEscape ((draft.takeEscape 0x5c).takeEscape 0x75)
  refine ⟨drafted.addCodePoint c.toNat, .cons rfl (.cons rfl (reads_digits isNumber ?_)), ?_⟩
  · have notSurrogate : ¬ (0xd800 ≤ c.toNat ∧ c.toNat ≤ 0xdfff) := by
      have valid := c.valid
      simp only [UInt32.isValidChar, Nat.isValidChar, Char.toNat_val] at valid
      omega
    have notTrailing : ¬ (0xdc00 ≤ c.toNat ∧ c.toNat ≤ 0xdfff) := by omega
    have notLeading : ¬ (0xd800 ≤ c.toNat ∧ c.toNat ≤ 0xdbff) := by omega
    simp only [endEscape, Bool.and_eq_true, decide_eq_true_eq, notTrailing, notLeading, if_false]
    rfl
  · rw [content_addCodePoint, content_takeEscapes]
    rfl

/-- Two surrogates are read as the character they make up. -/
theorem reads_pair {c : Char} {digits digits' : List UInt8} {leading trailing : Nat}
    (isLeading : FourDigits digits leading) (isTrailing : FourDigits digits' trailing)
    (leadingRange : 0xd800 ≤ leading ∧ leading ≤ 0xdbff)
    (trailingRange : 0xdc00 ≤ trailing ∧ trailing ≤ 0xdfff)
    (isPair : c.toNat = 0x10000 + (leading - 0xd800) * 0x400 + (trailing - 0xdc00))
    (draft : TextDraft) :
    ∃ grown : TextDraft, Reads ⟨stack, .text purpose .plain draft⟩
        (0x5c :: 0x75 :: digits ++ 0x5c :: 0x75 :: digits')
        ⟨stack, .text purpose .plain grown⟩ ∧
      grown.content = (String.utf8EncodeChar c).reverse ++ draft.content := by
  let first := digits.foldl TextDraft.takeEscape ((draft.takeEscape 0x5c).takeEscape 0x75)
  let second := digits'.foldl TextDraft.takeEscape ((first.takeEscape 0x5c).takeEscape 0x75)
  have front : Reads ⟨stack, .text purpose .plain draft⟩ (0x5c :: 0x75 :: digits)
      ⟨stack, .text purpose (.trailingMark leading) first⟩ := by
    refine .cons rfl (.cons rfl (reads_digits isLeading ?_))
    have notTrailing : ¬ (0xdc00 ≤ leading ∧ leading ≤ 0xdfff) := by omega
    simp only [endEscape, Bool.and_eq_true, decide_eq_true_eq, notTrailing, leadingRange,
      if_false, and_self, if_true]
    rfl
  have back : Reads ⟨stack, .text purpose (.trailingMark leading) first⟩
      (0x5c :: 0x75 :: digits') ⟨stack, .text purpose .plain (second.addCodePoint c.toNat)⟩ := by
    refine .cons rfl (.cons rfl (reads_digits isTrailing ?_))
    have codePoint : pairCodePoint leading trailing = c.toNat := by
      rw [pairCodePoint]
      omega
    simp only [endEscape, Bool.and_eq_true, decide_eq_true_eq, trailingRange, and_self, if_true,
      codePoint]
    rfl
  refine ⟨second.addCodePoint c.toNat, front.append back, ?_⟩
  rw [content_addCodePoint, content_takeEscapes]
  exact congrArg _ (content_takeEscapes digits ((draft.takeEscape 0x5c).takeEscape 0x75))

/-! ## Characters -/

/-- A character is read however it is written. -/
theorem reads_char {c : Char} {bytes : List UInt8} (isWritten : WritesChar c bytes)
    (draft : TextDraft) :
    ∃ grown : TextDraft, Reads ⟨stack, .text purpose .plain draft⟩ bytes
        ⟨stack, .text purpose .plain grown⟩ ∧
      grown.content = (String.utf8EncodeChar c).reverse ++ draft.content := by
  cases isWritten with
  | plain notQuote notBackslash isVisible =>
      apply reads_plain
      intro byte present
      exact isPlain_of_mem_encoding notQuote notBackslash isVisible present
  | short isShort => exact reads_short isShort draft
  | unit isNumber => exact reads_unit isNumber draft
  | pair isLeading isTrailing leadingRange trailingRange isPair =>
      exact reads_pair isLeading isTrailing leadingRange trailingRange isPair draft

/-- The characters of a string are read however they are written. -/
theorem reads_chars {cs : List Char} {bytes : List UInt8} (isWritten : WritesChars cs bytes)
    (draft : TextDraft) :
    ∃ grown : TextDraft, Reads ⟨stack, .text purpose .plain draft⟩ bytes
        ⟨stack, .text purpose .plain grown⟩ ∧
      grown.content = (cs.flatMap String.utf8EncodeChar).reverse ++ draft.content := by
  induction isWritten generalizing draft with
  | nil => exact ⟨draft, .nil _, rfl⟩
  | cons first others ih =>
      obtain ⟨middle, front, isMiddle⟩ := reads_char first draft
      obtain ⟨grown, back, isGrown⟩ := ih middle
      refine ⟨grown, front.append back, ?_⟩
      rw [isGrown, isMiddle, List.flatMap_cons, List.reverse_append, List.append_assoc]

/-! ## Strings -/

/-- A string is read up to its closing quote, and what it writes is known there. -/
theorem reads_text {text : String} {inner : List UInt8} (isWritten : WritesChars text.toList inner)
    {next : Reader}
    (ends : ∀ draft : TextDraft, Text.ofBytes? draft.content.reverse = some text →
      endText stack purpose draft = .ok next) :
    Reads ⟨stack, .text purpose .plain .empty⟩ (inner ++ [0x22]) next := by
  obtain ⟨draft, run, content⟩ := @reads_chars stack purpose _ _ isWritten .empty
  have isText : Text.ofBytes? draft.content.reverse = some text := by
    have encoded : text.toList.flatMap String.utf8EncodeChar = Text.bytes text := by
      rw [← Text.bytes_ofList, String.ofList_toList]
    rw [content, encoded]
    simp [TextDraft.empty, Text.ofBytes?_bytes]
  exact run.append (.one (by simpa [step, continueText] using ends draft isText))

/-- A string that is a value is read where a value may begin. -/
theorem reads_string {reader : Reader} (awaits : reader.AwaitsValue) {text : String}
    {bytes : List UInt8} (isWritten : WritesString text bytes) :
    Reads reader bytes (accept reader.stack (.string text) true) := by
  obtain ⟨inner, isInner, rfl⟩ := isWritten
  refine .cons (awaits.step_eq (by decide)) (reads_text isInner ?_)
  intro draft isText
  simp [endText, isText]

/-- A key is read where a key may begin. -/
theorem reads_key {reversed : List (String × Json)} {outer : List Frame} {reader : Reader}
    (awaits : reader.AwaitsKey reversed outer) {key : String} {bytes : List UInt8}
    (isWritten : WritesString key bytes) :
    Reads reader bytes ⟨.object reversed key :: outer, .colon⟩ := by
  obtain ⟨inner, isInner, rfl⟩ := isWritten
  refine .cons (awaits.step_eq (by decide)) (reads_text isInner ?_)
  intro draft isText
  cases awaits <;> simp [endText, isText]

end Gatehouse.Json
