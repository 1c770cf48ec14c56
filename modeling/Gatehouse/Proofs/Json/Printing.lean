import Gatehouse.Json.Printer
import Gatehouse.Proofs.Json.Reading

/-!
# The printed text of a value

The compact text of a value is a sequence of tokens (`tokens`): brackets, commas, colons, strings,
bare words and numbers.  With any blanks between its tokens it is still a text of the value
(`isText_of_spaced`), so the reader takes it for the value; and without any it is the text that is
printed (`spaced_text`).  Reading therefore undoes printing (`read_text_printed`).

Strings are where this could fail.  Each character is escaped by itself, and what is printed for it
is one of the ways to write it, the character itself where that is allowed.
-/

namespace Gatehouse.Json

set_option autoImplicit false

/-- The bytes of characters. -/
def encoding (cs : List Char) : List UInt8 :=
  cs.flatMap String.utf8EncodeChar

theorem encoding_nil : encoding [] = [] :=
  rfl

theorem encoding_append (cs cs' : List Char) : encoding (cs ++ cs') = encoding cs ++ encoding cs' :=
  List.flatMap_append

theorem encoding_cons (c : Char) (cs : List Char) :
    encoding (c :: cs) = String.utf8EncodeChar c ++ encoding cs :=
  List.flatMap_cons

/-! ## Tokens -/

mutual

/-- The tokens of the printed text of a value. -/
def tokens : Json → List (List UInt8)
  | .null => [encoding (chars .null)]
  | .boolean value => [encoding (chars (.boolean value))]
  | .number literal => [encoding literal.toList]
  | .string text => [encoding (quoted text)]
  | .array elements => [0x5b] :: (elementTokens elements ++ [[0x5d]])
  | .object members => [0x7b] :: (memberTokens members ++ [[0x7d]])

/-- The tokens of the elements of an array. -/
def elementTokens : List Json → List (List UInt8)
  | [] => []
  | [element] => tokens element
  | element :: rest => tokens element ++ [0x2c] :: elementTokens rest

/-- The tokens of the members of an object. -/
def memberTokens : List (String × Json) → List (List UInt8)
  | [] => []
  | [(key, value)] => encoding (quoted key) :: [0x3a] :: tokens value
  | (key, value) :: rest =>
      encoding (quoted key) :: [0x3a] :: (tokens value ++ [0x2c] :: memberTokens rest)

end

/-- How tokens may be written one after the other, with blanks between them. -/
inductive Spaced : List (List UInt8) → List UInt8 → Prop
  | last (token : List UInt8) : Spaced [token] token
  | more {token blank bytes : List UInt8} {rest : List (List UInt8)} (isBlank : Blank blank)
      (others : Spaced rest bytes) : Spaced (token :: rest) (token ++ blank ++ bytes)

namespace Spaced

theorem ne_nil {items : List (List UInt8)} {bytes : List UInt8} (spaced : Spaced items bytes) :
    items ≠ [] := by
  cases spaced <;> exact List.cons_ne_nil _ _

/-- A single token stands for itself. -/
theorem one_cases {token bytes : List UInt8} (spaced : Spaced [token] bytes) : bytes = token := by
  cases spaced with
  | last => rfl
  | more isBlank others => exact absurd rfl others.ne_nil

/-- The first token, the blanks behind it and the other tokens. -/
theorem cons_cases {token : List UInt8} {rest : List (List UInt8)} {bytes : List UInt8}
    (spaced : Spaced (token :: rest) bytes) (notLast : rest ≠ []) :
    ∃ blank others, bytes = token ++ blank ++ others ∧ Blank blank ∧ Spaced rest others := by
  cases spaced with
  | last => exact absurd rfl notLast
  | more isBlank others => exact ⟨_, _, rfl, isBlank, others⟩

/-- The tokens in front, the blanks behind them and the tokens behind those. -/
theorem append_cases {items items' : List (List UInt8)} {bytes : List UInt8}
    (spaced : Spaced (items ++ items') bytes) (first : items ≠ []) (notLast : items' ≠ []) :
    ∃ front blank back, bytes = front ++ blank ++ back ∧ Spaced items front ∧ Blank blank ∧
      Spaced items' back := by
  induction items generalizing bytes with
  | nil => exact absurd rfl first
  | cons token rest ih =>
      obtain ⟨blank, others, rfl, isBlank, spaced'⟩ :=
        spaced.cons_cases (List.append_ne_nil_of_right_ne_nil rest notLast)
      cases rest with
      | nil => exact ⟨token, blank, others, rfl, .last token, isBlank, spaced'⟩
      | cons token' rest =>
          obtain ⟨front, blank', back, rfl, spacedFront, isBlank', spacedBack⟩ :=
            ih spaced' (List.cons_ne_nil _ _)
          exact ⟨token ++ blank ++ front, blank', back, by simp, .more isBlank spacedFront,
            isBlank', spacedBack⟩

/-- Tokens may be written without blanks. -/
theorem flatten {items : List (List UInt8)} (first : items ≠ []) : Spaced items items.flatten := by
  induction items with
  | nil => exact absurd rfl first
  | cons token rest ih =>
      cases rest with
      | nil => simpa using Spaced.last token
      | cons token' rest =>
          have spaced : Spaced (token :: token' :: rest) (token ++ [] ++ _) :=
            .more blank_nil (ih (List.cons_ne_nil _ _))
          rwa [List.append_nil, ← List.flatten_cons] at spaced

end Spaced

/-! ## Printed strings -/

/-- A hexadecimal digit is one byte, which stands for its number. -/
theorem hexValue?_hexDigit : ∀ value < 16,
    String.utf8EncodeChar (hexDigit value) = [UInt8.ofNat (hexDigit value).toNat] ∧
      hexValue? (UInt8.ofNat (hexDigit value).toNat) = some value := by
  decide

/-- What is printed for a character below the space without a short escape writes it. -/
theorem writesChar_unit {c : Char} (isControl : c.toNat < 32) :
    WritesChar c (encoding
      ['\\', 'u', '0', '0', hexDigit (c.toNat / 16), hexDigit (c.toNat % 16)]) := by
  obtain ⟨isByte, isHigh⟩ := hexValue?_hexDigit (c.toNat / 16) (by omega)
  obtain ⟨isByte', isLow⟩ := hexValue?_hexDigit (c.toNat % 16) (by omega)
  have written : FourDigits [0x30, 0x30, UInt8.ofNat (hexDigit (c.toNat / 16)).toNat,
      UInt8.ofNat (hexDigit (c.toNat % 16)).toNat] c.toNat :=
    ⟨_, _, _, _, 0, 0, _, _, rfl, rfl, rfl, isHigh, isLow, by omega⟩
  have bytes : encoding ['\\', 'u', '0', '0', hexDigit (c.toNat / 16), hexDigit (c.toNat % 16)] =
      0x5c :: 0x75 :: [0x30, 0x30, UInt8.ofNat (hexDigit (c.toNat / 16)).toNat,
        UInt8.ofNat (hexDigit (c.toNat % 16)).toNat] := by
    simp only [encoding_cons, isByte, isByte']
    rfl
  exact bytes ▸ .unit written

/-- What is printed for a character is one of the ways to write it. -/
theorem writesChar_escapedChar (c : Char) : WritesChar c (encoding (escapedChar c)) := by
  rw [escapedChar]
  repeat' split
  · exact .short (by simp_all [shortEscapes])
  · exact .short (by simp_all [shortEscapes])
  · exact .short (by simp_all [shortEscapes])
  · exact .short (by simp_all [shortEscapes])
  · exact .short (by simp_all [shortEscapes])
  · exact .short (by simp_all [shortEscapes])
  · exact .short (by simp_all [shortEscapes])
  · rename_i isControl
    exact writesChar_unit isControl
  · rename_i notQuote notBackslash _ _ _ _ _ notControl
    have plain := WritesChar.plain notQuote notBackslash (Nat.not_lt.1 notControl)
    simpa [encoding] using plain

/-- What is printed for a text is one of the ways to write it. -/
theorem writesString_quoted (text : String) : WritesString text (encoding (quoted text)) := by
  have inner : ∀ cs : List Char, WritesChars cs (encoding (cs.flatMap escapedChar)) := by
    intro cs
    induction cs with
    | nil => exact .nil
    | cons c cs ih =>
        rw [List.flatMap_cons, encoding_append]
        exact .cons (writesChar_escapedChar c) ih
  refine ⟨_, inner text.toList, ?_⟩
  rw [quoted, encoding_append, encoding_cons]
  rfl

/-! ## Printed values -/

theorem tokens_ne_nil (value : Json) : tokens value ≠ [] := by
  cases value <;> exact List.cons_ne_nil _ _

theorem elementTokens_ne_nil {elements : List Json} (first : elements ≠ []) :
    elementTokens elements ≠ [] := by
  match elements with
  | [] => exact absurd rfl first
  | [element] => exact tokens_ne_nil element
  | element :: element' :: rest =>
      exact List.append_ne_nil_of_right_ne_nil _ (List.cons_ne_nil _ _)

theorem memberTokens_ne_nil {members : List (String × Json)} (first : members ≠ []) :
    memberTokens members ≠ [] := by
  match members with
  | [] => exact absurd rfl first
  | [(key, value)] => exact List.cons_ne_nil _ _
  | (key, value) :: member :: rest => exact List.cons_ne_nil _ _

/-- Whether a value's tokens are a text of it, whatever blanks stand between them. -/
def IsWrittenByTokens (value : Json) : Prop :=
  ∀ source, Spaced (tokens value) source → IsText value source

/-- The tokens of elements write them, whatever blanks stand around them. -/
theorem writes_elements {elements : List Json} (areWritten : ∀ element ∈ elements,
    IsWrittenByTokens element) (first : elements ≠ []) {before inner after : List UInt8}
    (isBefore : Blank before) (spaced : Spaced (elementTokens elements) inner)
    (isAfter : Blank after) : Writes (.elements elements) (before ++ inner ++ after) := by
  induction elements generalizing before inner with
  | nil => exact absurd rfl first
  | cons element rest ih =>
      obtain ⟨isWritten, others⟩ := List.forall_mem_cons.1 areWritten
      cases rest with
      | nil => exact .lastElement (.element isBefore (isWritten inner spaced) isAfter)
      | cons element' rest =>
          obtain ⟨front, blank, back, rfl, spacedFront, isBlank, spacedBack⟩ :=
            spaced.append_cases (tokens_ne_nil element) (List.cons_ne_nil _ _)
          obtain ⟨blank', rest', rfl, isBlank', spacedRest⟩ :=
            spacedBack.cons_cases (elementTokens_ne_nil (List.cons_ne_nil _ _))
          have later := ih others (List.cons_ne_nil _ _) isBlank' spacedRest
          have here : Writes (.element element) (before ++ front ++ blank) :=
            .element isBefore (isWritten front spacedFront) isBlank
          simpa using Writes.moreElements here later

/-- The tokens of a member write it, whatever blanks stand around them. -/
theorem writes_member {key : String} {value : Json} (isWritten : IsWrittenByTokens value)
    {before inner after : List UInt8} (isBefore : Blank before)
    (spaced : Spaced (encoding (quoted key) :: [0x3a] :: tokens value) inner)
    (isAfter : Blank after) : Writes (.member (key, value)) (before ++ inner ++ after) := by
  obtain ⟨blank, back, rfl, isBlank, spacedBack⟩ := spaced.cons_cases (List.cons_ne_nil _ _)
  obtain ⟨blank', rest, rfl, isBlank', spacedRest⟩ := spacedBack.cons_cases (tokens_ne_nil value)
  have written := Writes.member isBefore (writesString_quoted key) isBlank
    (.element isBlank' (isWritten rest spacedRest) isAfter)
  simpa using written

/-- The tokens of members write them, whatever blanks stand around them. -/
theorem writes_members {members : List (String × Json)} (areWritten : ∀ member ∈ members,
    IsWrittenByTokens member.2) (first : members ≠ []) {before inner after : List UInt8}
    (isBefore : Blank before) (spaced : Spaced (memberTokens members) inner)
    (isAfter : Blank after) : Writes (.members members) (before ++ inner ++ after) := by
  induction members generalizing before inner with
  | nil => exact absurd rfl first
  | cons member rest ih =>
      obtain ⟨isWritten, others⟩ := List.forall_mem_cons.1 areWritten
      obtain ⟨key, value⟩ := member
      cases rest with
      | nil => exact .lastMember (writes_member isWritten isBefore spaced isAfter)
      | cons member' rest =>
          have spaced' : Spaced ((encoding (quoted key) :: [0x3a] :: tokens value)
              ++ [0x2c] :: memberTokens (member' :: rest)) inner := spaced
          obtain ⟨front, blank, back, rfl, spacedFront, isBlank, spacedBack⟩ :=
            spaced'.append_cases (List.cons_ne_nil _ _) (List.cons_ne_nil _ _)
          obtain ⟨blank', rest', rfl, isBlank', spacedRest⟩ :=
            spacedBack.cons_cases (memberTokens_ne_nil (List.cons_ne_nil _ _))
          have later := ih others (List.cons_ne_nil _ _) isBlank' spacedRest
          have here := writes_member isWritten isBefore spacedFront isBlank
          simpa using Writes.moreMembers here later

/-- The one token of a value that is no container is all of its text. -/
theorem isWrittenByTokens_of_token {value : Json} {token : List UInt8}
    (isToken : tokens value = [token]) (isText : IsText value token) :
    IsWrittenByTokens value := by
  intro source spaced
  rw [isToken] at spaced
  exact spaced.one_cases ▸ isText

/-- An array is written by its tokens if its elements are. -/
theorem isWrittenByTokens_array {elements : List Json}
    (areWritten : ∀ element ∈ elements, IsWrittenByTokens element) :
    IsWrittenByTokens (.array elements) := by
  intro source spaced
  obtain ⟨blank, back, rfl, isBlank, spacedBack⟩ :=
    Spaced.cons_cases spaced (List.append_ne_nil_of_right_ne_nil _ (List.cons_ne_nil _ _))
  cases elements with
  | nil =>
      rw [spacedBack.one_cases]
      exact .emptyArray isBlank
  | cons element rest =>
      obtain ⟨inner, blank', close, rfl, spacedInner, isBlank', spacedClose⟩ :=
        spacedBack.append_cases (elementTokens_ne_nil (List.cons_ne_nil _ _)) (List.cons_ne_nil _ _)
      rw [spacedClose.one_cases]
      have written := writes_elements areWritten (List.cons_ne_nil _ _) isBlank spacedInner isBlank'
      simpa [IsText] using Writes.array written

/-- An object is written by its tokens if its values are. -/
theorem isWrittenByTokens_object {members : List (String × Json)}
    (areWritten : ∀ member ∈ members, IsWrittenByTokens member.2) :
    IsWrittenByTokens (.object members) := by
  intro source spaced
  obtain ⟨blank, back, rfl, isBlank, spacedBack⟩ :=
    Spaced.cons_cases spaced (List.append_ne_nil_of_right_ne_nil _ (List.cons_ne_nil _ _))
  cases members with
  | nil =>
      rw [spacedBack.one_cases]
      exact .emptyObject isBlank
  | cons member rest =>
      obtain ⟨inner, blank', close, rfl, spacedInner, isBlank', spacedClose⟩ :=
        spacedBack.append_cases (memberTokens_ne_nil (List.cons_ne_nil _ _)) (List.cons_ne_nil _ _)
      rw [spacedClose.one_cases]
      have written := writes_members areWritten (List.cons_ne_nil _ _) isBlank spacedInner isBlank'
      simpa [IsText] using Writes.object written

/-- A value within some limits is written by its tokens. -/
theorem isText_of_spaced {depth : Nat} {value : Json} (isWithin : IsWithin depth value) :
    IsWrittenByTokens value := by
  induction isWithin with
  | null depth => exact isWrittenByTokens_of_token rfl .nullWord
  | boolean depth value =>
      cases value with
      | true => exact isWrittenByTokens_of_token rfl .trueWord
      | false => exact isWrittenByTokens_of_token rfl .falseWord
  | number depth number isInRange =>
      have isToken : encoding number.literal.toList = number.bytes := by
        rw [← number.bytes_literal, encoding, ← Text.bytes_ofList, String.ofList_toList]
      exact isWrittenByTokens_of_token rfl (isToken ▸ .number number)
  | string depth text =>
      exact isWrittenByTokens_of_token rfl (.string (writesString_quoted text))
  | array _ areWritten => exact isWrittenByTokens_array areWritten
  | object _ areWritten => exact isWrittenByTokens_object areWritten

/-! ## The printed text -/

/-- The bytes of the characters that stand for themselves in a printed text. -/
theorem utf8EncodeChar_punctuation :
    String.utf8EncodeChar '[' = [0x5b] ∧ String.utf8EncodeChar ']' = [0x5d] ∧
      String.utf8EncodeChar '\x7b' = [0x7b] ∧ String.utf8EncodeChar '\x7d' = [0x7d] ∧
      String.utf8EncodeChar ',' = [0x2c] ∧ String.utf8EncodeChar ':' = [0x3a] :=
  ⟨rfl, rfl, rfl, rfl, rfl, rfl⟩

mutual

/-- The printed text of a value is its tokens without blanks. -/
theorem encoding_chars : ∀ value : Json, encoding (chars value) = (tokens value).flatten
  | .null => rfl
  | .boolean true => rfl
  | .boolean false => rfl
  | .number literal => by simp [chars, tokens]
  | .string text => by simp [chars, tokens]
  | .array elements => by
      have inner := encoding_elementChars elements
      simp [chars, tokens, encoding_append, encoding_cons, encoding_nil,
        utf8EncodeChar_punctuation, inner]
  | .object members => by
      have inner := encoding_memberChars members
      simp [chars, tokens, encoding_append, encoding_cons, encoding_nil,
        utf8EncodeChar_punctuation, inner]

theorem encoding_elementChars : ∀ elements : List Json,
    encoding (elementChars elements) = (elementTokens elements).flatten
  | [] => rfl
  | [element] => encoding_chars element
  | element :: element' :: rest => by
      have first := encoding_chars element
      have others := encoding_elementChars (element' :: rest)
      rw [elementChars, elementTokens, encoding_append, encoding_cons, first, others]
      · simp [utf8EncodeChar_punctuation]
      · exact fun empty => nomatch empty
      · exact fun empty => nomatch empty

theorem encoding_memberChars : ∀ members : List (String × Json),
    encoding (memberChars members) = (memberTokens members).flatten
  | [] => rfl
  | [(key, value)] => by
      have inner := encoding_chars value
      simp [memberChars, memberTokens, encoding_append, encoding_cons,
        utf8EncodeChar_punctuation, inner]
  | (key, value) :: member :: rest => by
      have first := encoding_chars value
      have others := encoding_memberChars (member :: rest)
      rw [memberChars, memberTokens, encoding_append, encoding_append, encoding_cons, encoding_cons,
        first, others]
      · simp [utf8EncodeChar_punctuation]
      · exact fun empty => nomatch empty
      · exact fun empty => nomatch empty

end

/-- The printed text of a value is one way to write its tokens. -/
theorem spaced_text (value : Json) : Spaced (tokens value) (Text.bytes value.text) := by
  have printed : Text.bytes value.text = (tokens value).flatten := by
    rw [text, Text.bytes_ofList, ← encoding_chars, encoding]
  exact printed ▸ Spaced.flatten (tokens_ne_nil value)

/-- **Reading undoes printing**, for values within the limits of the reader. -/
theorem read_text_printed {value : Json} (isWithin : IsWithin depthLimit value) :
    read (Text.bytes value.text) = .ok value := by
  have isText : IsText value (Text.bytes value.text) :=
    isText_of_spaced isWithin _ (spaced_text value)
  simpa using read_text isText isWithin blank_nil blank_nil

end Gatehouse.Json
