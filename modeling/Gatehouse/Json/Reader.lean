import Gatehouse.Json.Value
import Gatehouse.Number.DoubleRange
import Gatehouse.Text.Utf8

/-!
# Reading JSON

A reader that takes one byte at a time.  Its state is the stack of containers that are open and
what may come next; `Reader.step` says what a byte does to it and `Reader.run` feeds it a whole
text.  Because a text is read by feeding its bytes one after the other, reading a concatenation is
reading its parts in turn (`Reader.run_append`), which is what statements about nested values rest
on.

A refusal carries the number of bytes up to and including the one that could not be read.  A number
that is too large is refused where it ends, so the byte after it does not count.  A string whose
bytes are those of no text is refused at its closing quote, but the byte that counts is the first
one that belongs to no character.  Running out of bytes inside a value is a refusal of its own, and
so is a second value behind the first.

At most 127 containers may be open at once.
-/

namespace Gatehouse.Json

set_option autoImplicit false

/-! ## Bytes -/

/-- Space, newline, tab and carriage return. -/
def isBlank (byte : UInt8) : Bool :=
  byte == 0x20 || byte == 0x0a || byte == 0x09 || byte == 0x0d

/-- Whether a byte is a decimal digit. -/
def isDigit (byte : UInt8) : Bool :=
  decide (0x30 ≤ byte) && decide (byte ≤ 0x39)

/-- The number a decimal digit stands for. -/
def digitValue (byte : UInt8) : Nat :=
  byte.toNat - 0x30

/-- The number a hexadecimal digit of either case stands for. -/
def hexValue? (byte : UInt8) : Option Nat :=
  if isDigit byte then some (byte.toNat - 0x30)
  else if 0x61 ≤ byte && byte ≤ 0x66 then some (byte.toNat - 0x57)
  else if 0x41 ≤ byte && byte ≤ 0x46 then some (byte.toNat - 0x37)
  else none

/-- Whether a byte may follow a number or a bare word at the top level: a blank, or a byte that
could begin or end something else. -/
def endsBareValue (byte : UInt8) : Bool :=
  isBlank byte || byte == 0x22 || byte == 0x5b || byte == 0x5d || byte == 0x7b || byte == 0x7d
    || byte == 0x2c || byte == 0x3a

/-! ## Numbers -/

namespace Numeral

/-- Which part of a number was read last. -/
inductive Phase where
  /-- A minus sign. -/
  | minus
  /-- A leading zero, which no digit may follow. -/
  | zero
  /-- Digits before the point. -/
  | whole
  /-- Digits before the point that no longer fit and only count as places. -/
  | places
  /-- The point. -/
  | point
  /-- Digits behind the point. -/
  | fraction
  /-- Digits behind the point that no longer fit and are dropped. -/
  | surplus
  /-- The exponent mark. -/
  | mark
  /-- The sign of the exponent. -/
  | markSign
  /-- Digits of the exponent. -/
  | exponent
  /-- Digits of an exponent so large that the number is zero whatever follows. -/
  | vanished
  deriving DecidableEq, Repr

end Numeral

/-- A number that is being read: its bytes so far, the last first, and its size as far as it is
known.  Significands are held below 2^64 and further digits only shift the scale. -/
structure Numeral where
  reversed : List UInt8
  phase : Numeral.Phase
  significand : Nat
  scale : Int
  exponent : Nat
  exponentIsNegative : Bool

namespace Numeral

/-- The largest significand. -/
def significandLimit : Nat := UInt64.size - 1

/-- The largest exponent. -/
def exponentLimit : Nat := 2147483647

/-- The number that begins with a minus sign or a digit. -/
def start (byte : UInt8) : Numeral where
  reversed := [byte]
  phase := if byte == 0x2d then .minus else if byte == 0x30 then .zero else .whole
  significand := if byte == 0x2d then 0 else digitValue byte
  scale := 0
  exponent := 0
  exponentIsNegative := false

/-- Whether the number may end here. -/
def isComplete (numeral : Numeral) : Bool :=
  match numeral.phase with
  | .minus | .point | .mark | .markSign => false
  | _ => true

/-- Whether the number is within the range of 64-bit floating-point numbers. -/
def isFinite (numeral : Numeral) : Bool :=
  if numeral.phase == .vanished then true
  else
    let exponent : Int :=
      if numeral.exponentIsNegative then -(numeral.exponent : Int) else numeral.exponent
    Number.scaledIsFinite numeral.significand (numeral.scale + exponent)

/-- The number as it was written. -/
def toJson (numeral : Numeral) : Json :=
  .number (String.ofList (numeral.reversed.reverse.map fun byte => Char.ofNat byte.toNat))

/-- What a byte does to a number. -/
inductive Next where
  /-- The number goes on. -/
  | more (numeral : Numeral)
  /-- The number ended before the byte. -/
  | ended
  /-- The byte cannot stand there. -/
  | refused

/-- Takes one more digit before the point. -/
def wholeDigit (numeral : Numeral) (byte : UInt8) : Numeral :=
  let grown := numeral.significand * 10 + digitValue byte
  if grown > significandLimit then
    { numeral with reversed := byte :: numeral.reversed, phase := .places,
                   scale := numeral.scale + 1 }
  else { numeral with reversed := byte :: numeral.reversed, significand := grown }

/-- Takes one more digit behind the point. -/
def fractionDigit (numeral : Numeral) (byte : UInt8) : Numeral :=
  let grown := numeral.significand * 10 + digitValue byte
  if grown > significandLimit then
    { numeral with reversed := byte :: numeral.reversed, phase := .surplus }
  else
    { numeral with reversed := byte :: numeral.reversed, phase := .fraction,
                   significand := grown, scale := numeral.scale - 1 }

/-- Takes one more digit of the exponent.  An exponent past the limit decides the number's size at
once: too large if it is positive and the number is not zero, and zero otherwise. -/
def exponentDigit (numeral : Numeral) (byte : UInt8) : Next :=
  let grown := numeral.exponent * 10 + digitValue byte
  let taken := { numeral with reversed := byte :: numeral.reversed }
  if grown > exponentLimit then
    if numeral.significand != 0 && !numeral.exponentIsNegative then .refused
    else .more { taken with phase := .vanished }
  else .more { taken with phase := .exponent, exponent := grown }

/-- Takes the byte after a finished part: a point, an exponent mark, or the end. -/
def afterDigits (numeral : Numeral) (pointAllowed : Bool) (byte : UInt8) : Next :=
  if byte == 0x2e && pointAllowed then
    .more { numeral with reversed := byte :: numeral.reversed, phase := .point }
  else if byte == 0x65 || byte == 0x45 then
    .more { numeral with reversed := byte :: numeral.reversed, phase := .mark }
  else .ended

/-- What the next byte does to a number. -/
def take (numeral : Numeral) (byte : UInt8) : Next :=
  let digit := isDigit byte
  let taken := { numeral with reversed := byte :: numeral.reversed }
  match numeral.phase with
  | .minus =>
      if byte == 0x30 then .more { taken with phase := .zero }
      else if digit then .more { taken with phase := .whole, significand := digitValue byte }
      else .refused
  | .zero => if digit then .refused else numeral.afterDigits true byte
  | .whole => if digit then .more (numeral.wholeDigit byte) else numeral.afterDigits true byte
  | .places =>
      if digit then .more { taken with scale := numeral.scale + 1 }
      else numeral.afterDigits true byte
  | .point => if digit then .more (numeral.fractionDigit byte) else .refused
  | .fraction =>
      if digit then .more (numeral.fractionDigit byte) else numeral.afterDigits false byte
  | .surplus => if digit then .more taken else numeral.afterDigits false byte
  | .mark =>
      if byte == 0x2b then .more { taken with phase := .markSign }
      else if byte == 0x2d then
        .more { taken with phase := .markSign, exponentIsNegative := true }
      else if digit then numeral.exponentDigit byte
      else .refused
  | .markSign => if digit then numeral.exponentDigit byte else .refused
  | .exponent => if digit then numeral.exponentDigit byte else .ended
  | .vanished => if digit then .more taken else .ended

end Numeral

/-! ## Strings -/

/-- Whether a string is a key or a value. -/
inductive Purpose where
  | key
  | value
  deriving DecidableEq, Repr

/-- Where in a string the reader stands. -/
inductive TextStage where
  /-- Between characters. -/
  | plain
  /-- After a backslash. -/
  | escape
  /-- Inside the four digits of an escape: how many are still to come, the value so far unless a
  digit was wrong, and the leading surrogate this escape must complete. -/
  | digits (left : Nat) (value : Option Nat) (leading : Option Nat)
  /-- After a leading surrogate, where a backslash must follow. -/
  | trailingMark (leading : Nat)
  /-- After a leading surrogate and a backslash, where the letter u must follow. -/
  | trailingLetter (leading : Nat)
  deriving DecidableEq, Repr

/-- A string that is being read. -/
structure TextDraft where
  /-- The bytes of the string so far, the last first. -/
  content : List UInt8
  /-- The bytes that wrote it, the last first. -/
  written : List UInt8

namespace TextDraft

/-- The string before its first byte. -/
def empty : TextDraft := ⟨[], []⟩

/-- Takes a byte that stands for itself. -/
def takePlain (draft : TextDraft) (byte : UInt8) : TextDraft :=
  ⟨byte :: draft.content, byte :: draft.written⟩

/-- Takes a byte that is part of an escape. -/
def takeEscape (draft : TextDraft) (byte : UInt8) : TextDraft :=
  { draft with written := byte :: draft.written }

/-- Adds a character that an escape stands for. -/
def addCodePoint (draft : TextDraft) (codePoint : Nat) : TextDraft :=
  { draft with
    content := (String.utf8EncodeChar (Char.ofNat codePoint)).reverse ++ draft.content }

/-- How many written bytes follow the last one before which all bytes make up characters. -/
def unreadable (draft : TextDraft) : Nat :=
  draft.written.length - Text.validLength draft.written.reverse

end TextDraft

/-- The byte that a one-letter escape stands for. -/
def shortEscape? (byte : UInt8) : Option UInt8 :=
  if byte == 0x22 then some 0x22
  else if byte == 0x5c then some 0x5c
  else if byte == 0x2f then some 0x2f
  else if byte == 0x62 then some 0x08
  else if byte == 0x66 then some 0x0c
  else if byte == 0x6e then some 0x0a
  else if byte == 0x72 then some 0x0d
  else if byte == 0x74 then some 0x09
  else none

/-- The code point of a pair of surrogates. -/
def pairCodePoint (leading trailing : Nat) : Nat :=
  (leading - 0xd800) * 0x400 + (trailing - 0xdc00) + 0x10000

/-! ## Reader -/

/-- A container that is still open. -/
inductive Frame where
  /-- An array, with its elements so far, the last first. -/
  | array (reversed : List Json)
  /-- An object, with its members so far, the last first, and the key read last. -/
  | object (reversed : List (String × Json)) (key : String)

/-- What may come next. -/
inductive Mode where
  /-- A value must follow. -/
  | value
  /-- The first element of an array, or its end. -/
  | firstElement
  /-- The first key of an object, or its end. -/
  | firstKey
  /-- A key must follow. -/
  | key
  /-- The colon behind a key. -/
  | colon
  /-- A comma, or the end of the innermost container. -/
  | afterValue
  /-- More of a string. -/
  | text (purpose : Purpose) (stage : TextStage) (draft : TextDraft)
  /-- The rest of a bare word, which stands for the value. -/
  | word (rest : List UInt8) (value : Json)
  /-- More of a number. -/
  | number (numeral : Numeral)
  /-- Nothing: the text's value is complete.  The flag says whether a further byte is known to
  be no part of it. -/
  | finished (value : Json) (isDelimited : Bool)

/-- The state of the reader. -/
structure Reader where
  stack : List Frame
  mode : Mode

/-- Why a byte is refused. -/
inductive Refusal where
  /-- The byte cannot stand here. -/
  | byte
  /-- The number before the byte is too large. -/
  | numberBefore
  /-- A byte before this one, by this many bytes, belongs to no character. -/
  | characterBefore (distance : Nat)
  /-- The byte belongs to a second value. -/
  | secondValue
  deriving DecidableEq, Repr

/-- How many containers may be open at once. -/
def depthLimit : Nat := 127

namespace Reader

/-- The reader before the first byte. -/
def start : Reader := ⟨[], .value⟩

/-- The reader after a value is complete. -/
def accept (stack : List Frame) (value : Json) (isDelimited : Bool) : Reader :=
  match stack with
  | [] => ⟨[], .finished value isDelimited⟩
  | .array reversed :: outer => ⟨.array (value :: reversed) :: outer, .afterValue⟩
  | .object reversed key :: outer => ⟨.object ((key, value) :: reversed) key :: outer, .afterValue⟩

/-- Opens a container, if one more may be open. -/
def openFrame (stack : List Frame) (frame : Frame) (mode : Mode) : Except Refusal Reader :=
  if stack.length < depthLimit then .ok ⟨frame :: stack, mode⟩ else .error .byte

/-- Takes a byte where a value must begin. -/
def beginValue (stack : List Frame) (mode : Mode) (byte : UInt8) : Except Refusal Reader :=
  if isBlank byte then .ok ⟨stack, mode⟩
  else if byte == 0x22 then .ok ⟨stack, .text .value .plain .empty⟩
  else if byte == 0x5b then openFrame stack (.array []) .firstElement
  else if byte == 0x7b then openFrame stack (.object [] "") .firstKey
  else if byte == 0x6e then .ok ⟨stack, .word [0x75, 0x6c, 0x6c] .null⟩
  else if byte == 0x74 then .ok ⟨stack, .word [0x72, 0x75, 0x65] (.boolean true)⟩
  else if byte == 0x66 then .ok ⟨stack, .word [0x61, 0x6c, 0x73, 0x65] (.boolean false)⟩
  else if byte == 0x2d || isDigit byte then .ok ⟨stack, .number (.start byte)⟩
  else .error .byte

/-- Takes a byte where a key must begin. -/
def beginKey (stack : List Frame) (mode : Mode) (byte : UInt8) : Except Refusal Reader :=
  if isBlank byte then .ok ⟨stack, mode⟩
  else if byte == 0x22 then .ok ⟨stack, .text .key .plain .empty⟩
  else .error .byte

/-- Takes a byte after a value inside a container. -/
def continueContainer (stack : List Frame) (byte : UInt8) : Except Refusal Reader :=
  if isBlank byte then .ok ⟨stack, .afterValue⟩
  else
    match stack with
    | .array reversed :: outer =>
        if byte == 0x2c then .ok ⟨stack, .value⟩
        else if byte == 0x5d then .ok (accept outer (.array reversed.reverse) true)
        else .error .byte
    | .object reversed _ :: outer =>
        if byte == 0x2c then .ok ⟨stack, .key⟩
        else if byte == 0x7d then .ok (accept outer (.object reversed.reverse) true)
        else .error .byte
    | [] => .error .byte

/-- Takes a byte behind the complete value. -/
def continueFinished (value : Json) (isDelimited : Bool) (byte : UInt8) :
    Except Refusal Reader :=
  if isBlank byte then .ok ⟨[], .finished value true⟩
  else if isDelimited || endsBareValue byte then .error .secondValue
  else .error .byte

/-- The reader after the closing quote of a string, whose bytes must be those of a text. -/
def endText (stack : List Frame) (purpose : Purpose) (draft : TextDraft) :
    Except Refusal Reader :=
  match Text.ofBytes? draft.content.reverse, purpose with
  | none, _ => .error (.characterBefore draft.unreadable)
  | some text, .value => .ok (accept stack (.string text) true)
  | some text, .key =>
      match stack with
      | .object members _ :: outer => .ok ⟨.object members text :: outer, .colon⟩
      | _ => .error .byte

/-- The reader after the last digit of an escape. -/
def endEscape (stack : List Frame) (purpose : Purpose) (draft : TextDraft)
    (value : Option Nat) (leading : Option Nat) : Except Refusal Reader :=
  match value, leading with
  | none, _ => .error .byte
  | some unit, none =>
      if 0xdc00 ≤ unit && unit ≤ 0xdfff then .error .byte
      else if 0xd800 ≤ unit && unit ≤ 0xdbff then
        .ok ⟨stack, .text purpose (.trailingMark unit) draft⟩
      else .ok ⟨stack, .text purpose .plain (draft.addCodePoint unit)⟩
  | some unit, some first =>
      if 0xdc00 ≤ unit && unit ≤ 0xdfff then
        .ok ⟨stack, .text purpose .plain (draft.addCodePoint (pairCodePoint first unit))⟩
      else .error .byte

/-- Takes a byte inside a string. -/
def continueText (stack : List Frame) (purpose : Purpose) (stage : TextStage)
    (draft : TextDraft) (byte : UInt8) : Except Refusal Reader :=
  let taken := draft.takeEscape byte
  match stage with
  | .plain =>
      if byte == 0x22 then endText stack purpose draft
      else if byte == 0x5c then .ok ⟨stack, .text purpose .escape taken⟩
      else if byte < 0x20 then .error .byte
      else .ok ⟨stack, .text purpose .plain (draft.takePlain byte)⟩
  | .escape =>
      if byte == 0x75 then .ok ⟨stack, .text purpose (.digits 4 (some 0) none) taken⟩
      else
        match shortEscape? byte with
        | some meaning => .ok ⟨stack, .text purpose .plain (taken.addCodePoint meaning.toNat)⟩
        | none => .error .byte
  | .digits left value leading =>
      let grown := do return (← value) * 16 + (← hexValue? byte)
      if left ≤ 1 then endEscape stack purpose taken grown leading
      else .ok ⟨stack, .text purpose (.digits (left - 1) grown leading) taken⟩
  | .trailingMark leading =>
      if byte == 0x5c then .ok ⟨stack, .text purpose (.trailingLetter leading) taken⟩
      else .error .byte
  | .trailingLetter leading =>
      if byte == 0x75 then
        .ok ⟨stack, .text purpose (.digits 4 (some 0) (some leading)) taken⟩
      else .error .byte

/-- Takes a byte inside a bare word. -/
def continueWord (stack : List Frame) (rest : List UInt8) (value : Json) (byte : UInt8) :
    Except Refusal Reader :=
  match rest with
  | [] => .error .byte
  | expected :: rest =>
      if byte == expected then
        if rest.isEmpty then .ok (accept stack value false) else .ok ⟨stack, .word rest value⟩
      else .error .byte

/-- Takes a byte behind a number that ended before it. -/
def continueAccepted (reader : Reader) (byte : UInt8) : Except Refusal Reader :=
  match reader.mode with
  | .finished value isDelimited => continueFinished value isDelimited byte
  | _ => continueContainer reader.stack byte

/-- Takes a byte inside a number or just behind it. -/
def continueNumber (stack : List Frame) (numeral : Numeral) (byte : UInt8) :
    Except Refusal Reader :=
  match numeral.take byte with
  | .more numeral => .ok ⟨stack, .number numeral⟩
  | .refused => .error .byte
  | .ended =>
      if numeral.isFinite then continueAccepted (accept stack numeral.toJson false) byte
      else .error .numberBefore

/-- Takes one byte. -/
def step (reader : Reader) (byte : UInt8) : Except Refusal Reader :=
  let stack := reader.stack
  match reader.mode with
  | .value => beginValue stack .value byte
  | .firstElement =>
      match stack with
      | .array reversed :: outer =>
          if byte == 0x5d then .ok (accept outer (.array reversed.reverse) true)
          else beginValue stack .firstElement byte
      | _ => .error .byte
  | .firstKey =>
      match stack with
      | .object reversed _ :: outer =>
          if byte == 0x7d then .ok (accept outer (.object reversed.reverse) true)
          else beginKey stack .firstKey byte
      | _ => .error .byte
  | .key => beginKey stack .key byte
  | .colon =>
      if isBlank byte then .ok reader
      else if byte == 0x3a then .ok ⟨stack, .value⟩
      else .error .byte
  | .afterValue => continueContainer stack byte
  | .text purpose stage draft => continueText stack purpose stage draft byte
  | .word rest value => continueWord stack rest value byte
  | .number numeral => continueNumber stack numeral byte
  | .finished value isDelimited => continueFinished value isDelimited byte

end Reader

/-! ## Whole texts -/

/-- Why a text is refused. -/
inductive ReadFault where
  /-- The text holds nothing but blanks. -/
  | empty
  /-- The text ends inside its value. -/
  | unfinished
  /-- The text cannot be read past this many bytes. -/
  | malformed (position : Nat)
  /-- A second value follows the first. -/
  | severalValues
  deriving DecidableEq, Repr

/-- Feeds bytes to the reader, `taken` bytes having been taken before. -/
def Reader.run : Nat → Reader → List UInt8 → Except ReadFault Reader
  | _, reader, [] => .ok reader
  | taken, reader, byte :: rest =>
      match reader.step byte with
      | .ok next => Reader.run (taken + 1) next rest
      | .error .byte => .error (.malformed (taken + 1))
      | .error .numberBefore => .error (.malformed taken)
      | .error (.characterBefore distance) => .error (.malformed (taken + 1 - distance))
      | .error .secondValue => .error .severalValues

/-- The value of a text that ends here after `taken` bytes. -/
def Reader.finish (taken : Nat) (reader : Reader) : Except ReadFault Json :=
  match reader.mode with
  | .finished value _ => .ok value
  | .value => if reader.stack.isEmpty then .error .empty else .error .unfinished
  | .number numeral =>
      if !numeral.isComplete then .error .unfinished
      else if !numeral.isFinite then .error (.malformed taken)
      else if reader.stack.isEmpty then .ok numeral.toJson
      else .error .unfinished
  | _ => .error .unfinished

/-- The value of a text, given by its bytes. -/
def read (source : List UInt8) : Except ReadFault Json :=
  match Reader.run 0 Reader.start source with
  | .error fault => .error fault
  | .ok reader => reader.finish source.length

/-- Reading a concatenation is reading its parts in turn. -/
theorem Reader.run_append (taken : Nat) (reader : Reader) (front back : List UInt8) :
    Reader.run taken reader (front ++ back) =
      match Reader.run taken reader front with
      | .error fault => .error fault
      | .ok next => Reader.run (taken + front.length) next back := by
  induction front generalizing taken reader with
  | nil => simp [Reader.run]
  | cons byte rest ih =>
      simp only [List.cons_append, Reader.run]
      cases reader.step byte with
      | error refusal => cases refusal <;> rfl
      | ok next =>
          simp only [ih]
          rw [List.length_cons, Nat.add_assoc taken 1, Nat.add_comm 1]

end Gatehouse.Json
