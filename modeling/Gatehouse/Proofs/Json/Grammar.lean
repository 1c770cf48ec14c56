import Gatehouse.Json.Reader

/-!
# The texts of a JSON value

A value has many texts: blanks may stand between tokens, a character of a string may be written as
it is or by one of several escapes, and a number may be written in several ways.  `Json.IsText`
says which byte strings are texts of a value, rule by rule and without regard to a reader.

A number of the tree is the text that writes it, so that its texts are given by its parts
(`NumberText`): a sign, digits before the point, digits behind it, and an exponent.  Two limits
tell how large a value may be (`Json.IsWithin`): how many containers are open at once, and the size
of its numbers.  The size of a number is reckoned from as many of its leading digits as make a
number below 2^64; the digits that follow count as places only.
-/

namespace Gatehouse.Json

set_option autoImplicit false

/-- Whether bytes are blanks only. -/
def Blank (bytes : List UInt8) : Prop :=
  ∀ byte ∈ bytes, isBlank byte = true

theorem blank_nil : Blank [] :=
  fun _ absent => nomatch absent

theorem blank_singleton {byte : UInt8} (isBlank : isBlank byte = true) : Blank [byte] :=
  fun _ present => List.mem_singleton.1 present ▸ isBlank

/-- Whether bytes are decimal digits only. -/
def Digits (bytes : List UInt8) : Prop :=
  ∀ byte ∈ bytes, isDigit byte = true

/-! ## Strings -/

/-- The letters and symbols that stand for a character behind a backslash. -/
def shortEscapes : List (UInt8 × Char) :=
  [(0x22, '"'), (0x5c, '\\'), (0x2f, '/'), (0x62, '\x08'), (0x66, '\x0c'), (0x6e, '\n'),
    (0x72, '\r'), (0x74, '\t')]

/-- Whether bytes are four hexadecimal digits, of either case, that write a number. -/
def FourDigits (digits : List UInt8) (number : Nat) : Prop :=
  ∃ a b c d first second third fourth, digits = [a, b, c, d] ∧ hexValue? a = some first ∧
    hexValue? b = some second ∧ hexValue? c = some third ∧ hexValue? d = some fourth ∧
    number = ((first * 16 + second) * 16 + third) * 16 + fourth

/-- How a character may be written inside a string. -/
inductive WritesChar : Char → List UInt8 → Prop
  /-- As it is, if it is neither a quote nor a backslash nor below the space. -/
  | plain {c : Char} (notQuote : c ≠ '"') (notBackslash : c ≠ '\\') (isVisible : 32 ≤ c.toNat) :
      WritesChar c (String.utf8EncodeChar c)
  /-- By a backslash and a letter or a symbol. -/
  | short {letter : UInt8} {c : Char} (isShort : (letter, c) ∈ shortEscapes) :
      WritesChar c [0x5c, letter]
  /-- By its number. -/
  | unit {c : Char} {digits : List UInt8} (isNumber : FourDigits digits c.toNat) :
      WritesChar c (0x5c :: 0x75 :: digits)
  /-- By a leading and a trailing surrogate. -/
  | pair {c : Char} {digits digits' : List UInt8} {leading trailing : Nat}
      (isLeading : FourDigits digits leading) (isTrailing : FourDigits digits' trailing)
      (leadingRange : 0xd800 ≤ leading ∧ leading ≤ 0xdbff)
      (trailingRange : 0xdc00 ≤ trailing ∧ trailing ≤ 0xdfff)
      (isPair : c.toNat = 0x10000 + (leading - 0xd800) * 0x400 + (trailing - 0xdc00)) :
      WritesChar c (0x5c :: 0x75 :: digits ++ 0x5c :: 0x75 :: digits')

/-- How characters may be written inside a string, one after the other. -/
inductive WritesChars : List Char → List UInt8 → Prop
  | nil : WritesChars [] []
  | cons {c : Char} {cs : List Char} {bytes rest : List UInt8} (first : WritesChar c bytes)
      (others : WritesChars cs rest) : WritesChars (c :: cs) (bytes ++ rest)

/-- How a text may be written as a string. -/
def WritesString (text : String) (bytes : List UInt8) : Prop :=
  ∃ inner, WritesChars text.toList inner ∧ bytes = 0x22 :: inner ++ [0x22]

/-! ## Numbers -/

/-- The number that decimal digits write behind those of another number. -/
def appendDigits (number : Nat) (digits : List UInt8) : Nat :=
  digits.foldl (fun number digit => number * 10 + digitValue digit) number

/-- The exponent of a number as it is written. -/
structure ExponentText where
  mark : UInt8
  sign : List UInt8
  digits : List UInt8
  isMark : mark = 0x65 ∨ mark = 0x45
  isSign : sign = [] ∨ sign = [0x2b] ∨ sign = [0x2d]
  isDigits : Digits digits
  isWritten : digits ≠ []

namespace ExponentText

/-- The bytes of an exponent. -/
def bytes (exponent : ExponentText) : List UInt8 :=
  exponent.mark :: exponent.sign ++ exponent.digits

/-- Whether an exponent is negative. -/
def isNegative (exponent : ExponentText) : Bool :=
  exponent.sign == [0x2d]

/-- Whether a significand at some scale is small enough to be read with an exponent.  An exponent
above 2^31 - 1 is no number to reckon with: it leaves zero as it is and makes anything else too
large or too small. -/
def IsInRange (exponent : ExponentText) (significand : Nat) (scale : Int) : Prop :=
  let size := appendDigits 0 exponent.digits
  if size ≤ 2147483647 then
    Number.scaledIsFinite significand
      (scale + if exponent.isNegative then -(size : Int) else size) = true
  else significand = 0 ∨ exponent.isNegative = true

end ExponentText

/-- A number as it is written.  Without digits behind the point there is no point. -/
structure NumberText where
  isNegative : Bool
  whole : List UInt8
  fraction : List UInt8
  exponent : Option ExponentText
  isWhole : Digits whole
  isWritten : whole ≠ []
  /-- No other digit follows a leading zero. -/
  noLeadingZero : whole.head? = some 0x30 → whole = [0x30]
  isFraction : Digits fraction

namespace NumberText

/-- The point and the digits behind it. -/
def fractionBytes (number : NumberText) : List UInt8 :=
  if number.fraction = [] then [] else 0x2e :: number.fraction

/-- The bytes of the exponent, if there is one. -/
def exponentBytes (number : NumberText) : List UInt8 :=
  (number.exponent.map ExponentText.bytes).getD []

/-- The bytes of a number. -/
def bytes (number : NumberText) : List UInt8 :=
  (if number.isNegative then [0x2d] else []) ++ number.whole ++ number.fractionBytes
    ++ number.exponentBytes

/-- The text of a number. -/
def literal (number : NumberText) : String :=
  String.ofList (number.bytes.map fun byte => Char.ofNat byte.toNat)

/-- What the leading digits come to, read on from a number as long as the result stays below 2^64,
and how many digits are read. -/
def leading (number : Nat) : List UInt8 → Nat × Nat
  | [] => (number, 0)
  | digit :: digits =>
      let grown := number * 10 + digitValue digit
      if grown > UInt64.size - 1 then (number, 0)
      else ((leading grown digits).1, (leading grown digits).2 + 1)

/-- The leading digits of a number, read as one. -/
def significand (number : NumberText) : Nat :=
  (leading (leading 0 number.whole).1 number.fraction).1

/-- The power of ten that makes up for where the point stands among the leading digits. -/
def scale (number : NumberText) : Int :=
  (number.whole.length - (leading 0 number.whole).2 : Int)
    - (leading (leading 0 number.whole).1 number.fraction).2

/-- Whether a number is small enough to be read. -/
def IsInRange (number : NumberText) : Prop :=
  match number.exponent with
  | none => Number.scaledIsFinite number.significand number.scale = true
  | some exponent => exponent.IsInRange number.significand number.scale

end NumberText

/-! ## Values -/

/-- What a stretch of a text may stand for. -/
inductive Part where
  | value (value : Json)
  /-- A value with blanks on both sides. -/
  | element (value : Json)
  /-- The elements of an array that is not empty. -/
  | elements (values : List Json)
  /-- A key and its value. -/
  | member (member : String × Json)
  /-- The members of an object that is not empty. -/
  | members (members : List (String × Json))

/-- The rules by which a part of a text is written. -/
inductive Writes : Part → List UInt8 → Prop
  | nullWord : Writes (.value .null) [0x6e, 0x75, 0x6c, 0x6c]
  | trueWord : Writes (.value (.boolean true)) [0x74, 0x72, 0x75, 0x65]
  | falseWord : Writes (.value (.boolean false)) [0x66, 0x61, 0x6c, 0x73, 0x65]
  | number (number : NumberText) : Writes (.value (.number number.literal)) number.bytes
  | string {text : String} {bytes : List UInt8} (isWritten : WritesString text bytes) :
      Writes (.value (.string text)) bytes
  | emptyArray {blank : List UInt8} (isBlank : Blank blank) :
      Writes (.value (.array [])) (0x5b :: blank ++ [0x5d])
  | array {values : List Json} {inner : List UInt8} (isWritten : Writes (.elements values) inner) :
      Writes (.value (.array values)) (0x5b :: inner ++ [0x5d])
  | emptyObject {blank : List UInt8} (isBlank : Blank blank) :
      Writes (.value (.object [])) (0x7b :: blank ++ [0x7d])
  | object {members : List (String × Json)} {inner : List UInt8}
      (isWritten : Writes (.members members) inner) :
      Writes (.value (.object members)) (0x7b :: inner ++ [0x7d])
  | element {value : Json} {before bytes after : List UInt8} (isBefore : Blank before)
      (isWritten : Writes (.value value) bytes) (isAfter : Blank after) :
      Writes (.element value) (before ++ bytes ++ after)
  | lastElement {value : Json} {bytes : List UInt8} (isWritten : Writes (.element value) bytes) :
      Writes (.elements [value]) bytes
  | moreElements {value : Json} {values : List Json} {bytes rest : List UInt8}
      (isWritten : Writes (.element value) bytes) (isRest : Writes (.elements values) rest) :
      Writes (.elements (value :: values)) (bytes ++ 0x2c :: rest)
  | member {key : String} {value : Json} {before name after bytes : List UInt8}
      (isBefore : Blank before) (isName : WritesString key name) (isAfter : Blank after)
      (isWritten : Writes (.element value) bytes) :
      Writes (.member (key, value)) (before ++ name ++ after ++ 0x3a :: bytes)
  | lastMember {member : String × Json} {bytes : List UInt8}
      (isWritten : Writes (.member member) bytes) : Writes (.members [member]) bytes
  | moreMembers {member : String × Json} {members : List (String × Json)}
      {bytes rest : List UInt8} (isWritten : Writes (.member member) bytes)
      (isRest : Writes (.members members) rest) :
      Writes (.members (member :: members)) (bytes ++ 0x2c :: rest)

/-- Whether bytes are a text of a value, without blanks around it. -/
def IsText (value : Json) (bytes : List UInt8) : Prop :=
  Writes (.value value) bytes

/-- Whether no more than some number of containers are open at once in the texts of a value, and
its numbers are small enough. -/
inductive IsWithin : Nat → Json → Prop
  | null (depth : Nat) : IsWithin depth .null
  | boolean (depth : Nat) (value : Bool) : IsWithin depth (.boolean value)
  | number (depth : Nat) (number : NumberText) (isInRange : number.IsInRange) :
      IsWithin depth (.number number.literal)
  | string (depth : Nat) (text : String) : IsWithin depth (.string text)
  | array {depth : Nat} {elements : List Json}
      (elementsWithin : ∀ element ∈ elements, IsWithin depth element) :
      IsWithin (depth + 1) (.array elements)
  | object {depth : Nat} {members : List (String × Json)}
      (membersWithin : ∀ member ∈ members, IsWithin depth member.2) :
      IsWithin (depth + 1) (.object members)

end Gatehouse.Json
