import Gatehouse.Proofs.Json.Numbers
import Gatehouse.Proofs.Json.Strings

/-!
# Reading values

The reader takes every text of a value for that value, as long as the value is within its limits.
The proof is by induction on the rules by which the text is written.  What it carries is, for each
part of a text, where the part leads the reader to from any state in which it may begin
(`IsRead`): a value ends with the value in hand, and the elements of an array or the members
of an object end, at the closing bracket, with the whole container.

The main statement is `read_text`.
-/

namespace Gatehouse.Json

set_option autoImplicit false

open Reader

/-! ## What reading a part comes to -/

/-- Whether a value is read wherever one may begin, up to some number of containers. -/
def IsReadAs (value : Json) (bytes : List UInt8) : Prop :=
  ∀ depth reader, IsWithin depth value → AwaitsValue reader →
    reader.stack.length + depth ≤ depthLimit →
      ∃ last, Reads reader bytes last ∧ last.Holds reader.stack value

/-- What reading a part of a text comes to. -/
def IsRead : Part → List UInt8 → Prop
  | .value value, bytes => IsReadAs value bytes
  | .element value, bytes => IsReadAs value bytes
  | .elements values, bytes =>
      ∀ depth reader reversed outer, (∀ value ∈ values, IsWithin depth value) →
        AwaitsValue reader → reader.stack = .array reversed :: outer →
        reader.stack.length + depth ≤ depthLimit →
          Reads reader (bytes ++ [0x5d])
            (accept outer (.array (reversed.reverse ++ values)) true)
  | .member member, bytes =>
      ∀ depth reader reversed outer, IsWithin depth member.2 →
        AwaitsKey reversed outer reader → outer.length + 1 + depth ≤ depthLimit →
          ∃ last, Reads reader bytes last ∧
            last.Holds (.object reversed member.1 :: outer) member.2
  | .members members, bytes =>
      ∀ depth reader reversed outer, (∀ member ∈ members, IsWithin depth member.2) →
        AwaitsKey reversed outer reader → outer.length + 1 + depth ≤ depthLimit →
          Reads reader (bytes ++ [0x7d])
            (accept outer (.object (reversed.reverse ++ members)) true)

/-- What makes a number small enough. -/
theorem IsWithin.number_cases {depth : Nat} {literal : String}
    (isWithin : IsWithin depth (.number literal)) :
    ∃ number : NumberText, number.literal = literal ∧ number.IsInRange := by
  cases isWithin with
  | number _ number isInRange => exact ⟨number, rfl, isInRange⟩

/-! ## Bare words -/

/-- The rest of a bare word, which stands for a value, is read to its end. -/
theorem reads_word (stack : List Frame) (value : Json) (byte : UInt8) (rest : List UInt8) :
    Reads ⟨stack, .word (byte :: rest) value⟩ (byte :: rest) (accept stack value false) := by
  induction rest generalizing byte with
  | nil => exact .one (by simp [step, continueWord])
  | cons next rest ih => exact .cons (by simp [step, continueWord]) (ih next)

/-- A bare word is read where a value may begin. -/
theorem isReadAs_word {value : Json} (isWord : value = .null ∨ ∃ b, value = .boolean b)
    {first byte : UInt8} {rest : List UInt8} (notEnd : first ≠ 0x5d)
    (begins : ∀ stack mode,
      beginValue stack mode first = .ok ⟨stack, .word (byte :: rest) value⟩) :
    IsReadAs value (first :: byte :: rest) := by
  intro depth reader isWithin awaits fits
  refine ⟨_, .cons ?_ (reads_word reader.stack value byte rest), .word isWord⟩
  rw [awaits.step_eq notEnd, begins]

/-! ## Containers -/

/-- A container opens where a value may begin, as long as one more may be open. -/
theorem step_open {reader : Reader} (awaits : reader.AwaitsValue)
    (fits : reader.stack.length < depthLimit) :
    reader.step 0x5b = .ok ⟨.array [] :: reader.stack, .firstElement⟩ ∧
      reader.step 0x7b = .ok ⟨.object [] "" :: reader.stack, .firstKey⟩ := by
  constructor
  · rw [awaits.step_eq (by decide)]
    simp [beginValue, isBlank, openFrame, fits]
  · rw [awaits.step_eq (by decide)]
    simp [beginValue, isBlank, openFrame, fits]

theorem isReadAs_emptyArray {blank : List UInt8} (isBlank : Blank blank) :
    IsReadAs (.array []) (0x5b :: blank ++ [0x5d]) := by
  intro depth reader isWithin awaits fits
  cases isWithin with
  | array =>
      have opened := (step_open awaits (by omega)).1
      have blanks := (AwaitsValue.first [] reader.stack).reads_blank isBlank
      exact ⟨_, .cons opened (blanks.append (.one rfl)), .delimited reader.stack (.array [])⟩

theorem isReadAs_emptyObject {blank : List UInt8} (isBlank : Blank blank) :
    IsReadAs (.object []) (0x7b :: blank ++ [0x7d]) := by
  intro depth reader isWithin awaits fits
  cases isWithin with
  | object =>
      have opened := (step_open awaits (by omega)).2
      have awaits' : AwaitsKey [] reader.stack ⟨.object [] "" :: reader.stack, .firstKey⟩ := .first ""
      have blanks := awaits'.reads_blank isBlank
      exact ⟨_, .cons opened (blanks.append (.one rfl)), .delimited reader.stack (.object [])⟩

theorem isReadAs_array {values : List Json} {inner : List UInt8}
    (areRead : IsRead (.elements values) inner) :
    IsReadAs (.array values) (0x5b :: inner ++ [0x5d]) := by
  intro depth reader isWithin awaits fits
  cases isWithin with
  | array elementsWithin =>
      have opened := (step_open awaits (by omega)).1
      have elements := areRead _ _ [] reader.stack elementsWithin
        (AwaitsValue.first [] reader.stack) rfl (by simp only [List.length_cons]; omega)
      exact ⟨_, .cons opened elements, .delimited reader.stack (.array values)⟩

theorem isReadAs_object {members : List (String × Json)} {inner : List UInt8}
    (areRead : IsRead (.members members) inner) :
    IsReadAs (.object members) (0x7b :: inner ++ [0x7d]) := by
  intro depth reader isWithin awaits fits
  cases isWithin with
  | object membersWithin =>
      have opened := (step_open awaits (by omega)).2
      have read := areRead _ _ [] reader.stack membersWithin (AwaitsKey.first "") (by omega)
      exact ⟨_, .cons opened read, .delimited reader.stack (.object members)⟩

theorem isReadAs_element {value : Json} {before bytes after : List UInt8} (isBefore : Blank before)
    (isRead : IsReadAs value bytes) (isAfter : Blank after) :
    IsReadAs value (before ++ bytes ++ after) := by
  intro depth reader isWithin awaits fits
  obtain ⟨middle, run, holds⟩ := isRead depth reader isWithin awaits fits
  obtain ⟨last, blanks, holds'⟩ := holds.reads_blank isAfter
  exact ⟨last, ((awaits.reads_blank isBefore).append run).append blanks, holds'⟩

/-! ## Elements -/

theorem isRead_lastElement {value : Json} {bytes : List UInt8} (isRead : IsReadAs value bytes) :
    IsRead (.elements [value]) bytes := by
  intro depth reader reversed outer within awaits isStack fits
  obtain ⟨last, run, holds⟩ := isRead depth reader (within value (.head _)) awaits fits
  rw [isStack] at holds
  refine run.append (.one ?_)
  rw [holds.step_eq (List.cons_ne_nil _ _) (.inr (.inr (.inl rfl)))]
  simp [accept, continueContainer, isBlank]

theorem isRead_moreElements {value : Json} {values : List Json} {bytes rest : List UInt8}
    (isRead : IsReadAs value bytes) (areRead : IsRead (.elements values) rest) :
    IsRead (.elements (value :: values)) (bytes ++ 0x2c :: rest) := by
  intro depth reader reversed outer within awaits isStack fits
  obtain ⟨first, others⟩ := List.forall_mem_cons.1 within
  obtain ⟨last, run, holds⟩ := isRead depth reader first awaits fits
  rw [isStack] at holds fits
  have comma : last.step 0x2c = .ok ⟨.array (value :: reversed) :: outer, .value⟩ := by
    rw [holds.step_eq (List.cons_ne_nil _ _) (.inr (.inl rfl))]
    simp [accept, continueContainer, isBlank]
  have later := areRead depth ⟨.array (value :: reversed) :: outer, .value⟩ (value :: reversed) outer
    others (.next _) rfl fits
  rw [List.append_assoc, List.cons_append]
  simpa using run.append (.cons comma later)

/-! ## Members -/

theorem isRead_member {key : String} {value : Json} {before name after bytes : List UInt8}
    (isBefore : Blank before) (isName : WritesString key name) (isAfter : Blank after)
    (isRead : IsReadAs value bytes) :
    IsRead (.member (key, value)) (before ++ name ++ after ++ 0x3a :: bytes) := by
  intro depth reader reversed outer within awaits fits
  let named : List Frame := .object reversed key :: outer
  have front : Reads reader (before ++ name ++ after) ⟨named, .colon⟩ :=
    ((awaits.reads_blank isBefore).append (reads_key awaits isName)).append
      (reads_blank_colon named isAfter)
  have colon : step ⟨named, .colon⟩ 0x3a = .ok ⟨named, .value⟩ := rfl
  obtain ⟨last, run, holds⟩ := isRead depth ⟨named, .value⟩ within (.next named)
    (by simpa [named] using fits)
  exact ⟨last, front.append (.cons colon run), holds⟩

theorem isRead_lastMember {member : String × Json} {bytes : List UInt8}
    (isRead : IsRead (.member member) bytes) : IsRead (.members [member]) bytes := by
  intro depth reader reversed outer within awaits fits
  obtain ⟨last, run, holds⟩ :=
    isRead depth reader reversed outer (within member (.head _)) awaits fits
  refine run.append (.one ?_)
  rw [holds.step_eq (List.cons_ne_nil _ _) (.inr (.inr (.inr rfl)))]
  simp [accept, continueContainer, isBlank]

theorem isRead_moreMembers {member : String × Json} {members : List (String × Json)}
    {bytes rest : List UInt8} (isRead : IsRead (.member member) bytes)
    (areRead : IsRead (.members members) rest) :
    IsRead (.members (member :: members)) (bytes ++ 0x2c :: rest) := by
  intro depth reader reversed outer within awaits fits
  obtain ⟨first, others⟩ := List.forall_mem_cons.1 within
  obtain ⟨last, run, holds⟩ := isRead depth reader reversed outer first awaits fits
  have comma : last.step 0x2c = .ok ⟨.object (member :: reversed) member.1 :: outer, .key⟩ := by
    rw [holds.step_eq (List.cons_ne_nil _ _) (.inr (.inl rfl))]
    simp [accept, continueContainer, isBlank]
  have later := areRead depth ⟨.object (member :: reversed) member.1 :: outer, .key⟩
    (member :: reversed) outer others (.next member.1) fits
  rw [List.append_assoc, List.cons_append]
  simpa using run.append (.cons comma later)

/-! ## Texts -/

/-- Every part of a text is read. -/
theorem isRead_of_writes {part : Part} {bytes : List UInt8} (isWritten : Writes part bytes) :
    IsRead part bytes := by
  induction isWritten with
  | nullWord => exact isReadAs_word (.inl rfl) (by decide) fun _ _ => rfl
  | trueWord => exact isReadAs_word (.inr ⟨true, rfl⟩) (by decide) fun _ _ => rfl
  | falseWord => exact isReadAs_word (.inr ⟨false, rfl⟩) (by decide) fun _ _ => rfl
  | number number =>
      intro depth reader isWithin awaits fits
      obtain ⟨other, isLiteral, isInRange⟩ := isWithin.number_cases
      have same : other.bytes = number.bytes := by
        rw [← other.bytes_literal, ← number.bytes_literal, isLiteral]
      rw [← same, ← isLiteral]
      exact reads_number awaits other isInRange
  | string isWritten =>
      intro depth reader isWithin awaits fits
      exact ⟨_, reads_string awaits isWritten, .delimited _ _⟩
  | emptyArray isBlank => exact isReadAs_emptyArray isBlank
  | array _ areRead => exact isReadAs_array areRead
  | emptyObject isBlank => exact isReadAs_emptyObject isBlank
  | object _ areRead => exact isReadAs_object areRead
  | element isBefore _ isAfter isRead => exact isReadAs_element isBefore isRead isAfter
  | lastElement _ isRead => exact isRead_lastElement isRead
  | moreElements _ _ isRead areRead => exact isRead_moreElements isRead areRead
  | member isBefore isName isAfter _ isRead => exact isRead_member isBefore isName isAfter isRead
  | lastMember _ isRead => exact isRead_lastMember isRead
  | moreMembers _ _ isRead areRead => exact isRead_moreMembers isRead areRead

/-- A text within the limits leaves its value in hand. -/
theorem reads_text_of_isWithin {value : Json} {source before : List UInt8}
    (isText : IsText value source) (isWithin : IsWithin depthLimit value) (isBefore : Blank before) :
    ∃ last, Reads Reader.start (before ++ source) last ∧ last.Holds [] value := by
  have awaits : AwaitsValue Reader.start := .next []
  obtain ⟨last, run, holds⟩ :=
    isRead_of_writes isText depthLimit Reader.start isWithin awaits (Nat.le_refl _)
  exact ⟨last, (awaits.reads_blank isBefore).append run, holds⟩

/-- **The reader takes every text of a value within its limits for that value**, whatever blanks
stand before it and behind it. -/
theorem read_text {value : Json} {source before after : List UInt8} (isText : IsText value source)
    (isWithin : IsWithin depthLimit value) (isBefore : Blank before) (isAfter : Blank after) :
    read (before ++ source ++ after) = .ok value := by
  obtain ⟨middle, run, holds⟩ := reads_text_of_isWithin isText isWithin isBefore
  obtain ⟨last, blanks, holds'⟩ := holds.reads_blank isAfter
  rw [(run.append blanks).read_eq, holds'.finish_eq]

end Gatehouse.Json
