import Mathlib.Data.List.Forall2
import Gatehouse.Net.SocketAddress
import Gatehouse.Proofs.Number.Numerals

/-!
# The texts of an IP address

`HostText` says which texts stand for an IP address before a port, rule by rule: four bytes in
decimal, or an IPv6 literal in brackets (`Literal`), behind which a scope may be named by a number
of 32 bits.  The literal is told by its pieces, which colons separate, and a double colon stands for
at least one group of zeros.

The reader cuts a text where separators are and reads what lies between.  As no piece holds a
separator and none is empty, these are the pieces of the rules (`splitOn_intercalate`,
`cutAtDoubleColon_pieces`), so that the reader follows the rules exactly
(`IpAddress.parse?_eq_some_iff`).  A text therefore stands for at most one address.
-/

namespace Gatehouse.Net

set_option autoImplicit false

open Number (Numeral)

/-! ## Rules -/

/-- Whether a text is a byte in decimal without zeros in front. -/
structure ByteText (cs : List Char) (byte : UInt8) : Prop where
  numeral : Numeral 10 cs byte.toNat
  noIdleZero : cs.head? = some '0' → cs = ['0']

/-- Whether a text is four bytes in decimal separated by dots. -/
inductive DottedText : List Char → Vector UInt8 4 → Prop
  | mk {parts : List (List Char)} {bytes : Vector UInt8 4}
      (areBytes : List.Forall₂ ByteText parts bytes.toList) :
      DottedText (['.'].intercalate parts) bytes

/-- Whether a text is a group of up to four hexadecimal digits. -/
structure GroupText (cs : List Char) (group : UInt16) : Prop where
  numeral : Numeral 16 cs group.toNat
  isShort : cs.length ≤ 4

/-- Whether texts are the pieces of an IPv6 literal, each a group; the last one may be a dotted
address that fills two groups. -/
inductive Pieces : List (List Char) → List UInt16 → Prop
  | nil : Pieces [] []
  | embedded {piece : List Char} {first second third fourth : UInt8} {high low : UInt16}
      (isDotted : DottedText piece #v[first, second, third, fourth])
      (isHigh : high.toNat = first.toNat * 256 + second.toNat)
      (isLow : low.toNat = third.toNat * 256 + fourth.toNat) : Pieces [piece] [high, low]
  | cons {piece : List Char} {pieces : List (List Char)} {group : UInt16} {groups : List UInt16}
      (isGroup : GroupText piece group) (others : Pieces pieces groups) :
      Pieces (piece :: pieces) (group :: groups)

/-- Whether a text is an IPv6 literal: eight groups, or fewer with a double colon for zeros. -/
inductive Literal : List Char → Vector UInt16 8 → Prop
  | full {pieces : List (List Char)} {groups : Vector UInt16 8}
      (arePieces : Pieces pieces groups.toList) : Literal ([':'].intercalate pieces) groups
  | compressed {before behind : List (List Char)} {front back : List UInt16} {zeros : Nat}
      {groups : Vector UInt16 8} (areGroups : List.Forall₂ GroupText before front)
      (arePieces : Pieces behind back) (notIdle : 0 < zeros)
      (fills : groups.toList = front ++ List.replicate zeros 0 ++ back) :
      Literal ([':'].intercalate before ++ ':' :: ':' :: [':'].intercalate behind) groups

/-- Whether a text stands for an IP address before a port. -/
inductive HostText : List Char → IpAddress → Prop
  | v4 {cs : List Char} {bytes : Vector UInt8 4} (isDotted : DottedText cs bytes) :
      HostText cs (.v4 bytes)
  | v6 {cs : List Char} {groups : Vector UInt16 8} (isLiteral : Literal cs groups) :
      HostText ('[' :: (cs ++ [']'])) (.v6 groups 0)
  | v6Scoped {cs digits : List Char} {groups : Vector UInt16 8} {scope : UInt32}
      (isLiteral : Literal cs groups) (isScope : Numeral 10 digits scope.toNat) :
      HostText ('[' :: (cs ++ '%' :: digits ++ [']'])) (.v6 groups scope)

/-! ## Parts of texts -/

section

variable {α : Type} {Stands : List Char → α → Prop} {parts : List (List Char)} {values : List α}

theorem exists_of_mem_forall₂ (standFor : List.Forall₂ Stands parts values) {part : List Char}
    (isPart : part ∈ parts) : ∃ value, Stands part value := by
  induction standFor with
  | nil => cases isPart
  | cons isFirst _ ih =>
      rcases List.mem_cons.1 isPart with rfl | isLater
      · exact ⟨_, isFirst⟩
      · exact ih isLater

theorem mem_intercalate {separator c : Char} (isThere : c ∈ [separator].intercalate parts) :
    c = separator ∨ ∃ part ∈ parts, c ∈ part := by
  induction parts with
  | nil => cases isThere
  | cons part parts ih =>
      cases parts with
      | nil =>
          rw [List.intercalate_singleton] at isThere
          exact .inr ⟨part, List.mem_cons_self, isThere⟩
      | cons next parts =>
          rw [List.intercalate_cons_cons, List.append_assoc] at isThere
          rcases List.mem_append.1 isThere with inFirst | isLater
          · exact .inr ⟨part, List.mem_cons_self, inFirst⟩
          · rcases List.mem_cons.1 isLater with rfl | isLater
            · exact .inl rfl
            · rcases ih isLater with isSeparator | ⟨other, isOther, inOther⟩
              · exact .inl isSeparator
              · exact .inr ⟨other, List.mem_cons_of_mem _ isOther, inOther⟩

theorem mapM_eq_some_iff {read : List Char → Option α}
    (reads : ∀ cs value, read cs = some value ↔ Stands cs value) :
    parts.mapM read = some values ↔ List.Forall₂ Stands parts values := by
  induction parts generalizing values with
  | nil =>
      rw [List.mapM_nil, List.forall₂_nil_left_iff]
      exact ⟨fun same => (Option.some.inj same).symm, fun same => same ▸ rfl⟩
  | cons part parts ih =>
      rw [List.mapM_cons, List.forall₂_cons_left_iff]
      simp only [Option.bind_eq_bind, Option.bind_eq_some_iff, reads, ih]
      constructor
      · rintro ⟨value, isFirst, others, areOthers, same⟩
        exact ⟨value, others, isFirst, areOthers, (Option.some.inj same).symm⟩
      · rintro ⟨value, others, isFirst, areOthers, rfl⟩
        exact ⟨value, isFirst, others, areOthers, rfl⟩

/-- Reading each part of a text, if what a part stands for is written without separators. -/
theorem mapM_splitOn_eq_some_iff {separator : Char} {cs : List Char} {read : List Char → Option α}
    (reads : ∀ cs value, read cs = some value ↔ Stands cs value)
    (isWhole : ∀ cs value, Stands cs value → separator ∉ cs) :
    (Text.splitOn separator cs).mapM read = some values ↔
      ∃ parts ≠ [], cs = [separator].intercalate parts ∧ List.Forall₂ Stands parts values := by
  rw [mapM_eq_some_iff reads]
  constructor
  · intro standFor
    exact ⟨_, Text.splitOn_ne_nil separator cs, (Text.join_splitOn separator cs).symm, standFor⟩
  · rintro ⟨parts, notNone, rfl, standFor⟩
    rwa [Text.splitOn_intercalate notNone]
    intro part isPart
    obtain ⟨value, stands⟩ := exists_of_mem_forall₂ standFor isPart
    exact isWhole part value stands

theorem vectorOfList?_eq_some_iff {size : Nat} {vector : Vector α size} :
    vectorOfList? size values = some vector ↔ vector.toList = values := by
  unfold vectorOfList?
  split
  next fits =>
    rw [Option.some_inj]
    constructor
    · rintro rfl
      rfl
    · rintro rfl
      rfl
  next notFitting =>
    simp only [reduceCtorEq, false_iff]
    rintro rfl
    exact notFitting vector.length_toList

end

/-! ## Dotted addresses -/

theorem byteOfText?_eq_some_iff {cs : List Char} {byte : UInt8} :
    byteOfText? cs = some byte ↔ ByteText cs byte := by
  have isIdle : (cs.head? == some '0' && decide (1 < cs.length)) = true ↔
      cs.head? = some '0' ∧ cs ≠ ['0'] := by
    cases cs with
    | nil => simp
    | cons c rest => cases rest <;> simp
  unfold byteOfText?
  split
  next idle =>
    obtain ⟨isZero, isLonger⟩ := isIdle.1 idle
    simp only [reduceCtorEq, false_iff]
    exact fun isByte => isLonger (isByte.noIdleZero isZero)
  next notIdle =>
    have noIdleZero (isZero : cs.head? = some '0') : cs = ['0'] := by
      by_contra isLonger
      exact notIdle (isIdle.2 ⟨isZero, isLonger⟩)
    rw [Option.map_eq_some_iff]
    constructor
    · rintro ⟨number, isRead, rfl⟩
      obtain ⟨numeral, isSmall⟩ := Number.decimalBelow?_eq_some_iff.1 isRead
      refine ⟨?_, noIdleZero⟩
      rwa [UInt8.toNat_ofNat_of_lt' isSmall]
    · intro isByte
      refine ⟨byte.toNat, ?_, UInt8.ofNat_toNat⟩
      exact Number.decimalBelow?_eq_some_iff.2 ⟨isByte.numeral, byte.toNat_lt⟩

theorem ByteText.not_mem {cs : List Char} {byte : UInt8} (isByte : ByteText cs byte) {c : Char}
    (isOther : Number.digitValue? c = none) : c ∉ cs :=
  isByte.numeral.not_mem (by decide) isOther

theorem bytesOfText?_eq_some_iff {cs : List Char} {bytes : Vector UInt8 4} :
    bytesOfText? cs = some bytes ↔ DottedText cs bytes := by
  rw [bytesOfText?, Option.bind_eq_some_iff]
  have reads (cs : List Char) (byte : UInt8) : byteOfText? cs = some byte ↔ ByteText cs byte :=
    byteOfText?_eq_some_iff
  have isWhole (cs : List Char) (byte : UInt8) (isByte : ByteText cs byte) : '.' ∉ cs :=
    isByte.not_mem rfl
  simp only [mapM_splitOn_eq_some_iff reads isWhole, vectorOfList?_eq_some_iff]
  constructor
  · rintro ⟨values, ⟨parts, -, rfl, areBytes⟩, rfl⟩
    exact ⟨areBytes⟩
  · rintro ⟨areBytes⟩
    refine ⟨_, ⟨_, ?_, rfl, areBytes⟩, rfl⟩
    rintro rfl
    simpa using areBytes.length_eq

/-- Only digits and dots are in a dotted address. -/
theorem DottedText.not_mem {cs : List Char} {bytes : Vector UInt8 4}
    (isDotted : DottedText cs bytes) {c : Char} (isOther : Number.digitValue? c = none)
    (notDot : c ≠ '.') : c ∉ cs := by
  obtain ⟨areBytes⟩ := isDotted
  intro isThere
  rcases mem_intercalate isThere with isDot | ⟨part, isPart, inPart⟩
  · exact notDot isDot
  · obtain ⟨byte, isByte⟩ := exists_of_mem_forall₂ areBytes isPart
    exact isByte.not_mem isOther inPart

/-- There are dots in a dotted address. -/
theorem DottedText.dot_mem {cs : List Char} {bytes : Vector UInt8 4}
    (isDotted : DottedText cs bytes) : '.' ∈ cs := by
  obtain @⟨parts, bytes, areBytes⟩ := isDotted
  have four : parts.length = 4 := by simpa using areBytes.length_eq
  match parts, four with
  | first :: second :: _, _ =>
      rw [List.intercalate_cons_cons]
      simp

/-! ## Groups -/

theorem groupOfText?_eq_some_iff {cs : List Char} {group : UInt16} :
    groupOfText? cs = some group ↔ GroupText cs group := by
  unfold groupOfText?
  split
  next isLong =>
    simp only [reduceCtorEq, false_iff]
    exact fun isGroup => Nat.not_le.2 isLong isGroup.isShort
  next notLong =>
    have isShort : cs.length ≤ 4 := Nat.not_lt.1 notLong
    rw [Option.map_eq_some_iff]
    simp only [Number.ofDigits?_eq_some_iff (Nat.le_refl 16)]
    constructor
    · rintro ⟨number, numeral, rfl⟩
      refine ⟨?_, isShort⟩
      have isSmall : number < 16 ^ 4 :=
        Nat.lt_of_lt_of_le numeral.lt_pow (Nat.pow_le_pow_right (by decide) isShort)
      rwa [UInt16.toNat_ofNat_of_lt' isSmall]
    · intro isGroup
      exact ⟨group.toNat, isGroup.numeral, UInt16.ofNat_toNat⟩

theorem GroupText.not_mem {cs : List Char} {group : UInt16} (isGroup : GroupText cs group)
    {c : Char} (isOther : Number.digitValue? c = none) : c ∉ cs :=
  isGroup.numeral.not_mem (by decide) isOther

theorem exists_eq_bytes (bytes : Vector UInt8 4) :
    ∃ first second third fourth, bytes = #v[first, second, third, fourth] := by
  obtain ⟨⟨values⟩, isFour⟩ := bytes
  match values, isFour with
  | [first, second, third, fourth], _ => exact ⟨first, second, third, fourth, rfl⟩

/-- The groups that a dotted address fills. -/
theorem groupsOfBytes_eq_iff {first second third fourth : UInt8} {high low : UInt16} :
    groupsOfBytes #v[first, second, third, fourth] = [high, low] ↔
      high.toNat = first.toNat * 256 + second.toNat ∧
      low.toNat = third.toNat * 256 + fourth.toNat := by
  have join_eq_iff (first second : UInt8) (group : UInt16) :
      first.toUInt16 * 256 + second.toUInt16 = group ↔
        group.toNat = first.toNat * 256 + second.toNat := by
    have firstIsByte := first.toNat_lt
    have secondIsByte := second.toNat_lt
    have isBase : (256 : UInt16).toNat = 256 := rfl
    rw [← UInt16.toNat_inj, UInt16.toNat_add, UInt16.toNat_mul, UInt8.toNat_toUInt16,
      UInt8.toNat_toUInt16, isBase]
    omega
  simp [groupsOfBytes, join_eq_iff]

/-! ## Pieces -/

/-- No group is a dotted address. -/
theorem GroupText.not_dotted {cs : List Char} {group : UInt16} (isGroup : GroupText cs group)
    {bytes : Vector UInt8 4} : ¬DottedText cs bytes :=
  fun isDotted => isGroup.not_mem rfl isDotted.dot_mem

theorem pieces_singleton_iff {piece : List Char} {groups : List UInt16} :
    Pieces [piece] groups ↔
      (∃ bytes, DottedText piece bytes ∧ groupsOfBytes bytes = groups) ∨
        ∃ group, GroupText piece group ∧ groups = [group] := by
  constructor
  · rintro (_ | ⟨isDotted, isHigh, isLow⟩ | ⟨isGroup, _ | _⟩)
    · exact .inl ⟨_, isDotted, groupsOfBytes_eq_iff.2 ⟨isHigh, isLow⟩⟩
    · exact .inr ⟨_, isGroup, rfl⟩
  · rintro (⟨bytes, isDotted, rfl⟩ | ⟨group, isGroup, rfl⟩)
    · obtain ⟨first, second, third, fourth, rfl⟩ := exists_eq_bytes bytes
      obtain ⟨isHigh, isLow⟩ := groupsOfBytes_eq_iff.1
        (rfl : groupsOfBytes #v[first, second, third, fourth] = _)
      exact .embedded isDotted isHigh isLow
    · exact .cons isGroup .nil

/-- The parts that are read are pieces of a literal. -/
theorem groupsOfParts?_eq_some_iff {parts : List (List Char)} {groups : List UInt16} :
    groupsOfParts? parts = some groups ↔ Pieces parts groups := by
  induction parts generalizing groups with
  | nil =>
      rw [groupsOfParts?, Option.some_inj]
      constructor
      · rintro rfl
        exact .nil
      · rintro ⟨⟩
        rfl
  | cons part parts ih =>
      cases parts with
      | nil =>
          rw [pieces_singleton_iff, groupsOfParts?]
          simp only [← bytesOfText?_eq_some_iff, ← groupOfText?_eq_some_iff]
          split
          next bytes isDotted =>
            have noGroup (group : UInt16) : groupOfText? part ≠ some group := by
              intro isGroup
              have isDotted := bytesOfText?_eq_some_iff.1 isDotted
              exact (groupOfText?_eq_some_iff.1 isGroup).not_dotted isDotted
            simp [isDotted, noGroup]
          next notDotted =>
            rw [Option.map_eq_some_iff]
            simp [notDotted, eq_comm]
      | cons next parts =>
          rw [groupsOfParts?]
          simp only [Option.bind_eq_bind, Option.bind_eq_some_iff, groupOfText?_eq_some_iff, ih]
          constructor
          · rintro ⟨group, isGroup, others, areOthers, ⟨⟩⟩
            exact .cons isGroup areOthers
          · rintro (_ | _ | ⟨isGroup, areOthers⟩)
            exact ⟨_, isGroup, _, areOthers, rfl⟩
          · simp

theorem Pieces.piece_cases {pieces : List (List Char)} {groups : List UInt16}
    (arePieces : Pieces pieces groups) {piece : List Char} (isPiece : piece ∈ pieces) :
    (∃ group, GroupText piece group) ∨ ∃ bytes, DottedText piece bytes := by
  induction arePieces with
  | nil => cases isPiece
  | embedded isDotted _ _ =>
      rw [List.mem_singleton.1 isPiece]
      exact .inr ⟨_, isDotted⟩
  | cons isGroup _ ih =>
      rcases List.mem_cons.1 isPiece with rfl | isLater
      · exact .inl ⟨_, isGroup⟩
      · exact ih isLater

/-- Only digits and dots are in a piece. -/
theorem Pieces.not_mem {pieces : List (List Char)} {groups : List UInt16}
    (arePieces : Pieces pieces groups) {piece : List Char} (isPiece : piece ∈ pieces) {c : Char}
    (isOther : Number.digitValue? c = none) (notDot : c ≠ '.') : c ∉ piece := by
  rcases arePieces.piece_cases isPiece with ⟨group, isGroup⟩ | ⟨bytes, isDotted⟩
  · exact isGroup.not_mem isOther
  · exact isDotted.not_mem isOther notDot

theorem Pieces.ne_nil {pieces : List (List Char)} {groups : List UInt16}
    (arePieces : Pieces pieces groups) {piece : List Char} (isPiece : piece ∈ pieces) :
    piece ≠ [] := by
  rcases arePieces.piece_cases isPiece with ⟨group, isGroup⟩ | ⟨bytes, isDotted⟩
  · exact isGroup.numeral.ne_nil
  · exact List.ne_nil_of_mem isDotted.dot_mem

theorem pieces_of_groups {pieces : List (List Char)} {groups : List UInt16}
    (areGroups : List.Forall₂ GroupText pieces groups) : Pieces pieces groups := by
  induction areGroups with
  | nil => exact .nil
  | cons isGroup _ ih => exact .cons isGroup ih

/-- Pieces without dots are groups. -/
theorem Pieces.areGroups {pieces : List (List Char)} {groups : List UInt16}
    (arePieces : Pieces pieces groups) (noDot : '.' ∉ [':'].intercalate pieces) :
    List.Forall₂ GroupText pieces groups := by
  induction arePieces with
  | nil => exact .nil
  | embedded isDotted _ _ =>
      rw [List.intercalate_singleton] at noDot
      exact absurd isDotted.dot_mem noDot
  | @cons piece pieces group groups isGroup _ ih =>
      refine .cons isGroup (ih fun isThere => noDot ?_)
      cases pieces with
      | nil => cases isThere
      | cons next pieces =>
          rw [List.intercalate_cons_cons]
          exact List.mem_append_right _ isThere

/-- Reading what colons separate. -/
theorem groupsOfText?_eq_some_iff {cs : List Char} {groups : List UInt16} :
    groupsOfText? cs = some groups ↔
      ∃ pieces, Pieces pieces groups ∧ cs = [':'].intercalate pieces := by
  unfold groupsOfText?
  split
  next isEmpty =>
    rw [List.isEmpty_iff.1 isEmpty, Option.some_inj]
    constructor
    · rintro rfl
      exact ⟨[], .nil, rfl⟩
    · rintro ⟨pieces, arePieces, isNothing⟩
      cases arePieces with
      | nil => rfl
      | embedded isDotted _ _ =>
          rw [List.intercalate_singleton] at isNothing
          exact absurd isNothing.symm (List.ne_nil_of_mem isDotted.dot_mem)
      | @cons piece pieces _ _ isGroup _ =>
          cases pieces with
          | nil =>
              rw [List.intercalate_singleton] at isNothing
              exact absurd isNothing.symm isGroup.numeral.ne_nil
          | cons next pieces =>
              rw [List.intercalate_cons_cons] at isNothing
              simp at isNothing
  next notEmpty =>
    rw [groupsOfParts?_eq_some_iff]
    constructor
    · intro arePieces
      exact ⟨_, arePieces, (Text.join_splitOn ':' cs).symm⟩
    · rintro ⟨pieces, arePieces, rfl⟩
      rwa [Text.splitOn_intercalate]
      · rintro rfl
        exact notEmpty rfl
      · intro piece isPiece
        exact arePieces.not_mem isPiece rfl (by decide)

/-! ## Double colons -/

theorem eq_of_cutAtDoubleColon {cs before behind : List Char}
    (isCut : cutAtDoubleColon cs = some (before, behind)) :
    cs = before ++ ':' :: ':' :: behind := by
  fun_induction cutAtDoubleColon cs generalizing before behind with
  | case1 rest =>
      cases isCut
      rfl
  | case2 c rest _ ih =>
      obtain ⟨⟨front, back⟩, isCut, same⟩ := Option.map_eq_some_iff.1 isCut
      cases same
      rw [ih isCut]
      rfl
  | case3 => cases isCut

/-- What stands before the text that is cut. -/
def extendCut (front : List Char) (cut : List Char × List Char) : List Char × List Char :=
  (front ++ cut.1, cut.2)

/-- No double colon begins with a character that is no colon. -/
theorem cutAtDoubleColon_append {part : List Char} (isWhole : ':' ∉ part) (rest : List Char) :
    cutAtDoubleColon (part ++ rest) = (cutAtDoubleColon rest).map (extendCut part) := by
  induction part with
  | nil =>
      rw [List.nil_append]
      cases cutAtDoubleColon rest <;> rfl
  | cons c part ih =>
      obtain ⟨notColon, isWhole⟩ := not_or.1 (mt List.mem_cons.2 isWhole)
      rw [List.cons_append, cutAtDoubleColon, ih isWhole, Option.map_map]
      · rfl
      · rintro _ rfl
        exact absurd rfl notColon

/-- A colon in front of another character begins no double colon. -/
theorem cutAtDoubleColon_single {c : Char} (notColon : c ≠ ':') (rest : List Char) :
    cutAtDoubleColon (':' :: c :: rest) =
      (cutAtDoubleColon (c :: rest)).map (extendCut [':']) := by
  rw [cutAtDoubleColon]
  · rfl
  · rintro others _ same
    exact notColon (List.cons.inj same).1

/-- Pieces do not hold a double colon, nor do they begin one. -/
theorem cutAtDoubleColon_pieces {pieces : List (List Char)} {groups : List UInt16}
    (arePieces : Pieces pieces groups) (rest : List Char) :
    cutAtDoubleColon ([':'].intercalate pieces ++ rest) =
      (cutAtDoubleColon rest).map (extendCut ([':'].intercalate pieces)) := by
  have areWhole : ∀ piece ∈ pieces, piece ≠ [] ∧ ':' ∉ piece := fun piece isPiece =>
    ⟨arePieces.ne_nil isPiece, arePieces.not_mem isPiece rfl (by decide)⟩
  clear arePieces
  induction pieces with
  | nil => exact cutAtDoubleColon_append List.not_mem_nil rest
  | cons piece pieces ih =>
      obtain ⟨⟨_, isWhole⟩, othersAreWhole⟩ := List.forall_mem_cons.1 areWhole
      cases pieces with
      | nil =>
          rw [List.intercalate_singleton]
          exact cutAtDoubleColon_append isWhole rest
      | cons next pieces =>
          have joined := ih othersAreWhole
          obtain ⟨notEmpty, nextIsWhole⟩ := othersAreWhole next List.mem_cons_self
          obtain ⟨c, next, rfl⟩ := List.exists_cons_of_ne_nil notEmpty
          have notColon : c ≠ ':' := fun isColon => nextIsWhole (isColon ▸ List.mem_cons_self)
          rw [List.intercalate_cons_cons_left] at joined
          rw [List.intercalate_cons_cons, List.intercalate_cons_cons_left]
          simp only [List.append_assoc, List.cons_append, List.nil_append] at joined ⊢
          rw [cutAtDoubleColon_append isWhole, cutAtDoubleColon_single notColon, joined,
            Option.map_map, Option.map_map]
          congr 1
          funext cut
          simp [extendCut]

/-! ## Literals -/

theorem ipv6OfText?_of_literal {cs : List Char} {groups : Vector UInt16 8}
    (isLiteral : Literal cs groups) : ipv6OfText? cs = some groups := by
  unfold ipv6OfText?
  cases isLiteral with
  | @full pieces groups arePieces =>
      have notCut : cutAtDoubleColon ([':'].intercalate pieces) = none := by
        simpa [cutAtDoubleColon] using cutAtDoubleColon_pieces arePieces []
      have isRead := groupsOfText?_eq_some_iff.2 ⟨pieces, arePieces, rfl⟩
      rw [notCut]
      dsimp only
      rw [isRead, Option.bind_some, vectorOfList?_eq_some_iff]
  | @compressed before behind front back zeros groups areGroups arePieces notIdle fills =>
      have isCut := cutAtDoubleColon_pieces (pieces_of_groups areGroups)
        (':' :: ':' :: [':'].intercalate behind)
      have noDot : '.' ∉ [':'].intercalate before := by
        intro isThere
        rcases mem_intercalate isThere with isColon | ⟨piece, isPiece, inPiece⟩
        · cases isColon
        · obtain ⟨group, isGroup⟩ := exists_of_mem_forall₂ areGroups isPiece
          exact isGroup.not_mem rfl inPiece
      have frontIsRead := groupsOfText?_eq_some_iff.2 ⟨before, pieces_of_groups areGroups, rfl⟩
      have backIsRead := groupsOfText?_eq_some_iff.2 ⟨behind, arePieces, rfl⟩
      have eight : front.length + zeros + back.length = 8 := by
        simpa [Nat.add_assoc] using (congrArg List.length fills).symm
      have zeros_eq : 8 - front.length - back.length = zeros := by omega
      rw [isCut, cutAtDoubleColon]
      simp only [Option.map_some, extendCut, List.append_nil]
      rw [if_neg (by simpa using noDot), frontIsRead, backIsRead]
      simp only [Option.bind_eq_bind, Option.bind_some]
      rw [if_pos (by omega), zeros_eq, vectorOfList?_eq_some_iff, fills]

theorem literal_of_ipv6OfText? {cs : List Char} {groups : Vector UInt16 8}
    (isRead : ipv6OfText? cs = some groups) : Literal cs groups := by
  unfold ipv6OfText? at isRead
  split at isRead
  next =>
    obtain ⟨values, isRead, fits⟩ := Option.bind_eq_some_iff.1 isRead
    obtain ⟨pieces, arePieces, rfl⟩ := groupsOfText?_eq_some_iff.1 isRead
    rw [← vectorOfList?_eq_some_iff.1 fits] at arePieces
    exact .full arePieces
  next before behind isCut =>
    dsimp only at isRead
    split at isRead
    next => cases isRead
    next noDot =>
      obtain ⟨front, frontIsRead, restIsRead⟩ := Option.bind_eq_some_iff.1 isRead
      obtain ⟨back, backIsRead, isFilled⟩ := Option.bind_eq_some_iff.1 restIsRead
      split at isFilled
      next isShorter =>
        obtain ⟨beforePieces, arePieces, rfl⟩ := groupsOfText?_eq_some_iff.1 frontIsRead
        obtain ⟨behindPieces, areBackPieces, rfl⟩ := groupsOfText?_eq_some_iff.1 backIsRead
        rw [eq_of_cutAtDoubleColon isCut]
        exact .compressed (arePieces.areGroups (by simpa using noDot)) areBackPieces (by omega)
          (vectorOfList?_eq_some_iff.1 isFilled)
      next => cases isFilled

/-- The literals that are read are those of the rules. -/
theorem ipv6OfText?_eq_some_iff {cs : List Char} {groups : Vector UInt16 8} :
    ipv6OfText? cs = some groups ↔ Literal cs groups :=
  ⟨literal_of_ipv6OfText?, ipv6OfText?_of_literal⟩

/-- Only digits, dots and colons are in a literal. -/
theorem Literal.not_mem {cs : List Char} {groups : Vector UInt16 8} (isLiteral : Literal cs groups)
    {c : Char} (isOther : Number.digitValue? c = none) (notDot : c ≠ '.') (notColon : c ≠ ':') :
    c ∉ cs := by
  have notInPieces {pieces : List (List Char)} {values : List UInt16}
      (arePieces : Pieces pieces values) : c ∉ [':'].intercalate pieces := by
    intro isThere
    rcases mem_intercalate isThere with isColon | ⟨piece, isPiece, inPiece⟩
    · exact notColon isColon
    · exact arePieces.not_mem isPiece isOther notDot inPiece
  cases isLiteral with
  | full arePieces => exact notInPieces arePieces
  | compressed areGroups arePieces _ _ =>
      simp [notColon, notInPieces (pieces_of_groups areGroups), notInPieces arePieces]

/-! ## Hosts -/

/-- What may stand between brackets. -/
theorem bracketedOfText?_eq_some_iff {cs : List Char} {ip : IpAddress} :
    bracketedOfText? cs = some ip ↔
      (∃ groups, Literal cs groups ∧ ip = .v6 groups 0) ∨
        ∃ literal digits groups, ∃ scope : UInt32, cs = literal ++ '%' :: digits ∧
          Literal literal groups ∧ Numeral 10 digits scope.toNat ∧ ip = .v6 groups scope := by
  unfold bracketedOfText?
  constructor
  · intro isRead
    split at isRead
    next =>
      obtain ⟨groups, isLiteral, rfl⟩ := Option.map_eq_some_iff.1 isRead
      exact .inl ⟨groups, ipv6OfText?_eq_some_iff.1 isLiteral, rfl⟩
    next literal digits isCut =>
      obtain ⟨sign, rfl, isSign, -⟩ := Text.cutAtFirst_eq_some.1 isCut
      obtain rfl : sign = '%' := by simpa using isSign
      obtain ⟨groups, isLiteral, isRead⟩ := Option.bind_eq_some_iff.1 isRead
      obtain ⟨number, isNumber, same⟩ := Option.bind_eq_some_iff.1 isRead
      cases same
      obtain ⟨numeral, isSmall⟩ := Number.decimalBelow?_eq_some_iff.1 isNumber
      refine .inr ⟨literal, digits, groups, _, rfl, ipv6OfText?_eq_some_iff.1 isLiteral, ?_, rfl⟩
      rwa [UInt32.toNat_ofNat_of_lt' isSmall]
  · rintro (⟨groups, isLiteral, rfl⟩ |
      ⟨literal, digits, groups, scope, rfl, isLiteral, numeral, rfl⟩)
    · have noSign : '%' ∉ cs := isLiteral.not_mem rfl (by decide) (by decide)
      have notCut : Text.cutAtFirst (· == '%') cs = none := by
        rw [Option.eq_none_iff_forall_ne_some]
        rintro ⟨front, rest⟩ isCut
        obtain ⟨sign, rfl, isSign, -⟩ := Text.cutAtFirst_eq_some.1 isCut
        obtain rfl : sign = '%' := by simpa using isSign
        simp at noSign
      rw [notCut]
      dsimp only
      rw [ipv6OfText?_eq_some_iff.2 isLiteral, Option.map_some]
    · have noSign : '%' ∉ literal := isLiteral.not_mem rfl (by decide) (by decide)
      have isCut : Text.cutAtFirst (· == '%') (literal ++ '%' :: digits) =
          some (literal, digits) := by
        refine Text.cutAtFirst_eq_some.2 ⟨'%', rfl, rfl, fun c isThere => beq_false_of_ne ?_⟩
        rintro rfl
        exact noSign isThere
      have isScope : Number.decimalBelow? UInt32.size digits = some scope.toNat :=
        Number.decimalBelow?_eq_some_iff.2 ⟨numeral, scope.toNat_lt⟩
      rw [isCut]
      dsimp only
      rw [ipv6OfText?_eq_some_iff.2 isLiteral, isScope]
      simp

theorem parse?_bracketed (cs : List Char) :
    IpAddress.parse? ('[' :: (cs ++ [']'])) = bracketedOfText? cs := by
  simp [IpAddress.parse?]

/-- **The reader follows the rules.**  The texts that are read as an IP address are those that stand
for it. -/
theorem IpAddress.parse?_eq_some_iff {cs : List Char} {ip : IpAddress} :
    IpAddress.parse? cs = some ip ↔ HostText cs ip := by
  constructor
  · intro isRead
    unfold IpAddress.parse? at isRead
    split at isRead
    next rest =>
      split at isRead
      next isClosed =>
        have closed : rest = rest.dropLast ++ [']'] :=
          (List.dropLast_append_getLast? ']' (by simpa using isClosed)).symm
        rw [closed]
        rcases bracketedOfText?_eq_some_iff.1 isRead with
          ⟨groups, isLiteral, rfl⟩ | ⟨literal, digits, groups, scope, same, isLiteral, numeral, rfl⟩
        · exact .v6 isLiteral
        · rw [same]
          exact .v6Scoped isLiteral numeral
      next => cases isRead
    next =>
      obtain ⟨bytes, isDotted, rfl⟩ := Option.map_eq_some_iff.1 isRead
      exact .v4 (bytesOfText?_eq_some_iff.1 isDotted)
  · intro isHost
    cases isHost with
    | v4 isDotted =>
        have noBracket : '[' ∉ cs := isDotted.not_mem rfl (by decide)
        unfold IpAddress.parse?
        split
        next => simp at noBracket
        next => rw [bytesOfText?_eq_some_iff.2 isDotted, Option.map_some]
    | v6 isLiteral =>
        rw [parse?_bracketed, bracketedOfText?_eq_some_iff]
        exact .inl ⟨_, isLiteral, rfl⟩
    | v6Scoped isLiteral numeral =>
        rw [parse?_bracketed, bracketedOfText?_eq_some_iff]
        exact .inr ⟨_, _, _, _, rfl, isLiteral, numeral, rfl⟩

end Gatehouse.Net
