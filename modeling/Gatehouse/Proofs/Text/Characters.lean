import Gatehouse.Text.Utf8

/-!
# Bytes that make up characters

Bytes are those of a text if they are the bytes of characters, one after the other
(`AreCharacters`).  The bytes of a character are not those of another with more behind them, and
only the first of them can begin a character; so where a character stands the bytes can be cut, and
both sides are looked at alone (`areCharacters_append_encoding_append_iff`).

From the front, the bytes are gone through as far as there are characters: `validLength_cut` says
that what is behind begins with no character.
-/

namespace Gatehouse.Text

set_option autoImplicit false

/-- Whether bytes are those of characters, one after the other. -/
def AreCharacters (source : List UInt8) : Prop :=
  ∃ cs : List Char, source = cs.flatMap String.utf8EncodeChar

/-- Whether bytes begin with the bytes of a character. -/
def BeginsCharacter (source : List UInt8) : Prop :=
  ∃ (c : Char) (rest : List UInt8), source = String.utf8EncodeChar c ++ rest

variable {c d : Char} {front back source : List UInt8}

theorem areCharacters_nil : AreCharacters [] :=
  ⟨[], rfl⟩

theorem areCharacters_encoding (c : Char) : AreCharacters (String.utf8EncodeChar c) :=
  ⟨[c], by rw [List.flatMap_singleton]⟩

theorem AreCharacters.append (isFront : AreCharacters front) (isBack : AreCharacters back) :
    AreCharacters (front ++ back) := by
  obtain ⟨cs, rfl⟩ := isFront
  obtain ⟨ds, rfl⟩ := isBack
  exact ⟨cs ++ ds, List.flatMap_append.symm⟩

theorem not_beginsCharacter_nil : ¬BeginsCharacter [] := by
  rintro ⟨c, rest, isNil⟩
  exact String.utf8EncodeChar_ne_nil (List.append_eq_nil_iff.1 isNil.symm).1

/-- The bytes of characters begin with one, whatever follows them, if there are any. -/
theorem AreCharacters.eq_nil (areCharacters : AreCharacters front)
    (beginsNone : ¬BeginsCharacter (front ++ back)) : front = [] := by
  obtain ⟨cs, rfl⟩ := areCharacters
  cases cs with
  | nil => rfl
  | cons c cs =>
      rw [List.flatMap_cons, List.append_assoc] at beginsNone
      exact absurd ⟨c, _, rfl⟩ beginsNone

/-- Bytes are those of no text exactly if they are not those of characters. -/
theorem ofBytes?_eq_none_iff : ofBytes? source = none ↔ ¬AreCharacters source := by
  have isValid : ByteArray.IsValidUTF8 ⟨source.toArray⟩ ↔ AreCharacters source := by
    constructor
    · rintro ⟨cs, isEncoded⟩
      refine ⟨cs, ?_⟩
      have same := congrArg (fun bytes : ByteArray => bytes.data.toList) isEncoded
      simpa only [List.utf8Encode, List.data_toByteArray] using same
    · rintro ⟨cs, rfl⟩
      refine ⟨cs, ByteArray.ext ?_⟩
      rw [List.utf8Encode, List.data_toByteArray]
  rw [ofBytes?, String.fromUTF8?, ← isValid]
  split <;> simp_all

/-! ## Cutting at characters -/

/-- The bytes at the front of a list tell the character that they are those of. -/
theorem encoding_append_inj
    (same : String.utf8EncodeChar c ++ front = String.utf8EncodeChar d ++ back) :
    c = d ∧ front = back := by
  have same' := congrArg (fun bytes => ByteArray.utf8DecodeChar? bytes.toByteArray 0) same
  simp only [List.toByteArray_append, ByteArray.utf8DecodeChar?_utf8EncodeChar_append,
    Option.some.injEq] at same'
  subst same'
  exact ⟨rfl, List.append_cancel_left same⟩

/-- Only the first byte of a character can begin one. -/
theorem isUTF8FirstByte_iff {index : Nat} {byte : UInt8}
    (isByte : (String.utf8EncodeChar c)[index]? = some byte) :
    byte.IsUTF8FirstByte ↔ index = 0 := by
  obtain ⟨isWithin, rfl⟩ := List.getElem?_eq_some_iff.1 isByte
  exact UInt8.isUTF8FirstByte_getElem_utf8EncodeChar

/-- A character does not begin inside another one. -/
theorem eq_nil_of_encoding_eq_append {inner rest : List UInt8}
    (isCut : String.utf8EncodeChar c = front ++ inner) (begins : BeginsCharacter (inner ++ rest)) :
    front = [] ∨ inner = [] := by
  obtain ⟨d, more, isBegun⟩ := begins
  cases inner with
  | nil => exact .inr rfl
  | cons byte inner =>
      have inEncoding : (String.utf8EncodeChar c)[front.length]? = some byte := by
        rw [isCut, List.getElem?_append_right (Nat.le_refl _), Nat.sub_self]
        rfl
      have isFirst : (String.utf8EncodeChar d)[0]? = some byte := by
        have isHead := congrArg (fun bytes => bytes[0]?) isBegun
        rw [List.getElem?_append_left
          (List.length_pos_iff.2 String.utf8EncodeChar_ne_nil)] at isHead
        exact isHead.symm
      have isStart := (isUTF8FirstByte_iff inEncoding).1 ((isUTF8FirstByte_iff isFirst).2 rfl)
      exact .inl (List.eq_nil_of_length_eq_zero isStart)

/-- Where a character begins, bytes that make up characters can be cut. -/
theorem AreCharacters.cut (areCharacters : AreCharacters (front ++ back))
    (begins : BeginsCharacter back) : AreCharacters front ∧ AreCharacters back := by
  obtain ⟨cs, isEncoded⟩ := areCharacters
  induction cs generalizing front with
  | nil =>
      obtain ⟨rfl, rfl⟩ := List.append_eq_nil_iff.1 isEncoded
      exact absurd begins not_beginsCharacter_nil
  | cons c cs ih =>
      rw [List.flatMap_cons] at isEncoded
      rcases List.append_eq_append_iff.1 isEncoded with ⟨inner, isChar, rfl⟩ | ⟨behind, rfl, isRest⟩
      · -- the cut is not inside the first character, so it is in front of it or behind it
        rcases eq_nil_of_encoding_eq_append isChar begins with rfl | rfl
        · rw [List.nil_append] at isChar
          subst isChar
          exact ⟨areCharacters_nil, (areCharacters_encoding c).append ⟨cs, rfl⟩⟩
        · rw [List.append_nil] at isChar
          subst isChar
          exact ⟨areCharacters_encoding c, cs, rfl⟩
      · obtain ⟨isBehind, isBack⟩ := ih isRest.symm
        exact ⟨(areCharacters_encoding c).append isBehind, isBack⟩

/-- Behind a character the bytes can be looked at alone. -/
theorem areCharacters_encoding_append_iff :
    AreCharacters (String.utf8EncodeChar c ++ back) ↔ AreCharacters back := by
  refine ⟨?_, (areCharacters_encoding c).append⟩
  rintro ⟨cs, isEncoded⟩
  cases cs with
  | nil => exact absurd ⟨c, back, isEncoded.symm⟩ not_beginsCharacter_nil
  | cons d cs => exact ⟨cs, (encoding_append_inj isEncoded).2⟩

/-- Behind characters the bytes can be looked at alone. -/
theorem AreCharacters.append_iff (isFront : AreCharacters front) :
    AreCharacters (front ++ back) ↔ AreCharacters back := by
  obtain ⟨cs, rfl⟩ := isFront
  induction cs with
  | nil => rfl
  | cons c cs ih => rw [List.flatMap_cons, List.append_assoc, areCharacters_encoding_append_iff, ih]

/-- **Bytes can be cut at a character**: what is in front of it and what is behind it are looked at
alone. -/
theorem areCharacters_append_encoding_append_iff :
    AreCharacters (front ++ (String.utf8EncodeChar c ++ back)) ↔
      AreCharacters front ∧ AreCharacters back := by
  constructor
  · intro areCharacters
    obtain ⟨isFront, isBack⟩ := areCharacters.cut ⟨c, back, rfl⟩
    exact ⟨isFront, areCharacters_encoding_append_iff.1 isBack⟩
  · rintro ⟨isFront, isBack⟩
    exact isFront.append ((areCharacters_encoding c).append isBack)

/-- A byte of the ASCII range is a character. -/
theorem exists_encoding_eq_singleton {byte : UInt8} (isAscii : byte.toNat < 128) :
    ∃ c, String.utf8EncodeChar c = [byte] := by
  have isSmall : (Char.ofNat byte.toNat).toNat < 128 := by rwa [toNat_ofNat_byte]
  refine ⟨Char.ofNat byte.toNat, ?_⟩
  rw [String.utf8EncodeChar_eq_singleton (utf8Size_of_ascii isSmall)]
  change [UInt8.ofNat (Char.ofNat byte.toNat).toNat] = [byte]
  rw [toNat_ofNat_byte, UInt8.ofNat_toNat]

/-- Bytes can be cut at bytes of the ASCII range. -/
theorem areCharacters_append_ascii_append_iff {inner : List UInt8} (notEmpty : inner ≠ [])
    (areAscii : ∀ byte ∈ inner, byte.toNat < 128) :
    AreCharacters (front ++ (inner ++ back)) ↔ AreCharacters front ∧ AreCharacters back := by
  induction inner generalizing front with
  | nil => exact absurd rfl notEmpty
  | cons byte inner ih =>
      obtain ⟨isAscii, others⟩ := List.forall_mem_cons.1 areAscii
      obtain ⟨c, isEncoded⟩ := exists_encoding_eq_singleton isAscii
      rw [List.cons_append, ← List.singleton_append, ← isEncoded,
        areCharacters_append_encoding_append_iff]
      refine and_congr_right fun _ => ?_
      cases inner with
      | nil => rfl
      | cons next inner =>
          have behind := @ih [] (List.cons_ne_nil next inner) others
          rw [List.nil_append] at behind
          rw [behind]
          exact and_iff_right areCharacters_nil

/-! ## Characters at the front -/

/-- A character is found at a position exactly if the bytes from there on begin with it. -/
theorem utf8DecodeChar?_eq_some_iff {source : ByteArray} {position : Nat} :
    source.utf8DecodeChar? position = some c ↔
      ∃ rest, source.data.toList.drop position = String.utf8EncodeChar c ++ rest := by
  have isDrop : source.extract position source.size =
      (source.data.toList.drop position).toByteArray := by
    refine ByteArray.ext (Array.toList_inj.1 ?_)
    rw [List.data_toByteArray, ByteArray.data_extract, Array.toList_extract,
      List.extract_eq_take_drop]
    exact List.take_of_length_le (Nat.le_of_eq List.length_drop)
  rw [ByteArray.utf8DecodeChar?_eq_utf8DecodeChar?_extract, isDrop]
  constructor
  · intro isFound
    obtain ⟨rest, isRest⟩ := ByteArray.exists_of_utf8DecodeChar?_eq_some isFound
    have same := congrArg (fun bytes : ByteArray => bytes.data.toList) isRest
    refine ⟨rest.data.toList, ?_⟩
    simpa [List.data_toByteArray] using same
  · rintro ⟨rest, isRest⟩
    rw [isRest, List.toByteArray_append]
    exact ByteArray.utf8DecodeChar?_utf8EncodeChar_append

/-- From a position on, the bytes are cut behind the last of the characters that they begin with. -/
theorem validLengthFrom_cut (source : ByteArray) (position : Nat) :
    ∃ good bad, source.data.toList.drop position = good ++ bad ∧
      validLengthFrom source position = position + good.length ∧ AreCharacters good ∧
      ¬BeginsCharacter bad := by
  fun_induction validLengthFrom source position with
  | case1 position _ c isFound ih =>
      obtain ⟨rest, isRest⟩ := utf8DecodeChar?_eq_some_iff.1 isFound
      obtain ⟨good, bad, isCut, isLength, isGood, beginsNone⟩ := ih
      refine ⟨String.utf8EncodeChar c ++ good, bad, ?_, ?_,
        (areCharacters_encoding c).append isGood, beginsNone⟩
      · rw [← List.drop_drop, isRest, ← String.length_utf8EncodeChar c, List.drop_left] at isCut
        rw [isRest, isCut, List.append_assoc]
      · rw [isLength, List.length_append, String.length_utf8EncodeChar, Nat.add_assoc]
  | case2 position _ notFound =>
      refine ⟨[], source.data.toList.drop position, rfl, rfl, areCharacters_nil, ?_⟩
      rintro ⟨c, rest, isRest⟩
      rw [utf8DecodeChar?_eq_some_iff.2 ⟨rest, isRest⟩] at notFound
      cases notFound
  | case3 position notWithin =>
      have isEmpty : source.data.toList.drop position = [] :=
        List.drop_eq_nil_of_le (Nat.le_of_not_lt notWithin)
      exact ⟨[], [], isEmpty, rfl, areCharacters_nil, not_beginsCharacter_nil⟩

/-- **Bytes are cut behind the characters at their front**, so that what is left begins with none. -/
theorem validLength_cut (source : List UInt8) :
    ∃ good bad, source = good ++ bad ∧ validLength source = good.length ∧ AreCharacters good ∧
      ¬BeginsCharacter bad := by
  simpa [validLength] using validLengthFrom_cut ⟨source.toArray⟩ 0

/-- There is only one such cut. -/
theorem validLength_append (isGood : AreCharacters front) (beginsNone : ¬BeginsCharacter back) :
    validLength (front ++ back) = front.length := by
  obtain ⟨good, bad, isCut, isLength, isGood', beginsNone'⟩ := validLength_cut (front ++ back)
  rw [isLength]
  -- of two cuts one would leave characters behind the other
  rcases List.append_eq_append_iff.1 isCut with ⟨more, rfl, rfl⟩ | ⟨more, rfl, rfl⟩
  · rw [(isGood.append_iff.1 isGood').eq_nil beginsNone, List.append_nil]
  · rw [(isGood'.append_iff.1 isGood).eq_nil beginsNone', List.append_nil]

/-- Bytes behind characters that begin with none leave the whole no text. -/
theorem not_areCharacters_append (isFront : AreCharacters front)
    (beginsNone : ¬BeginsCharacter back) (notEmpty : back ≠ []) :
    ¬AreCharacters (front ++ back) := by
  rw [isFront.append_iff]
  intro isBack
  exact notEmpty (isBack.eq_nil ((List.append_nil back).symm ▸ beginsNone))

end Gatehouse.Text
