import Gatehouse.Password.PhcString
import Gatehouse.Proofs.Number.Numerals
import Gatehouse.Proofs.Password.Base64

/-!
# Reading a stored password back

The text of a record is read as the record it was made from (`parse?_render`), if each part of the
record is one that a text can hold.  A text is a list of fields with a dollar sign before each, and
no field of such a record holds a dollar sign, so cutting the text gives the fields back.  Which
part a field is follows from its place and from two marks: parameters hold an equals sign and a
version begins with `v=`, while a salt and a digest hold no equals sign at all.
-/

namespace Gatehouse.PhcString

set_option autoImplicit false

/-! ## Decimal numbers -/

/-- The decimal text of a number is read as the number. -/
theorem decimal?_toString {number : Nat} (small : number < UInt32.size) :
    decimal? (toString number).toList = some number := by
  have areDigits : (Nat.toDigits 10 number).all Char.isDigit :=
    List.all_eq_true.2 fun _ => Nat.isDigit_of_mem_toDigits (by decide) (by decide)
  have zeroIsAlone : ¬((Nat.toDigits 10 number).head? = some '0'
      ∧ 1 < (Nat.toDigits 10 number).length) := by
    rintro ⟨isZero, isLong⟩
    rw [Number.eq_zero_of_head?_toDigits (by decide) isZero] at isLong
    exact absurd isLong (by decide)
  have value : (Nat.toDigits 10 number).foldl (fun value c => value * 10 + (c.toNat - 48)) 0
      = number := by
    simpa [Nat.ofDigitChars, Nat.mul_comm] using Nat.ofDigitChars_ten_toDigits (n := number)
  rw [Nat.toString_eq_repr, Nat.toList_repr, decimal?, if_neg, value, if_pos small]
  simpa [areDigits] using zeroIsAlone

/-- The decimal text of a number is a value. -/
theorem isValue_toString {number : Nat} (small : number < UInt32.size) :
    isValue (toString number).toList = true := by
  have isShort : (Nat.toDigits 10 number).length ≤ 64 :=
    (Nat.length_toDigits_le_iff (by decide) (by decide)).2
      (Nat.lt_trans small (by decide))
  have areValueChars : (Nat.toDigits 10 number).all isValueChar = true := by
    refine List.all_eq_true.2 fun c inText => ?_
    have isDigit := Nat.isDigit_of_mem_toDigits (by decide) (by decide) inText
    simp [isValueChar, Char.isAlphanum, isDigit]
  rw [Nat.toString_eq_repr, Nat.toList_repr, isValue, areValueChars, Bool.and_true]
  exact decide_eq_true isShort

/-! ## Characters -/

variable {cs : List Char} {c : Char}

theorem all_of_isName (isName : PhcString.isName cs = true) : cs.all isNameChar = true := by
  simp only [PhcString.isName, Bool.and_eq_true] at isName
  exact isName.2

theorem all_of_isValue (isValue : PhcString.isValue cs = true) : cs.all isValueChar = true := by
  simp only [PhcString.isValue, Bool.and_eq_true] at isValue
  exact isValue.2

theorem isValue_of_isSalt (isSalt : PhcString.isSalt cs = true) : isValue cs = true := by
  simp only [PhcString.isSalt, Bool.and_eq_true] at isSalt
  exact isSalt.2

/-- A character that fails a test is in no text that passes it. -/
theorem notMem_of_all {test : Char → Bool} (all : cs.all test = true) (fails : test c = false) :
    c ∉ cs := by
  intro present
  rw [List.all_eq_true.1 all c present] at fails
  cases fails

/-- The text of some bytes holds only characters that a value may hold. -/
theorem all_isValueChar_encode (bytes : List UInt8) :
    (Encoding.Base64.encode bytes).all isValueChar = true := by
  have eachDigit : ∀ digit < 64, isValueChar (Encoding.Base64.digitChar digit) = true := by decide
  rw [Encoding.Base64.encode_eq_map_digits, List.all_map, List.all_eq_true]
  exact fun digit isDigit => eachDigit digit (Encoding.Base64.lt_of_mem_digits isDigit)

/-! ## Fields -/

/-- A record that a text can hold. -/
structure IsWritable (stored : PhcString) : Prop where
  isAlgorithm : isName stored.algorithm.toList = true
  isVersion : ∀ version ∈ stored.version, version < UInt32.size
  areParameters : ∀ entry ∈ stored.parameters,
    isName entry.1.toList = true ∧ isValue entry.2.toList = true
  areShort : (parameterText stored.parameters).toList.length ≤ 127
  isSalt : ∀ salt ∈ stored.salt, PhcString.isSalt salt.toList = true
  isDigest : ∀ digest ∈ stored.digest, 10 ≤ digest.length ∧ digest.length ≤ 64
  /-- A digest without a salt would be read as one. -/
  digestHasSalt : stored.salt = none → stored.digest = none
  /-- Parameters that look like a version would be read as one. -/
  noOtherVersion : stored.version = none →
    isVersionField (parameterText stored.parameters).toList = false

variable {stored : PhcString}

/-- The fields for the salt and the digest. -/
def tailFields (salt : Option String) (digest : Option (List UInt8)) : List (List Char) :=
  (salt.map String.toList).toList ++ (digest.map Encoding.Base64.encode).toList

/-- The field for the parameters, if there are any. -/
def parameterFields (parameters : List (String × String)) : List (List Char) :=
  if parameters.isEmpty then [] else [(parameterText parameters).toList]

/-- The field for the version, if there is one. -/
def versionFields (version : Option Nat) : List (List Char) :=
  (version.map fun number => ['v', '='] ++ (toString number).toList).toList

/-- All fields of a text. -/
def fields (stored : PhcString) : List (List Char) :=
  stored.algorithm.toList :: (versionFields stored.version ++ (parameterFields stored.parameters
    ++ tailFields stored.salt stored.digest))

/-- A text is its fields with a dollar sign before each. -/
theorem toList_render (stored : PhcString) :
    stored.render.toList = ['$'].intercalate ([] :: stored.fields) := by
  obtain ⟨algorithm, version, parameters, salt, digest⟩ := stored
  cases version <;> cases salt <;> cases digest <;> cases parameters <;>
    simp [render, fields, versionFields, parameterFields, tailFields, List.intercalate_cons_cons]

/-! ## Reading the fields -/

/-- A salt and a digest hold no equals sign. -/
theorem equals_notMem_tailFields {salt : Option String} {digest : Option (List UInt8)}
    (isSalt : ∀ text ∈ salt, PhcString.isSalt text.toList = true) {field : List Char}
    (isField : field ∈ tailFields salt digest) : '=' ∉ field := by
  rcases List.mem_append.1 isField with isSaltField | isDigestField
  · obtain ⟨text, isText, rfl⟩ := Option.map_eq_some_iff.1 (Option.mem_toList.1 isSaltField)
    exact notMem_of_all (all_of_isValue (isValue_of_isSalt (isSalt text isText))) rfl
  · obtain ⟨bytes, -, rfl⟩ := Option.map_eq_some_iff.1 (Option.mem_toList.1 isDigestField)
    exact notMem_of_all (all_isValueChar_encode bytes) rfl

theorem parseTail_tailFields (isWritable : stored.IsWritable) :
    parseTail stored.algorithm stored.version stored.parameters
      (tailFields stored.salt stored.digest) = some stored := by
  obtain ⟨algorithm, version, parameters, salt, digest⟩ := stored
  cases salt with
  | none =>
      obtain rfl : digest = none := isWritable.digestHasSalt rfl
      rfl
  | some salt =>
      have isSalt : PhcString.isSalt salt.toList = true := isWritable.isSalt salt rfl
      cases digest with
      | none => simp [tailFields, parseTail, isSalt]
      | some digest =>
          have isDigest := isWritable.isDigest digest rfl
          simp [tailFields, parseTail, isSalt, digest?, Encoding.Base64.decode?_encode, isDigest]

/-- One parameter as it is written. -/
def parameterPart (entry : String × String) : List Char :=
  entry.1.toList ++ '=' :: entry.2.toList

theorem toList_parameterText (parameters : List (String × String)) :
    (parameterText parameters).toList = [','].intercalate (parameters.map parameterPart) := by
  have eachPart : (fun entry : String × String => (entry.1 ++ "=" ++ entry.2).toList)
      = parameterPart := by
    funext entry
    simp [parameterPart]
  rw [parameterText, String.toList_intercalate, List.map_map, Function.comp_def, eachPart]
  rfl

theorem parameter?_parameterPart {entry : String × String} (isName : isName entry.1.toList = true)
    (isValue : isValue entry.2.toList = true) :
    parameter? (parameterPart entry) = some entry := by
  have parts : Text.splitOn '=' (parameterPart entry) = [entry.1.toList, entry.2.toList] :=
    Text.splitOn_eq_pair.2 ⟨rfl, notMem_of_all (all_of_isName isName) rfl,
      notMem_of_all (all_of_isValue isValue) rfl⟩
  simp [parameter?, parts, isName, isValue]

/-- The field for the parameters is read as the parameters. -/
theorem parameters?_parameterText {parameters : List (String × String)} (notNone : parameters ≠ [])
    (areParameters : ∀ entry ∈ parameters,
      isName entry.1.toList = true ∧ isValue entry.2.toList = true)
    (areShort : (parameterText parameters).toList.length ≤ 127) :
    parameters? (parameterText parameters).toList = some parameters := by
  have isWhole : ∀ part ∈ parameters.map parameterPart, ',' ∉ part := by
    rintro part isPart
    obtain ⟨entry, isEntry, rfl⟩ := List.mem_map.1 isPart
    obtain ⟨isName, isValue⟩ := areParameters entry isEntry
    simp [parameterPart, notMem_of_all (all_of_isName isName) (c := ',') rfl,
      notMem_of_all (all_of_isValue isValue) (c := ',') rfl]
  have parts : Text.splitOn ',' (parameterText parameters).toList
      = parameters.map parameterPart := by
    rw [toList_parameterText]
    exact Text.splitOn_intercalate (by simpa using notNone) isWhole
  rw [parameters?, if_pos areShort, parts]
  clear parts isWhole areShort notNone
  induction parameters with
  | nil => rfl
  | cons entry parameters ih =>
      obtain ⟨⟨isName, isValue⟩, areParameters⟩ := List.forall_mem_cons.1 areParameters
      rw [List.map_cons, List.mapM_cons, parameter?_parameterPart isName isValue, ih areParameters]
      rfl

theorem equals_mem_parameterText {parameters : List (String × String)} (notNone : parameters ≠ []) :
    '=' ∈ (parameterText parameters).toList := by
  rw [toList_parameterText]
  match parameters, notNone with
  | [entry], _ => simp [parameterPart]
  | entry :: next :: rest, _ => simp [parameterPart, List.intercalate_cons_cons]

theorem parseParameters_fields (isWritable : stored.IsWritable) :
    parseParameters stored.algorithm stored.version
      (parameterFields stored.parameters ++ tailFields stored.salt stored.digest)
      = some stored := by
  have isRead := parseTail_tailFields isWritable
  rw [parameterFields]
  split
  next isNone =>
    rw [List.isEmpty_iff.1 isNone] at isRead
    rw [List.nil_append]
    cases isTail : tailFields stored.salt stored.digest with
    | nil => rwa [isTail] at isRead
    | cons field rest =>
        have noMark : '=' ∉ field :=
          equals_notMem_tailFields isWritable.isSalt (isTail ▸ List.mem_cons_self)
        rw [isTail] at isRead
        simpa [parseParameters, noMark] using isRead
  next isSome =>
    have notNone : stored.parameters ≠ [] := mt List.isEmpty_iff.2 isSome
    have areRead : parameters? (parameterText stored.parameters).toList = some stored.parameters :=
      parameters?_parameterText notNone isWritable.areParameters isWritable.areShort
    simpa [parseParameters, equals_mem_parameterText notNone, areRead] using isRead

/-- A field without an equals sign is no version. -/
theorem isVersionField_of_notMem (noMark : '=' ∉ cs) : isVersionField cs = false := by
  rw [isVersionField, Bool.and_eq_false_iff]
  refine .inl (Bool.eq_false_iff.2 fun isPrefix => noMark ?_)
  obtain ⟨rest, rfl⟩ := List.isPrefixOf_iff_prefix.1 isPrefix
  simp

/-- Where a record has no version, none of its fields looks like one. -/
theorem isVersionField_of_mem (isWritable : stored.IsWritable) (noVersion : stored.version = none)
    (field : List Char)
    (isField : field ∈ parameterFields stored.parameters ++ tailFields stored.salt stored.digest) :
    isVersionField field = false := by
  rcases List.mem_append.1 isField with isParameters | isTail
  · rw [parameterFields] at isParameters
    split at isParameters
    · cases isParameters
    · obtain rfl := List.mem_singleton.1 isParameters
      exact isWritable.noOtherVersion noVersion
  · exact isVersionField_of_notMem (equals_notMem_tailFields isWritable.isSalt isTail)

theorem parseVersion_fields (isWritable : stored.IsWritable) :
    parseVersion stored.algorithm (versionFields stored.version
      ++ (parameterFields stored.parameters ++ tailFields stored.salt stored.digest))
      = some stored := by
  have isRead := parseParameters_fields isWritable
  cases isVersion : stored.version with
  | none =>
      rw [isVersion] at isRead
      have noVersion := isVersionField_of_mem isWritable isVersion
      rw [versionFields, Option.map_none, Option.toList_none, List.nil_append]
      cases others : parameterFields stored.parameters ++ tailFields stored.salt stored.digest with
      | nil => rwa [others] at isRead
      | cons field rest =>
          rw [others] at isRead noVersion
          rw [parseVersion, noVersion field List.mem_cons_self]
          exact isRead
  | some version =>
      have small := isWritable.isVersion version isVersion
      rw [isVersion] at isRead
      have looksLikeVersion : isVersionField (['v', '='] ++ (toString version).toList) = true := by
        have noComma : ',' ∉ (toString version).toList :=
          notMem_of_all (all_of_isValue (isValue_toString small)) rfl
        simpa [isVersionField] using noComma
      rw [versionFields, Option.map_some, Option.toList_some, List.singleton_append, parseVersion,
        if_pos looksLikeVersion]
      simpa only [List.cons_append, List.nil_append, List.drop_succ_cons, List.drop_zero,
        isValue_toString small, if_true, decimal?_toString small, Option.bind_eq_bind,
        Option.bind_some] using isRead

/-! ## Reading the text -/

/-- Parameters hold no dollar sign, nor does what is written between them. -/
theorem dollar_notMem_parameterText {parameters : List (String × String)}
    (areParameters : ∀ entry ∈ parameters,
      isName entry.1.toList = true ∧ isValue entry.2.toList = true) :
    '$' ∉ (parameterText parameters).toList := by
  rw [toList_parameterText]
  induction parameters with
  | nil => exact List.not_mem_nil
  | cons entry parameters ih =>
      obtain ⟨⟨isName, isValue⟩, areParameters⟩ := List.forall_mem_cons.1 areParameters
      have notInPart : '$' ∉ parameterPart entry := by
        simp [parameterPart, notMem_of_all (all_of_isName isName) (c := '$') rfl,
          notMem_of_all (all_of_isValue isValue) (c := '$') rfl]
      cases parameters with
      | nil => simpa using notInPart
      | cons next parameters =>
          simpa [List.intercalate_cons_cons, notInPart] using ih areParameters

/-- No field holds a dollar sign. -/
theorem dollar_notMem_fields (isWritable : stored.IsWritable) {field : List Char}
    (isField : field ∈ stored.fields) : '$' ∉ field := by
  rcases List.mem_cons.1 isField with rfl | isField
  · exact notMem_of_all (all_of_isName isWritable.isAlgorithm) rfl
  rcases List.mem_append.1 isField with isField | isField
  · obtain ⟨version, isVersion, rfl⟩ := Option.map_eq_some_iff.1 (Option.mem_toList.1 isField)
    have small := isWritable.isVersion version isVersion
    simpa using notMem_of_all (all_of_isValue (isValue_toString small)) (c := '$') rfl
  rcases List.mem_append.1 isField with areParameters | isTail
  · rw [parameterFields] at areParameters
    split at areParameters
    · cases areParameters
    · obtain rfl := List.mem_singleton.1 areParameters
      exact dollar_notMem_parameterText isWritable.areParameters
  rcases List.mem_append.1 isTail with isSalt | isDigest
  · obtain ⟨text, isText, rfl⟩ := Option.map_eq_some_iff.1 (Option.mem_toList.1 isSalt)
    exact notMem_of_all (all_of_isValue (isValue_of_isSalt (isWritable.isSalt text isText))) rfl
  · obtain ⟨bytes, -, rfl⟩ := Option.map_eq_some_iff.1 (Option.mem_toList.1 isDigest)
    exact notMem_of_all (all_isValueChar_encode bytes) rfl

/-- **The text of a record is read as the record.** -/
theorem parse?_render (isWritable : stored.IsWritable) : parse? stored.render = some stored := by
  have isWhole : ∀ field ∈ [] :: stored.fields, '$' ∉ field :=
    List.forall_mem_cons.2 ⟨List.not_mem_nil, fun _ => dollar_notMem_fields isWritable⟩
  rw [parse?, toList_render, Text.splitOn_intercalate (List.cons_ne_nil _ _) isWhole]
  simpa [fields, isWritable.isAlgorithm] using parseVersion_fields isWritable

end Gatehouse.PhcString
