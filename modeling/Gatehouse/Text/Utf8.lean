/-!
# The bytes of a text

Every limit of the service counts bytes, bodies and headers arrive as bytes, and digests are taken
of bytes.  Text is kept as `String`; this module is the one place that goes from a text to its
UTF-8 bytes and back.  `ofBytes?_bytes` says that reading the bytes of a text gives the text.
-/

namespace Gatehouse.Text

set_option autoImplicit false

/-- The UTF-8 bytes of a text. -/
def bytes (text : String) : List UInt8 :=
  text.toByteArray.data.toList

/-- The text whose UTF-8 bytes these are, if they are the bytes of a text. -/
def ofBytes? (source : List UInt8) : Option String :=
  String.fromUTF8? ⟨source.toArray⟩

/-- The number of bytes from a position on that make up characters, and those before it. -/
def validLengthFrom (source : ByteArray) (position : Nat) : Nat :=
  if position < source.size then
    match source.utf8DecodeChar? position with
    | some c => validLengthFrom source (position + c.utf8Size)
    | none => position
  else position
  termination_by source.size - position
  decreasing_by
    have := c.utf8Size_pos
    omega

/-- The number of bytes at the front that make up characters. -/
def validLength (source : List UInt8) : Nat :=
  validLengthFrom ⟨source.toArray⟩ 0

/-- Reading the bytes of a text gives the text. -/
theorem ofBytes?_bytes (text : String) : ofBytes? (bytes text) = some text := by
  have same : (⟨(bytes text).toArray⟩ : ByteArray) = text.toByteArray := by
    simp [bytes]
  rw [ofBytes?, same, String.fromUTF8?, dif_pos text.isValidUTF8]
  rfl

/-- Every byte is the number of a character. -/
theorem toNat_ofNat_byte (byte : UInt8) : (Char.ofNat byte.toNat).toNat = byte.toNat := by
  have bound := byte.toNat_lt
  rw [Char.ofNat, dif_pos (.inl (by omega))]
  rfl

/-- The bytes of a text are those of its characters, one after the other. -/
theorem bytes_ofList (cs : List Char) :
    bytes (String.ofList cs) = cs.flatMap String.utf8EncodeChar := by
  simp only [bytes, String.toByteArray_ofList, List.utf8Encode, List.data_toByteArray]

/-- An ASCII character takes one byte. -/
theorem utf8Size_of_ascii {c : Char} (isAscii : c.toNat < 128) : c.utf8Size = 1 := by
  rw [Char.utf8Size_eq_one_iff, UInt32.le_iff_toNat_le]
  exact Nat.le_of_lt_succ isAscii

/-- A text of ASCII characters has one byte for each of them. -/
theorem bytes_ofList_of_ascii {cs : List Char} (isAscii : ∀ c ∈ cs, c.toNat < 128) :
    bytes (String.ofList cs) = cs.map fun c => UInt8.ofNat c.toNat := by
  have encoded : cs.flatMap String.utf8EncodeChar = cs.map fun c => UInt8.ofNat c.toNat := by
    induction cs with
    | nil => rfl
    | cons c rest ih =>
        rw [List.flatMap_cons,
          String.utf8EncodeChar_eq_singleton (utf8Size_of_ascii (isAscii c (.head _))),
          ih fun d isLater => isAscii d (.tail _ isLater)]
        rfl
  rw [bytes_ofList, encoded]

/-- A text of ASCII characters is as long in bytes as in characters. -/
theorem utf8ByteSize_ofList_of_ascii {cs : List Char} (isAscii : ∀ c ∈ cs, c.toNat < 128) :
    (String.ofList cs).utf8ByteSize = cs.length := by
  induction cs with
  | nil => rfl
  | cons c rest ih =>
      rw [String.ofList_cons, String.utf8ByteSize_append, String.utf8ByteSize_singleton,
        utf8Size_of_ascii (isAscii c (.head _)), ih fun d isLater => isAscii d (.tail _ isLater),
        List.length_cons, Nat.add_comm]

end Gatehouse.Text
