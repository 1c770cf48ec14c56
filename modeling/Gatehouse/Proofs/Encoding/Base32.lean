import Mathlib.Algebra.Ring.Nat
import Mathlib.Data.List.Induction
import Gatehouse.Encoding.Base32

/-!
# Base 32 loses nothing

Eight bits to a byte and five to a character do not come out even, so a byte string is shifted until
its last bit lands on a character boundary.  All of its bits are then below the weight of the
characters it takes (`shifted_lt`), and both the characters and the number they stand for can be
read back (`numberOfDigits_digits`, `bytesOfNumber_numberOfBytes`).  Byte strings of one length are
therefore told apart by their texts (`encode_inj`).

The shift leaves its mark on the last character: the five bits of it that the bytes do not reach are
zero (`getLast?_encode`).
-/

namespace Gatehouse.Encoding.Base32

set_option autoImplicit false

/-! ## Characters -/

/-- The letters and digits that texts in base 32 are made of. -/
def isLetter (c : Char) : Bool :=
  ('A' ≤ c && c ≤ 'Z') || ('2' ≤ c && c ≤ '7')

theorem isLetter_of_mem_encode {bytes : List UInt8} {c : Char} (inText : c ∈ encode bytes) :
    isLetter c = true := by
  have isLetter : ∀ digit < 32, isLetter (digitChar digit) = true := by decide
  obtain ⟨digit, isDigit, rfl⟩ := List.mem_map.1 inText
  exact isLetter digit (lt_of_mem_digits isDigit)

theorem digitChar_inj : ∀ former < 32, ∀ latter < 32,
    digitChar former = digitChar latter → former = latter := by
  decide

/-- Digits are told apart by their characters. -/
theorem map_digitChar_inj {former latter : List Nat} (isFormer : ∀ digit ∈ former, digit < 32)
    (isLatter : ∀ digit ∈ latter, digit < 32)
    (same : former.map digitChar = latter.map digitChar) : former = latter := by
  induction former generalizing latter with
  | nil => exact (List.map_eq_nil_iff.1 same.symm).symm
  | cons digit former ih =>
      cases latter with
      | nil => cases same
      | cons digit' latter =>
          obtain ⟨sameHead, sameTail⟩ := List.cons.inj same
          rw [List.forall_mem_cons] at isFormer isLatter
          rw [digitChar_inj digit isFormer.1 digit' isLatter.1 sameHead,
            ih isFormer.2 isLatter.2 sameTail]

/-! ## Digits and bytes of a number -/

/-- The number that digits in base 32 stand for, most significant first. -/
def numberOfDigits (digits : List Nat) : Nat :=
  digits.foldl (fun number digit => number * 32 + digit) 0

/-- The last digits of a number stand for what they keep of it. -/
theorem numberOfDigits_digits (count value : Nat) :
    numberOfDigits (digits count value) = value % 32 ^ count := by
  induction count generalizing value with
  | zero => simp [digits, numberOfDigits, Nat.mod_one]
  | succ count ih =>
      have earlier : (digits count (value / 32)).foldl (fun number digit => number * 32 + digit) 0 =
          value / 32 % 32 ^ count := ih (value / 32)
      rw [digits, numberOfDigits, List.foldl_append, earlier, Nat.pow_succ', Nat.mod_mul]
      simp only [List.foldl_cons, List.foldl_nil]
      omega

/-- The last `count` bytes of a number, most significant first. -/
def bytesOfNumber : Nat → Nat → List UInt8
  | 0, _ => []
  | count + 1, number => bytesOfNumber count (number / 256) ++ [UInt8.ofNat number]

theorem numberOfBytes_concat (bytes : List UInt8) (byte : UInt8) :
    numberOfBytes (bytes ++ [byte]) = numberOfBytes bytes * 256 + byte.toNat := by
  simp [numberOfBytes]

theorem numberOfBytes_lt (bytes : List UInt8) : numberOfBytes bytes < 256 ^ bytes.length := by
  induction bytes using List.reverseRecOn with
  | nil => decide
  | append_singleton bytes byte ih =>
      have bound := byte.toNat_lt
      rw [numberOfBytes_concat, List.length_append, List.length_singleton, Nat.pow_succ]
      omega

/-- A byte string is read back from the number it stands for. -/
theorem bytesOfNumber_numberOfBytes (bytes : List UInt8) :
    bytesOfNumber bytes.length (numberOfBytes bytes) = bytes := by
  induction bytes using List.reverseRecOn with
  | nil => rfl
  | append_singleton bytes byte ih =>
      have bound := byte.toNat_lt
      have earlier : (numberOfBytes bytes * 256 + byte.toNat) / 256 = numberOfBytes bytes := by
        omega
      have last : UInt8.ofNat (numberOfBytes bytes * 256 + byte.toNat) = byte := by
        rw [← UInt8.toNat_inj, UInt8.toNat_ofNat']
        omega
      rw [numberOfBytes_concat, List.length_append, List.length_singleton, bytesOfNumber, earlier,
        ih, last]

/-! ## Texts -/

/-- How far the number of a byte string is shifted. -/
def shift (size : Nat) : Nat :=
  5 * digitCount size - 8 * size

theorem shift_add (size : Nat) : 8 * size + shift size = 5 * digitCount size := by
  simp only [shift, digitCount]
  omega

theorem encode_eq (bytes : List UInt8) :
    encode bytes = (digits (digitCount bytes.length)
      (numberOfBytes bytes * 2 ^ shift bytes.length)).map digitChar := rfl

/-- The characters of a byte string have room for its shifted number. -/
theorem shifted_lt (bytes : List UInt8) :
    numberOfBytes bytes * 2 ^ shift bytes.length < 32 ^ digitCount bytes.length := by
  calc numberOfBytes bytes * 2 ^ shift bytes.length
      < 256 ^ bytes.length * 2 ^ shift bytes.length :=
        Nat.mul_lt_mul_of_pos_right (numberOfBytes_lt bytes) (Nat.two_pow_pos _)
    _ = 2 ^ (8 * bytes.length + shift bytes.length) := by rw [Nat.pow_add, Nat.pow_mul]
    _ = 32 ^ digitCount bytes.length := by rw [shift_add, Nat.pow_mul]

/-- Byte strings of one length with the same text are the same. -/
theorem encode_inj {former latter : List UInt8} (sameLength : former.length = latter.length)
    (same : encode former = encode latter) : former = latter := by
  rw [encode_eq, encode_eq] at same
  have sameDigits := map_digitChar_inj (fun _ => lt_of_mem_digits) (fun _ => lt_of_mem_digits) same
  have sameShifted := congrArg numberOfDigits sameDigits
  rw [numberOfDigits_digits, numberOfDigits_digits, Nat.mod_eq_of_lt (shifted_lt former),
    Nat.mod_eq_of_lt (shifted_lt latter), sameLength] at sameShifted
  have sameNumber : numberOfBytes former = numberOfBytes latter :=
    Nat.eq_of_mul_eq_mul_right (Nat.two_pow_pos _) sameShifted
  rw [← bytesOfNumber_numberOfBytes former, sameLength, sameNumber, bytesOfNumber_numberOfBytes]

/-- The last character holds the last bits of the bytes, in front of as many zeros as the shift has
put there. -/
theorem getLast?_encode {bytes : List UInt8} (notEmpty : bytes ≠ []) :
    (encode bytes).getLast? = some (digitChar
      (numberOfBytes bytes % 2 ^ (5 - shift bytes.length) * 2 ^ shift bytes.length)) := by
  have size := List.length_pos_iff.2 notEmpty
  obtain ⟨count, isCount⟩ : ∃ count, digitCount bytes.length = count + 1 :=
    Nat.exists_eq_add_one.2 (by rw [digitCount]; omega)
  have isShort : shift bytes.length ≤ 5 := by
    rw [shift, digitCount]
    omega
  have split : 32 = 2 ^ (5 - shift bytes.length) * 2 ^ shift bytes.length := by
    rw [← Nat.pow_add, Nat.sub_add_cancel isShort]
  rw [encode_eq, isCount, digits, List.getLast?_map, List.getLast?_concat, Option.map_some]
  conv_lhs => rw [split, Nat.mul_mod_mul_right]

end Gatehouse.Encoding.Base32
