/-!
# Base 32

The unpadded base-32 text of a byte string, over the letters A to Z and the digits 2 to 7.  The
bytes are read as one number, most significant byte first; the number is shifted so that its last
bit lands on a digit boundary, and its base-32 digits are written out, most significant first.
-/

namespace Gatehouse.Encoding.Base32

set_option autoImplicit false

/-- The character of a digit below 32. -/
def digitChar (digit : Nat) : Char :=
  if digit < 26 then Char.ofNat (65 + digit) else Char.ofNat (24 + digit)

/-- The last `count` digits of a number in base 32, most significant first. -/
def digits : Nat → Nat → List Nat
  | 0, _ => []
  | count + 1, value => digits count (value / 32) ++ [value % 32]

/-- The number a byte string stands for, most significant byte first. -/
def numberOfBytes (bytes : List UInt8) : Nat :=
  bytes.foldl (fun number byte => number * 256 + byte.toNat) 0

/-- How many digits a byte string takes. -/
def digitCount (size : Nat) : Nat :=
  (8 * size + 4) / 5

/-- The base-32 characters of a byte string. -/
def encode (bytes : List UInt8) : List Char :=
  let count := digitCount bytes.length
  let shift := 5 * count - 8 * bytes.length
  (digits count (numberOfBytes bytes * Nat.pow 2 shift)).map digitChar

theorem length_digits (count value : Nat) : (digits count value).length = count := by
  induction count generalizing value with
  | zero => rfl
  | succ count ih => rw [digits, List.length_append, ih, List.length_singleton]

theorem lt_of_mem_digits {count value digit : Nat} (isDigit : digit ∈ digits count value) :
    digit < 32 := by
  induction count generalizing value with
  | zero => cases isDigit
  | succ count ih =>
      rcases List.mem_append.1 isDigit with isEarlier | isLast
      · exact ih isEarlier
      · rw [List.mem_singleton.1 isLast]
        exact Nat.mod_lt value (by decide)

/-- A byte string takes as many characters as its size says. -/
theorem length_encode (bytes : List UInt8) : (encode bytes).length = digitCount bytes.length := by
  rw [encode, List.length_map, length_digits]

theorem toNat_of_mem_encode {bytes : List UInt8} {c : Char} (inText : c ∈ encode bytes) :
    c.toNat < 128 := by
  have isAscii : ∀ digit < 32, (digitChar digit).toNat < 128 := by decide
  obtain ⟨digit, isDigit, rfl⟩ := List.mem_map.1 inText
  exact isAscii digit (lt_of_mem_digits isDigit)

theorem isAlphanum_of_mem_encode {bytes : List UInt8} {c : Char} (inText : c ∈ encode bytes) :
    c.isAlphanum = true := by
  have isAlphanum : ∀ digit < 32, (digitChar digit).isAlphanum = true := by decide
  obtain ⟨digit, isDigit, rfl⟩ := List.mem_map.1 inText
  exact isAlphanum digit (lt_of_mem_digits isDigit)

end Gatehouse.Encoding.Base32
