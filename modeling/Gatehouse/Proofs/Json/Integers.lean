import Gatehouse.Proofs.Json.Numbers

/-!
# Integers

An integer is written in decimal digits without a leading zero, behind a minus sign if it is
negative.  That is a number as the grammar knows it (`integerText`), and it is small enough for the
reader as long as its digits come to less than 2^64 (`isWithin_ofInt`): all of them are leading
digits then, and no power of ten has to make up for any.
-/

namespace Gatehouse.Json

set_option autoImplicit false

/-! ## Decimal digits -/

/-- The decimal digits of a number. -/
def decimalBytes (number : Nat) : List UInt8 :=
  (Nat.toDigits 10 number).map fun c => UInt8.ofNat c.toNat

/-- The last digit stands behind those of the tenth part. -/
theorem decimalBytes_eq (number : Nat) :
    decimalBytes number = (if number < 10 then [] else decimalBytes (number / 10))
      ++ [UInt8.ofNat (0x30 + number % 10)] := by
  have digit : ∀ value < 10,
      UInt8.ofNat (Nat.digitChar value).toNat = UInt8.ofNat (0x30 + value) := by
    decide
  rw [decimalBytes, Nat.toDigits_eq_if (by decide)]
  split
  · rename_i small
    simp [digit number small, Nat.mod_eq_of_lt small]
  · simp [decimalBytes, digit (number % 10) (Nat.mod_lt number (by decide))]

theorem digit_of_lt : ∀ value < 10, isDigit (UInt8.ofNat (0x30 + value)) = true ∧
    digitValue (UInt8.ofNat (0x30 + value)) = value := by
  decide

theorem digits_decimalBytes (number : Nat) : Digits (decimalBytes number) := by
  induction number using Nat.strongRecOn with
  | ind number ih =>
      intro byte present
      rw [decimalBytes_eq] at present
      rcases List.mem_append.1 present with earlier | last
      · split at earlier
        · cases earlier
        · exact ih (number / 10) (by omega) byte earlier
      · rw [List.mem_singleton.1 last]
        exact (digit_of_lt (number % 10) (Nat.mod_lt number (by decide))).1

theorem appendDigits_append (number : Nat) (digits digits' : List UInt8) :
    appendDigits number (digits ++ digits') = appendDigits (appendDigits number digits) digits' :=
  List.foldl_append

/-- The decimal digits of a number write it. -/
theorem appendDigits_decimalBytes (number : Nat) :
    appendDigits 0 (decimalBytes number) = number := by
  induction number using Nat.strongRecOn with
  | ind number ih =>
      have last := (digit_of_lt (number % 10) (Nat.mod_lt number (by decide))).2
      rw [decimalBytes_eq, appendDigits_append]
      split
      · simp only [appendDigits, List.foldl_nil, List.foldl_cons, last]
        omega
      · rw [ih (number / 10) (by omega)]
        simp only [appendDigits, List.foldl_nil, List.foldl_cons, last]
        omega

theorem decimalBytes_ne_nil (number : Nat) : decimalBytes number ≠ [] := by
  rw [decimalBytes_eq]
  exact List.append_ne_nil_of_right_ne_nil _ (List.cons_ne_nil _ _)

/-- Only zero is written with a zero in front. -/
theorem eq_zero_of_head_decimalBytes {number : Nat}
    (isZero : (decimalBytes number).head? = some 0x30) : number = 0 := by
  induction number using Nat.strongRecOn with
  | ind number ih =>
      rw [decimalBytes_eq] at isZero
      split at isZero
      · rename_i small
        have digit : ∀ value < 10, UInt8.ofNat (0x30 + value % 10) = 0x30 → value = 0 := by decide
        exact digit number small (by simpa using isZero)
      · rename_i large
        rw [List.head?_append, List.head?_eq_some_head (decimalBytes_ne_nil (number / 10)),
          Option.some_or, ← List.head?_eq_some_head] at isZero
        have tenth := ih (number / 10) (by omega) isZero
        omega

/-- The digits of a number are the bytes of its decimal text. -/
theorem map_decimalBytes (number : Nat) :
    (decimalBytes number).map (fun byte => Char.ofNat byte.toNat) = Nat.toDigits 10 number := by
  rw [decimalBytes, List.map_map]
  refine (List.map_congr_left fun c isDigit => ?_).trans (List.map_id _)
  have small : c.toNat < 256 := by
    have digit := Nat.isDigit_of_mem_toDigits (by decide) (by decide) isDigit
    exact Nat.lt_of_le_of_lt (Char.isDigit_iff_toNat.1 digit).2 (by decide)
  simp [Nat.mod_eq_of_lt small]

/-! ## The text of an integer -/

/-- An integer as it is written. -/
def integerText (value : Int) : NumberText where
  isNegative := decide (value < 0)
  whole := decimalBytes value.natAbs
  fraction := []
  exponent := none
  isWhole := digits_decimalBytes value.natAbs
  isWritten := decimalBytes_ne_nil value.natAbs
  noLeadingZero := by
    intro isZero
    rw [eq_zero_of_head_decimalBytes isZero]
    rfl
  isFraction := fun _ absent => nomatch absent

/-- An integer is printed as it is written. -/
theorem literal_integerText (value : Int) : (integerText value).literal = toString value := by
  rw [NumberText.literal, Int.toString_eq_repr, Int.repr_eq_if]
  by_cases isNegative : value < 0
  · have written : (integerText value).bytes = 0x2d :: decimalBytes (-value).toNat := by
      have same : value.natAbs = (-value).toNat := by omega
      simp [NumberText.bytes, NumberText.fractionBytes, NumberText.exponentBytes, integerText,
        isNegative, same]
    rw [if_neg (by omega), written, List.map_cons, map_decimalBytes, Nat.repr_eq_ofList_toDigits,
      String.ofList_cons]
    rfl
  · have written : (integerText value).bytes = decimalBytes value.toNat := by
      have same : value.natAbs = value.toNat := by omega
      simp [NumberText.bytes, NumberText.fractionBytes, NumberText.exponentBytes, integerText,
        isNegative, same]
    rw [if_pos (by omega), written, map_decimalBytes, Nat.repr_eq_ofList_toDigits]

/-! ## The size of an integer -/

/-- All digits are leading ones if they come to a number that fits. -/
theorem leading_eq_appendDigits {number : Nat} {digits : List UInt8}
    (fits : appendDigits number digits ≤ Numeral.significandLimit) :
    NumberText.leading number digits = (appendDigits number digits, digits.length) := by
  induction digits generalizing number with
  | nil => rfl
  | cons digit digits ih =>
      rw [Numeral.appendDigits_cons] at fits
      have small : ¬ number * 10 + digitValue digit > Numeral.significandLimit :=
        Nat.not_lt.2 (Nat.le_trans (Numeral.le_appendDigits _ digits) fits)
      rw [Numeral.leading_of_fits small, ih fits, Numeral.appendDigits_cons, List.length_cons]

/-- Rounding at most doubles a number. -/
theorem roundedToDouble_le {value : Nat} (notZero : value ≠ 0) :
    Number.roundedToDouble value ≤ 2 * value := by
  have unit : Nat.pow 2 (value.log2 + 1 - 53) ≤ value :=
    Nat.le_trans (Nat.pow_le_pow_right (by decide) (by omega)) (Nat.log2_self_le notZero)
  have quotient := Nat.div_mul_le_self value (Nat.pow 2 (value.log2 + 1 - 53))
  simp only [Number.roundedToDouble]
  repeat' split
  all_goals first | omega | (rw [Nat.add_mul]; omega)

/-- A number below 2^64 is small enough. -/
theorem scaledIsFinite_of_lt {value : Nat} (small : value < UInt64.size) :
    Number.scaledIsFinite value 0 = true := by
  by_cases isZero : value = 0
  · simp [Number.scaledIsFinite, isZero]
  · have rounded := roundedToDouble_le isZero
    have bound : 2 * UInt64.size ≤ Number.doubleOverflow := by decide +kernel
    have one : Number.roundedToDouble 1 = 1 := rfl
    have finite : Number.roundedToDouble value < Number.doubleOverflow := by omega
    simp [Number.scaledIsFinite, Number.largestPower, isZero, one, finite]

/-- An integer below 2^64 on either side of zero is small enough. -/
theorem isInRange_integerText {value : Int} (small : value.natAbs < UInt64.size) :
    (integerText value).IsInRange := by
  have fits : appendDigits 0 (decimalBytes value.natAbs) ≤ Numeral.significandLimit := by
    rw [appendDigits_decimalBytes]
    exact Nat.le_of_lt_succ small
  have leading := leading_eq_appendDigits fits
  rw [appendDigits_decimalBytes] at leading
  have finite := scaledIsFinite_of_lt small
  simpa [NumberText.IsInRange, NumberText.significand, NumberText.scale, integerText, leading,
    NumberText.leading] using finite

/-- **An integer below 2^64 on either side of zero is within the limits of the reader.** -/
theorem isWithin_ofInt {value : Int} (small : value.natAbs < UInt64.size) (depth : Nat) :
    IsWithin depth (.ofInt value) := by
  have within := IsWithin.number depth (integerText value) (isInRange_integerText small)
  rwa [literal_integerText] at within

end Gatehouse.Json
