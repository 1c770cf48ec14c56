import Mathlib.Data.List.Induction
import Gatehouse.Number.Digits

/-!
# What numerals stand for

A numeral is a digit, or a numeral with one more digit behind it; that digit counts once and what
stands before it as many times as the base says (`Numeral`).  Reading digits finds the number of a
numeral and refuses every other text (`ofDigits?_eq_some_iff`), and the digits that a number is
written in are one of its numerals, in which no zero is idle (`numeral_toDigits`,
`eq_zero_of_head?_toDigits`).
-/

namespace Gatehouse.Number

set_option autoImplicit false

/-- Whether a character is a digit of a base and stands for a number; letters may be of either
case. -/
def IsDigit (base : Nat) (c : Char) (value : Nat) : Prop :=
  value < base ∧ (c = Nat.digitChar value ∨ c = (Nat.digitChar value).toUpper)

/-- Whether characters are a numeral of a number in a base. -/
inductive Numeral (base : Nat) : List Char → Nat → Prop
  | digit {c : Char} {value : Nat} (isDigit : IsDigit base c value) : Numeral base [c] value
  | snoc {cs : List Char} {c : Char} {number value : Nat} (numeral : Numeral base cs number)
      (isDigit : IsDigit base c value) : Numeral base (cs ++ [c]) (number * base + value)

/-! ## Digits -/

theorem digitValue?_digitChar : ∀ value < 16,
    digitValue? (Nat.digitChar value) = some value ∧
      digitValue? (Nat.digitChar value).toUpper = some value := by
  decide

/-- A digit that is found is one of those that there are. -/
theorem digit_of_digitValue? {c : Char} {value : Nat} (isFound : digitValue? c = some value) :
    value < 16 ∧ (c = Nat.digitChar value ∨ c = (Nat.digitChar value).toUpper) := by
  have few : ∀ code < 128, ∀ value ∈ digitValue? (Char.ofNat code), value < 16 ∧
      (Char.ofNat code = Nat.digitChar value ∨
        Char.ofNat code = (Nat.digitChar value).toUpper) := by
    decide +kernel
  have isAscii : c.toNat < 128 := by
    unfold digitValue? at isFound
    split at isFound
    next isWithin => exact Nat.lt_of_le_of_lt (Char.le_def.1 isWithin.2) (by decide)
    next =>
      split at isFound
      next isWithin => exact Nat.lt_of_le_of_lt (Char.le_def.1 isWithin.2) (by decide)
      next =>
        split at isFound
        next isWithin => exact Nat.lt_of_le_of_lt (Char.le_def.1 isWithin.2) (by decide)
        next => cases isFound
  have isFewDigit := few c.toNat isAscii value
  rw [Char.ofNat_toNat] at isFewDigit
  exact isFewDigit isFound

/-- The digits that are found are those that there are. -/
theorem digitValue?_eq_some_iff {c : Char} {value : Nat} :
    digitValue? c = some value ↔
      value < 16 ∧ (c = Nat.digitChar value ∨ c = (Nat.digitChar value).toUpper) := by
  constructor
  · exact digit_of_digitValue?
  · rintro ⟨isSmall, rfl | rfl⟩
    · exact (digitValue?_digitChar value isSmall).1
    · exact (digitValue?_digitChar value isSmall).2

/-! ## Reading -/

theorem ofDigits_concat (base : Nat) (cs : List Char) (c : Char) :
    ofDigits base (cs ++ [c]) = ofDigits base cs * base + (digitValue? c).getD 0 := by
  rw [ofDigits, List.foldl_append]
  rfl

section

variable {base : Nat} (isBase : base ≤ 16) {cs : List Char} {number : Nat}

include isBase

theorem isDigit_iff {c : Char} {value : Nat} :
    IsDigit base c value ↔ digitValue? c = some value ∧ value < base := by
  rw [digitValue?_eq_some_iff, IsDigit]
  constructor
  · rintro ⟨isSmall, isChar⟩
    exact ⟨⟨Nat.lt_of_lt_of_le isSmall isBase, isChar⟩, isSmall⟩
  · rintro ⟨⟨-, isChar⟩, isSmall⟩
    exact ⟨isSmall, isChar⟩

theorem isDigitIn_iff {c : Char} : isDigitIn base c = true ↔ ∃ value, IsDigit base c value := by
  simp only [isDigit_iff isBase]
  cases isFound : digitValue? c <;> simp [isDigitIn, isFound]

theorem Numeral.ofDigits_eq (numeral : Numeral base cs number) : ofDigits base cs = number := by
  induction numeral with
  | @digit c value isDigit =>
      have isValue := ((isDigit_iff isBase).1 isDigit).1
      simp [ofDigits, isValue]
  | @snoc cs c number value _ isDigit ih =>
      have isValue := ((isDigit_iff isBase).1 isDigit).1
      rw [ofDigits_concat, ih, isValue, Option.getD_some]

theorem Numeral.areDigits (numeral : Numeral base cs number) :
    ∀ c ∈ cs, isDigitIn base c = true := by
  induction numeral with
  | digit isDigit => exact List.forall_mem_singleton.2 ((isDigitIn_iff isBase).2 ⟨_, isDigit⟩)
  | snoc _ isDigit ih =>
      intro d isThere
      rcases List.mem_append.1 isThere with isBefore | isLast
      · exact ih d isBefore
      · rw [List.mem_singleton.1 isLast]
        exact (isDigitIn_iff isBase).2 ⟨_, isDigit⟩

omit isBase in
theorem Numeral.ne_nil (numeral : Numeral base cs number) : cs ≠ [] := by
  cases numeral <;> simp

/-- Digits are the numeral of the number that they are read as. -/
theorem numeral_ofDigits (notEmpty : cs ≠ []) (areDigits : ∀ c ∈ cs, isDigitIn base c = true) :
    Numeral base cs (ofDigits base cs) := by
  induction cs using List.reverseRecOn with
  | nil => exact absurd rfl notEmpty
  | append_singleton front c ih =>
      obtain ⟨frontIsDigits, isLast⟩ := List.forall_mem_append.1 areDigits
      obtain ⟨value, isDigit⟩ := (isDigitIn_iff isBase).1 (isLast c List.mem_cons_self)
      have isValue : (digitValue? c).getD 0 = value := by
        rw [((isDigit_iff isBase).1 isDigit).1, Option.getD_some]
      rw [ofDigits_concat, isValue]
      by_cases isEmpty : front = []
      · subst isEmpty
        simpa [ofDigits] using Numeral.digit isDigit
      · exact (ih isEmpty frontIsDigits).snoc isDigit

/-- Exactly the numerals are read, each as its number. -/
theorem ofDigits?_eq_some_iff : ofDigits? base cs = some number ↔ Numeral base cs number := by
  have isRead : ofDigits? base cs = some number ↔
      cs ≠ [] ∧ (∀ c ∈ cs, isDigitIn base c = true) ∧ ofDigits base cs = number := by
    simp [ofDigits?, and_assoc]
  rw [isRead]
  constructor
  · rintro ⟨notEmpty, areDigits, rfl⟩
    exact numeral_ofDigits isBase notEmpty areDigits
  · intro numeral
    exact ⟨numeral.ne_nil, numeral.areDigits isBase, numeral.ofDigits_eq isBase⟩

end

/-- A numeral is less than what it would take a digit more to write. -/
theorem Numeral.lt_pow {base : Nat} {cs : List Char} {number : Nat}
    (numeral : Numeral base cs number) : number < Nat.pow base cs.length := by
  induction numeral with
  | digit isDigit => simpa using isDigit.1
  | @snoc cs c number value _ isDigit ih =>
      have isSmall := isDigit.1
      calc
        number * base + value < (number + 1) * base := by rw [Nat.add_mul]; omega
        _ ≤ Nat.pow base cs.length * base := Nat.mul_le_mul_right base ih
        _ = Nat.pow base (cs ++ [c]).length := by rw [List.length_append]; rfl

theorem decimalBelow?_eq_some_iff {limit number : Nat} {cs : List Char} :
    decimalBelow? limit cs = some number ↔ Numeral 10 cs number ∧ number < limit := by
  rw [decimalBelow?, Option.bind_eq_some_iff]
  constructor
  · rintro ⟨value, isRead, isWithin⟩
    split at isWithin
    next isSmall =>
      cases isWithin
      exact ⟨(ofDigits?_eq_some_iff (by decide)).1 isRead, isSmall⟩
    next => cases isWithin
  · rintro ⟨numeral, isSmall⟩
    exact ⟨number, (ofDigits?_eq_some_iff (by decide)).2 numeral, if_pos isSmall⟩

/-- A character that is no digit of any base is not in a numeral. -/
theorem Numeral.not_mem {base : Nat} (isBase : base ≤ 16) {cs : List Char} {number : Nat}
    (numeral : Numeral base cs number) {c : Char} (isOther : digitValue? c = none) : c ∉ cs := by
  intro isThere
  have isDigit := numeral.areDigits isBase c isThere
  rw [isDigitIn, isOther] at isDigit
  cases isDigit

/-! ## Writing -/

section

variable {base : Nat} (isBase : 1 < base)

include isBase

/-- The digits that a number is written in are a numeral of it. -/
theorem numeral_toDigits (number : Nat) : Numeral base (Nat.toDigits base number) number := by
  induction number using Nat.strongRecOn with
  | ind number ih =>
      rw [Nat.toDigits_eq_if isBase]
      split
      next isSmall => exact .digit ⟨isSmall, .inl rfl⟩
      next isLarge =>
        have isDigit : IsDigit base (Nat.digitChar (number % base)) (number % base) :=
          ⟨Nat.mod_lt number (by omega), .inl rfl⟩
        have shorter : number / base < number := Nat.div_lt_self (by omega) isBase
        have numeral := (ih (number / base) shorter).snoc isDigit
        rwa [Nat.div_add_mod'] at numeral

/-- Only zero is written with a zero in front. -/
theorem eq_zero_of_head?_toDigits {number : Nat}
    (isZero : (Nat.toDigits base number).head? = some '0') : number = 0 := by
  induction number using Nat.strongRecOn with
  | ind number ih =>
      rw [Nat.toDigits_eq_if isBase] at isZero
      split at isZero
      next isSmall => simpa using isZero
      next isLarge =>
        rw [List.head?_append, List.head?_eq_some_head Nat.toDigits_ne_nil, Option.some_or,
          ← List.head?_eq_some_head] at isZero
        have shorter : number / base < number := Nat.div_lt_self (by omega) isBase
        have isNothing := ih (number / base) shorter isZero
        exact absurd (Nat.div_eq_zero_iff_lt (by omega) |>.1 isNothing) isLarge

end

theorem numeral_toString (number : Nat) : Numeral 10 (toString number).toList number := by
  rw [Nat.toString_eq_repr, Nat.toList_repr]
  exact numeral_toDigits (by decide) number

end Gatehouse.Number
