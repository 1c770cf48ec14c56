import Gatehouse.Proofs.Json.Runs

/-!
# Reading numbers

A number is read part by part: the digits before the point, those behind it, and the exponent.
`Numeral.IsAt` says how far a number has been read before its exponent and what it comes to so far;
one lemma for each part says what the part adds.  The result is `reads_number`: a number that is
small enough leads from where a value may begin to a number in hand.
-/

namespace Gatehouse.Json

set_option autoImplicit false

/-! ## The text of a number -/

namespace NumberText

/-- Digits are ASCII characters. -/
theorem toNat_of_isDigit {byte : UInt8} (isDigit : isDigit byte = true) : byte.toNat < 128 := by
  simp only [Json.isDigit, Bool.and_eq_true, decide_eq_true_eq, UInt8.le_iff_toNat_le] at isDigit
  exact Nat.lt_of_le_of_lt isDigit.2 (by decide)

/-- A number is written in ASCII characters. -/
theorem toNat_of_mem_bytes (number : NumberText) {byte : UInt8} (present : byte ∈ number.bytes) :
    byte.toNat < 128 := by
  simp only [bytes, List.mem_append] at present
  rcases present with ((inSign | inWhole) | inFraction) | inExponent
  · split at inSign
    · rw [List.mem_singleton.1 inSign]
      decide
    · cases inSign
  · exact toNat_of_isDigit (number.isWhole byte inWhole)
  · rw [fractionBytes] at inFraction
    split at inFraction
    · cases inFraction
    · rcases List.mem_cons.1 inFraction with rfl | later
      · decide
      · exact toNat_of_isDigit (number.isFraction byte later)
  · rw [exponentBytes] at inExponent
    cases isExponent : number.exponent with
    | none => simp [isExponent] at inExponent
    | some exponent =>
        simp only [isExponent, Option.map_some, Option.getD_some, ExponentText.bytes,
          List.mem_append, List.mem_cons] at inExponent
        rcases inExponent with (rfl | inSign) | inDigits
        · rcases exponent.isMark with isMark | isMark <;> rw [isMark] <;> decide
        · rcases exponent.isSign with isSign | isSign | isSign <;> rw [isSign] at inSign
          · cases inSign
          · rw [List.mem_singleton.1 inSign]
            decide
          · rw [List.mem_singleton.1 inSign]
            decide
        · exact toNat_of_isDigit (exponent.isDigits byte inDigits)

/-- The bytes of a number are those of its text. -/
theorem bytes_literal (number : NumberText) : Text.bytes number.literal = number.bytes := by
  have isAscii : ∀ c ∈ number.bytes.map (fun byte => Char.ofNat byte.toNat), c.toNat < 128 := by
    intro c present
    obtain ⟨byte, isByte, rfl⟩ := List.mem_map.1 present
    rw [Text.toNat_ofNat_byte]
    exact number.toNat_of_mem_bytes isByte
  rw [literal, Text.bytes_ofList_of_ascii isAscii, List.map_map]
  simp [Function.comp_def, Text.toNat_ofNat_byte]

end NumberText

namespace Numeral

/-! ## Composing runs -/

/-- Whether bytes make one number of another. -/
inductive Takes : Numeral → List UInt8 → Numeral → Prop
  | nil (numeral : Numeral) : Takes numeral [] numeral
  | cons {numeral middle last : Numeral} {byte : UInt8} {bytes : List UInt8}
      (first : numeral.take byte = .more middle) (others : Takes middle bytes last) :
      Takes numeral (byte :: bytes) last

namespace Takes

variable {numeral middle last : Numeral} {byte : UInt8} {bytes bytes' : List UInt8}

theorem one (first : numeral.take byte = .more last) : Takes numeral [byte] last :=
  cons first (nil last)

theorem append (front : Takes numeral bytes middle) (back : Takes middle bytes' last) :
    Takes numeral (bytes ++ bytes') last := by
  induction front with
  | nil => exact back
  | cons first others ih => exact cons first (ih back)

/-- The reader takes the bytes of a number as the number does. -/
theorem reads (takes : Takes numeral bytes last) (stack : List Frame) :
    Reads ⟨stack, .number numeral⟩ bytes ⟨stack, .number last⟩ := by
  induction takes with
  | nil => exact .nil _
  | cons first others ih =>
      refine .cons ?_ ih
      simp [Reader.step, Reader.continueNumber, first]

end Takes

/-- Digits are taken without end by a number that each of them leaves as it is in some respect. -/
theorem takes_of_keeps {keeps : Numeral → Prop}
    (step : ∀ (numeral : Numeral) (digit : UInt8), keeps numeral → isDigit digit = true →
      ∃ next, numeral.take digit = .more next ∧ keeps next)
    {digits : List UInt8} (areDigits : Digits digits) {numeral : Numeral} (start : keeps numeral) :
    ∃ last, Takes numeral digits last ∧ keeps last := by
  induction digits generalizing numeral with
  | nil => exact ⟨numeral, .nil numeral, start⟩
  | cons digit digits ih =>
      obtain ⟨isDigit, others⟩ := List.forall_mem_cons.1 areDigits
      obtain ⟨next, taken, kept⟩ := step numeral digit start isDigit
      obtain ⟨last, takes, isLast⟩ := ih others kept
      exact ⟨last, .cons taken takes, isLast⟩

/-- A byte that a number takes is kept. -/
theorem reversed_of_take {numeral next : Numeral} {byte : UInt8}
    (taken : numeral.take byte = .more next) : next.reversed = byte :: numeral.reversed := by
  simp only [take, wholeDigit, fractionDigit, exponentDigit, afterDigits] at taken
  grind

/-- The bytes that a number takes are kept. -/
theorem Takes.reversed_eq {numeral last : Numeral} {bytes : List UInt8}
    (takes : Takes numeral bytes last) : last.reversed = bytes.reverse ++ numeral.reversed := by
  induction takes with
  | nil => rfl
  | cons first others ih => simp [ih, reversed_of_take first]

/-! ## The parts of a number -/

/-- How far a number has been read before its exponent, and what it comes to so far. -/
structure IsAt (numeral : Numeral) (phases : List Phase) (significand : Nat) (scale : Int) :
    Prop where
  phase_mem : numeral.phase ∈ phases
  significand_eq : numeral.significand = significand
  scale_eq : numeral.scale = scale
  exponent_eq : numeral.exponent = 0
  notNegative : numeral.exponentIsNegative = false

theorem IsAt.mono {numeral : Numeral} {phases phases' : List Phase} {significand : Nat}
    {scale : Int} (isAt : numeral.IsAt phases significand scale) (subset : phases ⊆ phases') :
    numeral.IsAt phases' significand scale :=
  { isAt with phase_mem := subset isAt.phase_mem }

/-- The phases in which the digits before the point may end. -/
def wholePhases : List Phase := [.zero, .whole, .places]

/-- The phases in which the digits behind the point may end, if there are any. -/
def decimalPhases : List Phase := [.zero, .whole, .places, .fraction, .surplus]

/-- A digit that no longer fits ends the leading digits. -/
theorem leading_of_exceeds {number : Nat} {digit : UInt8}
    (exceeds : number * 10 + digitValue digit > significandLimit) (digits : List UInt8) :
    NumberText.leading number (digit :: digits) = (number, 0) :=
  if_pos exceeds

/-- A digit that fits is a leading one. -/
theorem leading_of_fits {number : Nat} {digit : UInt8}
    (fits : ¬ number * 10 + digitValue digit > significandLimit) (digits : List UInt8) :
    NumberText.leading number (digit :: digits) =
      ((NumberText.leading (number * 10 + digitValue digit) digits).1,
        (NumberText.leading (number * 10 + digitValue digit) digits).2 + 1) :=
  if_neg fits

/-- Digits that no longer fit count as places. -/
theorem takes_places {digits : List UInt8} (areDigits : Digits digits)
    {numeral : Numeral} {significand : Nat} {scale : Int}
    (isAt : numeral.IsAt [.places] significand scale) :
    ∃ last, Takes numeral digits last ∧
      last.IsAt [.places] significand (scale + digits.length) := by
  induction digits generalizing numeral scale with
  | nil => exact ⟨numeral, .nil numeral, by simpa using isAt⟩
  | cons digit digits ih =>
      obtain ⟨first, others⟩ := List.forall_mem_cons.1 areDigits
      obtain ⟨phase, isSignificand, isScale, noExponent, notNegative⟩ := isAt
      let grown := { numeral with reversed := digit :: numeral.reversed, scale := numeral.scale + 1 }
      have step : numeral.take digit = .more grown := by
        simp [take, List.mem_singleton.1 phase, first, grown]
      have isGrown : grown.IsAt [.places] significand (scale + 1) :=
        ⟨phase, isSignificand, congrArg (· + 1) isScale, noExponent, notNegative⟩
      obtain ⟨last, takes, isLast⟩ := ih others isGrown
      refine ⟨last, .cons step takes, ?_⟩
      have length : scale + ((digit :: digits).length : Int) = scale + 1 + digits.length := by
        simp only [List.length_cons]
        omega
      exact length ▸ isLast

/-- Digits before the point are read on from a number as long as they fit. -/
theorem takes_whole {digits : List UInt8} (areDigits : Digits digits) {numeral : Numeral}
    {significand : Nat} {scale : Int} (isAt : numeral.IsAt [.whole] significand scale) :
    ∃ last, Takes numeral digits last ∧
      last.IsAt wholePhases (NumberText.leading significand digits).1
        (scale + (digits.length - (NumberText.leading significand digits).2 : Int)) := by
  induction digits generalizing numeral significand with
  | nil =>
      obtain ⟨phase, isSignificand, isScale, noExponent, notNegative⟩ := isAt
      refine ⟨numeral, .nil numeral, ?_, isSignificand, ?_, noExponent, notNegative⟩
      · simp [wholePhases, List.mem_singleton.1 phase]
      · simp [isScale, NumberText.leading]
  | cons digit digits ih =>
      obtain ⟨first, others⟩ := List.forall_mem_cons.1 areDigits
      obtain ⟨phase, isSignificand, isScale, noExponent, notNegative⟩ := isAt
      have step : numeral.take digit = .more (numeral.wholeDigit digit) := by
        simp [take, List.mem_singleton.1 phase, first]
      by_cases exceeds : significand * 10 + digitValue digit > significandLimit
      · have grown : numeral.wholeDigit digit = { numeral with
            reversed := digit :: numeral.reversed, phase := .places, scale := numeral.scale + 1 } := by
          simp only [wholeDigit, isSignificand, exceeds, if_true]
        have isGrown : (numeral.wholeDigit digit).IsAt [.places] significand (scale + 1) := by
          rw [grown]
          exact ⟨.head _, isSignificand, congrArg (· + 1) isScale, noExponent, notNegative⟩
        obtain ⟨last, takes, phase', isSignificand', isScale', rest, rest'⟩ := takes_places others isGrown
        rw [leading_of_exceeds exceeds]
        refine ⟨last, .cons step takes, ?_, isSignificand', ?_, rest, rest'⟩
        · simp [wholePhases, List.mem_singleton.1 phase']
        · simp only [isScale', List.length_cons]
          omega
      · have grown : numeral.wholeDigit digit = { numeral with
            reversed := digit :: numeral.reversed,
            significand := significand * 10 + digitValue digit } := by
          simp only [wholeDigit, isSignificand, exceeds, if_false]
        have isGrown : (numeral.wholeDigit digit).IsAt [.whole]
            (significand * 10 + digitValue digit) scale := by
          rw [grown]
          exact ⟨phase, rfl, isScale, noExponent, notNegative⟩
        obtain ⟨last, takes, phase', isSignificand', isScale', rest, rest'⟩ := ih others isGrown
        rw [leading_of_fits exceeds]
        refine ⟨last, .cons step takes, phase', isSignificand', ?_, rest, rest'⟩
        simp only [isScale', List.length_cons]
        omega

/-- A sign, if there is one, and the first digit before the point. -/
theorem takes_firstDigit (isNegative : Bool) {digit : UInt8} (isDigit : isDigit digit = true) :
    ∃ first rest numeral, (if isNegative then [0x2d] else []) ++ [digit] = first :: rest ∧
      (first = 0x2d ∨ Json.isDigit first = true) ∧ Takes (start first) rest numeral ∧
      numeral.IsAt [if digit = 0x30 then .zero else .whole] (digitValue digit) 0 := by
  have notMinus : digit ≠ 0x2d := fun same => by simp [same, Json.isDigit] at isDigit
  cases isNegative with
  | false =>
      refine ⟨digit, [], start digit, rfl, .inr isDigit, .nil _, ?_⟩
      by_cases isZero : digit = 0x30
      · subst isZero
        constructor <;> simp [start]
      · constructor <;> simp [start, notMinus, isZero]
  | true =>
      by_cases isZero : digit = 0x30
      · subst isZero
        refine ⟨0x2d, [0x30], _, rfl, .inl rfl, .one rfl, ?_⟩
        constructor <;> simp [start, digitValue]
      · have step : (start 0x2d).take digit = .more { start 0x2d with
            reversed := [digit, 0x2d], phase := .whole, significand := digitValue digit } := by
          simp [start, take, isZero, isDigit]
        refine ⟨0x2d, [digit], _, rfl, .inl rfl, .one step, ?_⟩
        constructor <;> simp [start, isZero]

/-- The sign and the digits before the point. -/
theorem takes_integer (number : NumberText) :
    ∃ first rest numeral, (if number.isNegative then [0x2d] else []) ++ number.whole = first :: rest
      ∧ (first = 0x2d ∨ isDigit first = true) ∧ Takes (start first) rest numeral ∧
      numeral.IsAt wholePhases (NumberText.leading 0 number.whole).1
        (number.whole.length - (NumberText.leading 0 number.whole).2 : Int) := by
  obtain ⟨digit, digits, isWhole⟩ := List.exists_cons_of_ne_nil number.isWritten
  obtain ⟨isDigit, areDigits⟩ := List.forall_mem_cons.1 (isWhole ▸ number.isWhole)
  obtain ⟨first, rest, numeral, written, isFirst, takes, isAt⟩ :=
    takes_firstDigit number.isNegative isDigit
  have isLeading : NumberText.leading 0 number.whole =
      ((NumberText.leading (digitValue digit) digits).1,
        (NumberText.leading (digitValue digit) digits).2 + 1) := by
    have fits : ¬ 0 * 10 + digitValue digit > significandLimit := by
      have bound : digit.toNat < 256 := digit.toNat_lt
      simp only [digitValue, significandLimit, UInt64.size]
      omega
    rw [isWhole, leading_of_fits fits, Nat.zero_mul, Nat.zero_add]
  have written' : (if number.isNegative then [0x2d] else []) ++ number.whole
      = first :: (rest ++ digits) := by
    simpa only [isWhole, List.append_assoc, List.cons_append, List.nil_append]
      using congrArg (· ++ digits) written
  rw [isLeading]
  by_cases isZero : digit = 0x30
  · -- A leading zero stands alone, and no digit is left to read.
    have none : digits = [] := by
      have alone := number.noLeadingZero (by simp [isWhole, isZero])
      simpa [isWhole, isZero] using alone
    subst none
    rw [if_pos isZero] at isAt
    obtain ⟨phase, isSignificand, isScale, noExponent, notNegative⟩ := isAt
    refine ⟨first, rest ++ [], numeral, written', isFirst, by simpa using takes, ?_, isSignificand,
      ?_, noExponent, notNegative⟩
    · simp [wholePhases, List.mem_singleton.1 phase]
    · simp [isScale, isWhole, NumberText.leading]
  · rw [if_neg isZero] at isAt
    obtain ⟨last, takes', phase, isSignificand, isScale, noExponent, notNegative⟩ :=
      takes_whole areDigits isAt
    refine ⟨first, rest ++ digits, last, written', isFirst, takes.append takes', phase,
      isSignificand, ?_, noExponent, notNegative⟩
    simp only [isScale, isWhole, List.length_cons]
    omega

/-! ## The point -/

/-- Digits behind the point that no longer fit are dropped. -/
theorem takes_surplus {digits : List UInt8} (areDigits : Digits digits)
    {numeral : Numeral} {significand : Nat} {scale : Int}
    (isAt : numeral.IsAt [.surplus] significand scale) :
    ∃ last, Takes numeral digits last ∧ last.IsAt [.surplus] significand scale := by
  refine takes_of_keeps (fun numeral digit isAt isDigit => ?_) areDigits isAt
  obtain ⟨phase, isSignificand, isScale, noExponent, notNegative⟩ := isAt
  refine ⟨{ numeral with reversed := digit :: numeral.reversed }, ?_,
    phase, isSignificand, isScale, noExponent, notNegative⟩
  simp [take, List.mem_singleton.1 phase, isDigit]

/-- Digits behind the point are read on from those before it as long as they fit. -/
theorem takes_fraction {digits : List UInt8} (areDigits : Digits digits) {numeral : Numeral}
    {significand : Nat} {scale : Int} (isAt : numeral.IsAt [.fraction] significand scale) :
    ∃ last, Takes numeral digits last ∧
      last.IsAt [.fraction, .surplus] (NumberText.leading significand digits).1
        (scale - (NumberText.leading significand digits).2) := by
  induction digits generalizing numeral significand scale with
  | nil =>
      obtain ⟨phase, isSignificand, isScale, noExponent, notNegative⟩ := isAt
      refine ⟨numeral, .nil numeral, ?_, isSignificand, ?_, noExponent, notNegative⟩
      · simp [List.mem_singleton.1 phase]
      · simp [isScale, NumberText.leading]
  | cons digit digits ih =>
      obtain ⟨first, others⟩ := List.forall_mem_cons.1 areDigits
      obtain ⟨phase, isSignificand, isScale, noExponent, notNegative⟩ := isAt
      have step : numeral.take digit = .more (numeral.fractionDigit digit) := by
        simp [take, List.mem_singleton.1 phase, first]
      by_cases exceeds : significand * 10 + digitValue digit > significandLimit
      · have grown : numeral.fractionDigit digit = { numeral with
            reversed := digit :: numeral.reversed, phase := .surplus } := by
          simp only [fractionDigit, isSignificand, exceeds, if_true]
        have isGrown : (numeral.fractionDigit digit).IsAt [.surplus] significand scale := by
          rw [grown]
          exact ⟨.head _, isSignificand, isScale, noExponent, notNegative⟩
        obtain ⟨last, takes, phase', isSignificand', isScale', rest, rest'⟩ :=
          takes_surplus others isGrown
        rw [leading_of_exceeds exceeds]
        refine ⟨last, .cons step takes, ?_, isSignificand', ?_, rest, rest'⟩
        · simp [List.mem_singleton.1 phase']
        · simp [isScale']
      · have grown : numeral.fractionDigit digit = { numeral with
            reversed := digit :: numeral.reversed, phase := .fraction,
            significand := significand * 10 + digitValue digit, scale := scale - 1 } := by
          simp only [fractionDigit, isSignificand, isScale, exceeds, if_false]
        have isGrown : (numeral.fractionDigit digit).IsAt [.fraction]
            (significand * 10 + digitValue digit) (scale - 1) := by
          rw [grown]
          exact ⟨.head _, rfl, rfl, noExponent, notNegative⟩
        obtain ⟨last, takes, phase', isSignificand', isScale', rest, rest'⟩ := ih others isGrown
        rw [leading_of_fits exceeds]
        refine ⟨last, .cons step takes, phase', isSignificand', ?_, rest, rest'⟩
        simp only [isScale']
        omega

/-- Two numbers that take the first byte alike take the others alike. -/
theorem Takes.of_take_eq {numeral other last : Numeral} {byte : UInt8} {bytes : List UInt8}
    (same : numeral.take byte = other.take byte) (takes : Takes other (byte :: bytes) last) :
    Takes numeral (byte :: bytes) last := by
  cases takes with
  | cons first others => exact .cons (same.trans first) others

/-- The point and the digits behind it, if there are any. -/
theorem takes_decimals (number : NumberText) {numeral : Numeral} {significand : Nat} {scale : Int}
    (isAt : numeral.IsAt wholePhases significand scale) :
    ∃ last, Takes numeral number.fractionBytes last ∧
      last.IsAt decimalPhases (NumberText.leading significand number.fraction).1
        (scale - (NumberText.leading significand number.fraction).2) := by
  rw [NumberText.fractionBytes]
  cases isFraction : number.fraction with
  | nil =>
      refine ⟨numeral, .nil numeral, ?_⟩
      simpa [NumberText.leading] using isAt.mono (by simp [wholePhases, decimalPhases])
  | cons digit digits =>
      have areDigits : Digits (digit :: digits) := isFraction ▸ number.isFraction
      have isDigit : Json.isDigit digit = true := areDigits digit (.head _)
      obtain ⟨phase, isSignificand, isScale, noExponent, notNegative⟩ := isAt
      let point := { numeral with reversed := 0x2e :: numeral.reversed, phase := .point }
      let fraction := { point with phase := .fraction }
      have step : numeral.take 0x2e = .more point := by
        simp only [wholePhases, List.mem_cons, List.not_mem_nil, or_false] at phase
        rcases phase with phase | phase | phase <;>
          simp [take, phase, Json.isDigit, afterDigits, point]
      have same : point.take digit = fraction.take digit := by
        simp [take, point, fraction, isDigit, fractionDigit]
      have isPoint : fraction.IsAt [.fraction] significand scale :=
        ⟨.head _, isSignificand, isScale, noExponent, notNegative⟩
      obtain ⟨last, takes, isLast⟩ := takes_fraction areDigits isPoint
      exact ⟨last, .cons step (.of_take_eq same takes), isLast.mono (by simp [decimalPhases])⟩

/-! ## The exponent -/

theorem appendDigits_cons (number : Nat) (digit : UInt8) (digits : List UInt8) :
    appendDigits number (digit :: digits) = appendDigits (number * 10 + digitValue digit) digits := by
  simp only [appendDigits, List.foldl_cons]

/-- Digits only make a number larger. -/
theorem le_appendDigits (number : Nat) (digits : List UInt8) :
    number ≤ appendDigits number digits := by
  induction digits generalizing number with
  | nil => exact Nat.le_refl number
  | cons digit digits ih =>
      have grown := ih (number * 10 + digitValue digit)
      rw [appendDigits_cons]
      omega

/-- An exponent within the limit is read as it is. -/
theorem takes_exponent {digits : List UInt8} (areDigits : Digits digits) {numeral : Numeral}
    (phase : numeral.phase = .exponent)
    (fits : appendDigits numeral.exponent digits ≤ exponentLimit) :
    Takes numeral digits { numeral with
      reversed := digits.reverse ++ numeral.reversed,
      exponent := appendDigits numeral.exponent digits } := by
  induction digits generalizing numeral with
  | nil => exact .nil numeral
  | cons digit digits ih =>
      obtain ⟨isDigit, others⟩ := List.forall_mem_cons.1 areDigits
      let grown := { numeral with
        reversed := digit :: numeral.reversed, exponent := numeral.exponent * 10 + digitValue digit }
      have step : numeral.take digit = .more grown := by
        have small : ¬ numeral.exponent * 10 + digitValue digit > exponentLimit :=
          Nat.not_lt.2 (Nat.le_trans (le_appendDigits _ digits) fits)
        simp [take, phase, isDigit, exponentDigit, small, grown]
      have takes : Takes grown digits _ := ih others phase fits
      exact .cons step (by simpa [grown, appendDigits_cons] using takes)

/-- A number whose size is settled takes digits without end. -/
theorem takes_vanished {digits : List UInt8} (areDigits : Digits digits) {numeral : Numeral}
    (phase : numeral.phase = .vanished) :
    ∃ last, Takes numeral digits last ∧ last.phase = .vanished := by
  refine takes_of_keeps (fun numeral digit phase isDigit => ?_) areDigits phase
  exact ⟨{ numeral with reversed := digit :: numeral.reversed }, by simp [take, phase, isDigit],
    phase⟩

/-- An exponent past the limit settles the size of a number that cannot become too large. -/
theorem takes_vanishing {digits : List UInt8} (areDigits : Digits digits) {numeral : Numeral}
    (phase : numeral.phase = .exponent) (small : numeral.exponent ≤ exponentLimit)
    (exceeds : exponentLimit < appendDigits numeral.exponent digits)
    (isHarmless : numeral.significand = 0 ∨ numeral.exponentIsNegative = true) :
    ∃ last, Takes numeral digits last ∧ last.phase = .vanished := by
  induction digits generalizing numeral with
  | nil => exact absurd exceeds (Nat.not_lt.2 small)
  | cons digit digits ih =>
      obtain ⟨isDigit, others⟩ := List.forall_mem_cons.1 areDigits
      by_cases isPast : numeral.exponent * 10 + digitValue digit > exponentLimit
      · let settled := { numeral with reversed := digit :: numeral.reversed, phase := .vanished }
        have step : numeral.take digit = .more settled := by
          rcases isHarmless with isZero | isNegative
          · simp [take, phase, isDigit, exponentDigit, isPast, isZero, settled]
          · simp [take, phase, isDigit, exponentDigit, isPast, isNegative, settled]
        obtain ⟨last, takes, phase'⟩ := takes_vanished others (show settled.phase = .vanished from rfl)
        exact ⟨last, .cons step takes, phase'⟩
      · let grown := { numeral with
          reversed := digit :: numeral.reversed,
          exponent := numeral.exponent * 10 + digitValue digit }
        have step : numeral.take digit = .more grown := by
          simp [take, phase, isDigit, exponentDigit, isPast, grown]
        obtain ⟨last, takes, phase'⟩ := ih others (show grown.phase = .exponent from phase)
          (Nat.not_lt.1 isPast) exceeds isHarmless
        exact ⟨last, .cons step takes, phase'⟩

/-- The mark of an exponent and its sign.  What comes next is taken as a digit of the exponent
is. -/
theorem takes_mark (exponent : ExponentText) {numeral : Numeral} {significand : Nat} {scale : Int}
    (isAt : numeral.IsAt decimalPhases significand scale) :
    ∃ last, Takes numeral (exponent.mark :: exponent.sign) last ∧ last.significand = significand ∧
      last.scale = scale ∧ last.exponent = 0 ∧ last.exponentIsNegative = exponent.isNegative ∧
      ∀ digit, isDigit digit = true →
        last.take digit = { last with phase := .exponent }.take digit := by
  obtain ⟨phase, isSignificand, isScale, noExponent, notNegative⟩ := isAt
  let marked := { numeral with reversed := exponent.mark :: numeral.reversed, phase := .mark }
  have step : numeral.take exponent.mark = .more marked := by
    simp only [decimalPhases, List.mem_cons, List.not_mem_nil, or_false] at phase
    rcases exponent.isMark with isMark | isMark <;>
      rcases phase with phase | phase | phase | phase | phase <;>
        simp [take, phase, isMark, Json.isDigit, afterDigits, marked]
  rcases exponent.isSign with isSign | isSign | isSign
  · refine ⟨marked, isSign ▸ .one step, isSignificand, isScale, noExponent, ?_, ?_⟩
    · simp [marked, notNegative, ExponentText.isNegative, isSign]
    · intro digit isDigit
      have notSign : digit ≠ 0x2b ∧ digit ≠ 0x2d := by
        constructor <;> intro same <;> simp [same, Json.isDigit] at isDigit
      simp [take, marked, isDigit, notSign, exponentDigit]
  · refine ⟨{ marked with reversed := 0x2b :: marked.reversed, phase := .markSign },
      isSign ▸ .cons step (.one rfl), isSignificand, isScale, noExponent, ?_, ?_⟩
    · simp [marked, notNegative, ExponentText.isNegative, isSign]
    · intro digit isDigit
      simp [take, marked, isDigit, exponentDigit]
  · refine ⟨{ marked with
        reversed := 0x2d :: marked.reversed, phase := .markSign, exponentIsNegative := true },
      isSign ▸ .cons step (.one rfl), isSignificand, isScale, noExponent, ?_, ?_⟩
    · simp [ExponentText.isNegative, isSign]
    · intro digit isDigit
      simp [take, marked, isDigit, exponentDigit]

/-- The exponent of a number that is small enough. -/
theorem takes_exponentText (exponent : ExponentText) {numeral : Numeral} {significand : Nat}
    {scale : Int} (isAt : numeral.IsAt decimalPhases significand scale)
    (inRange : exponent.IsInRange significand scale) :
    ∃ last, Takes numeral exponent.bytes last ∧ last.isComplete = true ∧
      last.isFinite = true := by
  obtain ⟨marked, takesMark, isSignificand, isScale, noExponent, isSign, same⟩ :=
    takes_mark exponent isAt
  obtain ⟨digit, digits, isDigits⟩ := List.exists_cons_of_ne_nil exponent.isWritten
  have areDigits : Digits (digit :: digits) := isDigits ▸ exponent.isDigits
  let fresh := { marked with phase := .exponent }
  have same' : marked.take digit = fresh.take digit := same digit (areDigits digit (.head _))
  simp only [ExponentText.IsInRange, isDigits] at inRange
  simp only [ExponentText.bytes, isDigits]
  by_cases fits : appendDigits 0 (digit :: digits) ≤ 2147483647
  · have takes := takes_exponent areDigits (show fresh.phase = .exponent from rfl)
      (show appendDigits fresh.exponent (digit :: digits) ≤ exponentLimit from noExponent ▸ fits)
    refine ⟨_, takesMark.append (takes.of_take_eq same'), rfl, ?_⟩
    rw [if_pos fits] at inRange
    simpa [isFinite, fresh, isSignificand, isScale, noExponent, isSign] using inRange
  · rw [if_neg fits] at inRange
    obtain ⟨last, takes, phase⟩ := takes_vanishing areDigits
      (show fresh.phase = .exponent from rfl)
      (show fresh.exponent ≤ exponentLimit from noExponent ▸ Nat.zero_le _)
      (show exponentLimit < appendDigits fresh.exponent (digit :: digits) from
        noExponent ▸ Nat.not_le.1 fits)
      (by simpa [fresh, isSignificand, isSign] using inRange)
    exact ⟨last, takesMark.append (takes.of_take_eq same'), by simp [isComplete, phase],
      by simp [isFinite, phase]⟩

/-! ## Numbers -/

/-- A number that is small enough is read from its first byte on. -/
theorem takes_number (number : NumberText) (inRange : number.IsInRange) :
    ∃ first rest last, number.bytes = first :: rest ∧ (first = 0x2d ∨ isDigit first = true) ∧
      Takes (start first) rest last ∧ last.isComplete = true ∧ last.isFinite = true := by
  obtain ⟨first, rest, integer, written, isFirst, takesInteger, isInteger⟩ := takes_integer number
  obtain ⟨decimal, takesDecimals, isDecimal⟩ := takes_decimals number isInteger
  have takes := takesInteger.append takesDecimals
  cases isExponent : number.exponent with
  | none =>
      refine ⟨first, rest ++ number.fractionBytes, decimal, ?_, isFirst, takes, ?_, ?_⟩
      · simp [NumberText.bytes, NumberText.exponentBytes, isExponent, written]
      · have phase := isDecimal.phase_mem
        simp only [decimalPhases, List.mem_cons, List.not_mem_nil, or_false] at phase
        rcases phase with phase | phase | phase | phase | phase <;> simp [isComplete, phase]
      · have phase := isDecimal.phase_mem
        have notVanished : decimal.phase ≠ .vanished := by
          intro same
          simp [decimalPhases, same] at phase
        simp only [NumberText.IsInRange, isExponent, NumberText.significand,
          NumberText.scale] at inRange
        simpa [isFinite, notVanished, isDecimal.significand_eq, isDecimal.scale_eq,
          isDecimal.exponent_eq, isDecimal.notNegative] using inRange
  | some exponent =>
      simp only [NumberText.IsInRange, isExponent] at inRange
      obtain ⟨last, takesExponent, isComplete, isFinite⟩ :=
        takes_exponentText exponent isDecimal inRange
      refine ⟨first, rest ++ number.fractionBytes ++ exponent.bytes, last, ?_, isFirst,
        takes.append takesExponent, isComplete, isFinite⟩
      simp [NumberText.bytes, NumberText.exponentBytes, isExponent, written]

/-- The bytes that a number began with and took are its text. -/
theorem toJson_of_takes {number : NumberText} {first : UInt8} {rest : List UInt8} {last : Numeral}
    (written : number.bytes = first :: rest) (takes : Takes (start first) rest last) :
    last.toJson = .number number.literal := by
  rw [toJson, takes.reversed_eq, NumberText.literal, written]
  simp [start]

end Numeral

open Reader

/-- What begins a number does so where a value may begin. -/
theorem beginValue_number {byte : UInt8} (isFirst : byte = 0x2d ∨ isDigit byte = true)
    (stack : List Frame) (mode : Mode) :
    beginValue stack mode byte = .ok ⟨stack, .number (.start byte)⟩ := by
  rcases isFirst with rfl | isDigit
  · rfl
  · have isOther : isBlank byte = false ∧ byte ≠ 0x22 ∧ byte ≠ 0x5b ∧ byte ≠ 0x7b ∧ byte ≠ 0x6e ∧
        byte ≠ 0x74 ∧ byte ≠ 0x66 := by
      have notBlank : ¬ isBlank byte = true := by
        intro blank
        rcases isBlank_iff.1 blank with rfl | rfl | rfl | rfl <;> exact absurd isDigit (by decide)
      refine ⟨Bool.eq_false_iff.2 notBlank, ?_, ?_, ?_, ?_, ?_, ?_⟩ <;>
        rintro rfl <;> exact absurd isDigit (by decide)
    simp [beginValue, isOther, isDigit]

/-- A number that is small enough is read where a value may begin. -/
theorem reads_number {reader : Reader} (awaits : reader.AwaitsValue) (number : NumberText)
    (inRange : number.IsInRange) :
    ∃ last, Reads reader number.bytes last ∧
      last.Holds reader.stack (.number number.literal) := by
  obtain ⟨first, rest, last, written, isFirst, takes, isComplete, isFinite⟩ :=
    Numeral.takes_number number inRange
  have notEnd : first ≠ 0x5d := by
    rintro rfl
    exact absurd isFirst (by decide)
  have step : reader.step first = .ok ⟨reader.stack, .number (.start first)⟩ := by
    rw [awaits.step_eq notEnd, beginValue_number isFirst]
  refine ⟨⟨reader.stack, .number last⟩, written ▸ .cons step (takes.reads reader.stack), ?_⟩
  rw [← Numeral.toJson_of_takes written takes]
  exact .number isComplete isFinite

end Gatehouse.Json
