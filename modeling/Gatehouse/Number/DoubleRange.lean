/-!
# The range of 64-bit floating-point numbers

Documents may write numbers that the service never uses but must still accept or refuse by their
size.  A number is refused when it rounds to infinity, and that is decided here in exact integer
arithmetic.  `roundedToDouble` rounds a natural number to 53 significant bits, a tie going to the
even neighbour, and `doubleOverflow` is the least real number that rounds to infinity.
-/

namespace Gatehouse.Number

set_option autoImplicit false

/-- The least number that rounds to infinity: halfway between the largest finite number and the
next power of two. -/
def doubleOverflow : Nat := Nat.pow 2 1024 - Nat.pow 2 970

/-- The nearest number with at most 53 significant bits; a tie goes to the even one. -/
def roundedToDouble (value : Nat) : Nat :=
  let excess := value.log2 + 1 - 53
  let unit := Nat.pow 2 excess
  let quotient := value / unit
  let remainder := value % unit
  if 2 * remainder < unit then quotient * unit
  else if 2 * remainder > unit then (quotient + 1) * unit
  else if remainder == 0 then quotient * unit
  else if quotient % 2 == 0 then quotient * unit
  else (quotient + 1) * unit

/-- The largest power of ten that is finite as a 64-bit number. -/
def largestPower : Int := 308

/-- Whether the product of a rounded significand and a rounded power of ten is finite.  A
negative power only makes the number smaller, and zero stays zero under any power. -/
def scaledIsFinite (significand : Nat) (scale : Int) : Bool :=
  if significand == 0 || scale < 0 then true
  else if scale > largestPower then false
  else
    let power := Nat.pow 10 scale.toNat
    decide (roundedToDouble significand * roundedToDouble power < doubleOverflow)

/-- Whether a decimal, its digits read as one number times a power of ten, rounds to a finite
number.  Digits that fill fewer than 1024 bits once each place behind the point takes three of
them are below the range without further computing, so no power is larger than the digits are
long. -/
def decimalIsFinite (digits : Nat) (scale : Int) : Bool :=
  if digits == 0 then true
  else if scale > largestPower then false
  else if 0 ≤ scale then decide (digits * Nat.pow 10 scale.toNat < doubleOverflow)
  else
    let places := (-scale).toNat
    if digits.log2 < 1024 + 3 * places then true
    else decide (digits < doubleOverflow * Nat.pow 10 places)

end Gatehouse.Number
