/-!
# Numbers in digits

Reading a natural number from its digits in a base of at most sixteen.  Digits above nine are
letters of either case.
-/

namespace Gatehouse.Number

set_option autoImplicit false

/-- The value of a hexadecimal digit of either case. -/
def digitValue? (c : Char) : Option Nat :=
  if '0' ≤ c ∧ c ≤ '9' then some (c.toNat - 48)
  else if 'a' ≤ c ∧ c ≤ 'f' then some (c.toNat - 87)
  else if 'A' ≤ c ∧ c ≤ 'F' then some (c.toNat - 55)
  else none

/-- Whether a character is a digit in a base. -/
def isDigitIn (base : Nat) (c : Char) : Bool :=
  match digitValue? c with
  | some value => decide (value < base)
  | none => false

/-- The number that digits stand for, most significant digit first; other characters count as
zeros. -/
def ofDigits (base : Nat) (cs : List Char) : Nat :=
  cs.foldl (fun number c => number * base + (digitValue? c).getD 0) 0

/-- The number that a text of at least one digit stands for. -/
def ofDigits? (base : Nat) (cs : List Char) : Option Nat :=
  if cs.isEmpty || !cs.all (isDigitIn base) then none else some (ofDigits base cs)

/-- The number below a limit that a text of at least one decimal digit stands for; zeros may
precede it. -/
def decimalBelow? (limit : Nat) (cs : List Char) : Option Nat :=
  (ofDigits? 10 cs).bind fun value => if value < limit then some value else none

end Gatehouse.Number
