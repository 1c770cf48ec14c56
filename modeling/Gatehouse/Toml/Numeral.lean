import Gatehouse.Number.Digits
import Gatehouse.Number.DoubleRange
import Gatehouse.Text.Reader
import Gatehouse.Toml.Value

/-!
# Numerals

Integers and floating-point numbers of TOML documents.  Between two digits an underscore may
stand.  An integer is decimal, with an optional sign and no zeros in front, or hexadecimal, octal
or binary behind a mark; it must fit into 64 bits with a sign.  A floating-point number has a
fraction, an exponent or both, or is one of the words `inf` and `nan`; one that is not negative
must be small enough to be finite.
-/

namespace Gatehouse.Toml

set_option autoImplicit false

open Text (Reader)

/-! ## Digits -/

/-- Reads the digits that follow a first one; an underscore must stand between two digits. -/
def readMoreDigits (base : Nat) : Reader (List Char)
  | [] => some ([], [])
  | ['_'] => none
  | '_' :: c :: rest =>
      if Number.isDigitIn base c then
        (readMoreDigits base rest).map fun (digits, rest) => (c :: digits, rest)
      else none
  | c :: rest =>
      if Number.isDigitIn base c then
        (readMoreDigits base rest).map fun (digits, rest) => (c :: digits, rest)
      else some ([], c :: rest)

/-- Reads at least one digit. -/
def readDigits (base : Nat) : Reader (List Char)
  | [] => none
  | c :: rest =>
      if Number.isDigitIn base c then
        (readMoreDigits base rest).map fun (digits, rest) => (c :: digits, rest)
      else none

/-- Reads the digits of a whole number: a lone zero, or digits that begin with no zero. -/
def readWholeDigits : Reader (List Char)
  | '0' :: rest => some (['0'], rest)
  | cs => readDigits 10 cs

/-! ## Numbers -/

/-- The integer that a document may hold, if a number is one: it must fit into 64 bits. -/
def integerOf? (value : Int) : Option Value :=
  if -9223372036854775808 ≤ value ∧ value ≤ 9223372036854775807 then some (.integer value) else none

/-- The most digits that an integer can have in any base, zeros in front not counted. -/
def mostDigits : Nat := 64

/-- The integer of a sign and digits. -/
def integerOfDigits? (base : Nat) (isNegative : Bool) (digits : List Char) : Option Value :=
  let significant := digits.dropWhile (· == '0')
  if mostDigits < significant.length then none
  else
    let value : Int := Number.ofDigits base significant
    integerOf? (if isNegative then -value else value)

/-- Reads an integer in another base, behind its mark. -/
def readInteger (base : Nat) (cs : List Char) : Option (Value × List Char) := do
  let (digits, rest) ← readDigits base cs
  let value ← integerOfDigits? base false digits
  return (value, rest)

/-- Reads a sign, if there is one; a minus gives true. -/
def readSign : List Char → Bool × List Char
  | '+' :: rest => (false, rest)
  | '-' :: rest => (true, rest)
  | cs => (false, cs)

/-- Reads a fraction, if there is one. -/
def readFraction : Reader (Option (List Char))
  | '.' :: rest => (readDigits 10 rest).map fun (digits, rest) => (some digits, rest)
  | cs => some (none, cs)

/-- Reads an exponent behind its mark. -/
def readExponent (cs : List Char) : Option (Int × List Char) :=
  let (isNegative, rest) := readSign cs
  (readDigits 10 rest).map fun (digits, rest) =>
    let size : Int := Number.ofDigits 10 digits
    (if isNegative then -size else size, rest)

/-- Reads an exponent, if there is one. -/
def readOptionalExponent : Reader (Option Int)
  | 'e' :: rest => (readExponent rest).map fun (exponent, rest) => (some exponent, rest)
  | 'E' :: rest => (readExponent rest).map fun (exponent, rest) => (some exponent, rest)
  | cs => some (none, cs)

/-- Whether a number with a fraction and an exponent is one that a document may hold. -/
def isFloat (isNegative : Bool) (whole fraction : List Char) (exponent : Int) : Bool :=
  isNegative
    || Number.decimalIsFinite (Number.ofDigits 10 (whole ++ fraction)) (exponent - fraction.length)

/-- Reads a decimal number behind its sign. -/
def readDecimal (isNegative : Bool) (cs : List Char) : Option (Value × List Char) := do
  let (whole, rest) ← readWholeDigits cs
  let (fraction, rest) ← readFraction rest
  let (exponent, rest) ← readOptionalExponent rest
  match fraction, exponent with
  | none, none =>
      let value ← integerOfDigits? 10 isNegative whole
      return (value, rest)
  | _, _ =>
      if isFloat isNegative whole (fraction.getD []) (exponent.getD 0) then return (.float, rest)
      else none

/-- Reads a number. -/
def readNumeral (cs : List Char) : Option (Value × List Char) :=
  match cs with
  | '0' :: 'x' :: rest => readInteger 16 rest
  | '0' :: 'o' :: rest => readInteger 8 rest
  | '0' :: 'b' :: rest => readInteger 2 rest
  | _ =>
      let (isNegative, rest) := readSign cs
      match rest with
      | 'i' :: 'n' :: 'f' :: rest => some (.float, rest)
      | 'n' :: 'a' :: 'n' :: rest => some (.float, rest)
      | rest => readDecimal isNegative rest

end Gatehouse.Toml
