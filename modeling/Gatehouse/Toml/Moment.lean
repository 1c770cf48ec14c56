import Gatehouse.Number.Digits
import Gatehouse.Toml.Value

/-!
# Dates and times

A TOML document may hold a date, a time of day, or a date and a time of day with or without an
offset from UTC.  Each number in them has a fixed number of digits and a range; a day must exist
in its month, and a second may be a leap second.

A date and a time are joined by a letter or by one space.  A space behind a date that no hour and
colon follow is not part of the value.
-/

namespace Gatehouse.Toml

set_option autoImplicit false

/-- Reads a number of a fixed number of digits within a range. -/
def readPart (count least most : Nat) (cs : List Char) : Option (Nat × List Char) :=
  let digits := cs.take count
  if digits.length < count then none
  else
    (Number.ofDigits? 10 digits).bind fun value =>
      if least ≤ value ∧ value ≤ most then some (value, cs.drop count) else none

/-- The text behind a character at its front. -/
def expect (c : Char) : List Char → Option (List Char)
  | [] => none
  | d :: rest => if d == c then some rest else none

/-- Whether a year has a leap day. -/
def isLeapYear (year : Nat) : Bool :=
  year % 4 == 0 && (year % 100 != 0 || year % 400 == 0)

/-- The number of days of a month. -/
def daysInMonth (year month : Nat) : Nat :=
  if month == 2 then if isLeapYear year then 29 else 28
  else if month == 4 || month == 6 || month == 9 || month == 11 then 30
  else 31

/-- The text behind a date. -/
def skipDate (cs : List Char) : Option (List Char) := do
  let (year, rest) ← readPart 4 0 9999 cs
  let rest ← expect '-' rest
  let (month, rest) ← readPart 2 1 12 rest
  let rest ← expect '-' rest
  let (day, rest) ← readPart 2 1 31 rest
  if day ≤ daysInMonth year month then some rest else none

/-- The text behind the decimals of a second, if there are any. -/
def skipDecimals : List Char → List Char
  | '.' :: c :: rest => if c.isDigit then rest.dropWhile Char.isDigit else '.' :: c :: rest
  | cs => cs

/-- The text behind a time of day. -/
def skipTime (cs : List Char) : Option (List Char) := do
  let (_, rest) ← readPart 2 0 23 cs
  let rest ← expect ':' rest
  let (_, rest) ← readPart 2 0 59 rest
  let rest ← expect ':' rest
  let (_, rest) ← readPart 2 0 60 rest
  return skipDecimals rest

/-- The text behind the hours and minutes of an offset. -/
def skipHoursAndMinutes (cs : List Char) : Option (List Char) := do
  let (_, rest) ← readPart 2 0 23 cs
  let rest ← expect ':' rest
  let (_, rest) ← readPart 2 0 59 rest
  return rest

/-- The text behind an offset from UTC, if there is one. -/
def skipOffset : List Char → Option (List Char)
  | 'Z' :: rest => some rest
  | 'z' :: rest => some rest
  | '+' :: rest => skipHoursAndMinutes rest
  | '-' :: rest => skipHoursAndMinutes rest
  | cs => some cs

/-- Whether a text begins with an hour and a colon. -/
def startsWithHour (cs : List Char) : Bool :=
  ((readPart 2 0 23 cs).bind fun (_, rest) => expect ':' rest).isSome

/-- Whether a text begins with a year and a hyphen. -/
def startsWithYear (cs : List Char) : Bool :=
  ((readPart 4 0 9999 cs).bind fun (_, rest) => expect '-' rest).isSome

/-- Reads the time of day and the offset that may follow a date. -/
def skipTimeOfDate (cs : List Char) : Option (List Char) :=
  match cs with
  | mark :: rest =>
      if (mark == 'T' || mark == 't' || mark == ' ') && startsWithHour rest then
        (skipTime rest).bind skipOffset
      else some cs
  | [] => some []

/-- Reads a date, a time or both. -/
def readMoment (cs : List Char) : Option (Value × List Char) :=
  let rest := if startsWithYear cs then (skipDate cs).bind skipTimeOfDate else skipTime cs
  rest.map fun rest => (.dateTime, rest)

/-- Whether a text begins like a date or a time. -/
def startsLikeMoment (cs : List Char) : Bool :=
  startsWithYear cs || startsWithHour cs

end Gatehouse.Toml
