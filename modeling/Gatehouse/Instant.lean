/-!
# Instants

A point in time, counted in nanoseconds from the start of 1970 in either direction, and spans of
time, which are counted in the same way.  Storage keeps whole milliseconds, rounded towards the
past, and answers show an instant as a calendar date and a time of day in UTC.

Dates follow the Gregorian calendar at all times.  `Instant.rfc3339` writes a date and time with
as many decimals of a second as it needs, in groups of three.
-/

namespace Gatehouse

set_option autoImplicit false

/-- A point in time. -/
structure Instant where
  nanoseconds : Int
  deriving DecidableEq, Repr

/-- A span of time, forwards or backwards. -/
structure Duration where
  nanoseconds : Int
  deriving DecidableEq, Repr

/-- A number of seconds. -/
def Duration.ofSeconds (seconds : Int) : Duration :=
  ⟨seconds * 1000000000⟩

namespace Instant

/-- The whole milliseconds up to an instant. -/
def milliseconds (instant : Instant) : Int :=
  instant.nanoseconds / 1000000

/-- The instant a number of milliseconds after the start. -/
def ofMilliseconds (milliseconds : Int) : Instant :=
  ⟨milliseconds * 1000000⟩

/-- The instant that a duration leads to. -/
def plus (instant : Instant) (duration : Duration) : Instant :=
  ⟨instant.nanoseconds + duration.nanoseconds⟩

/-- Whether an instant does not come after another. -/
def isAtMost (former latter : Instant) : Bool :=
  decide (former.nanoseconds ≤ latter.nanoseconds)

/-! ## Calendar -/

/-- A date: year, month from 1 and day from 1. -/
structure Date where
  year : Int
  month : Int
  day : Int
  deriving DecidableEq, Repr

/-- The date that lies a number of days after the start.  Years are counted from the first of
March, so that a leap day comes last, in cycles of 400 years. -/
def Date.ofDays (days : Int) : Date :=
  let shifted := days + 719468
  let cycle := shifted / 146097
  let dayOfCycle := shifted % 146097
  let yearOfCycle :=
    (dayOfCycle - dayOfCycle / 1460 + dayOfCycle / 36524 - dayOfCycle / 146096) / 365
  let dayOfYear := dayOfCycle - (365 * yearOfCycle + yearOfCycle / 4 - yearOfCycle / 100)
  let monthFromMarch := (5 * dayOfYear + 2) / 153
  let day := dayOfYear - (153 * monthFromMarch + 2) / 5 + 1
  let month := if monthFromMarch < 10 then monthFromMarch + 3 else monthFromMarch - 9
  let year := yearOfCycle + cycle * 400 + (if month ≤ 2 then 1 else 0)
  ⟨year, month, day⟩

/-- The days from the start to a date. -/
def Date.days (date : Date) : Int :=
  let year := if date.month ≤ 2 then date.year - 1 else date.year
  let cycle := year / 400
  let yearOfCycle := year % 400
  let monthFromMarch := if date.month > 2 then date.month - 3 else date.month + 9
  let dayOfYear := (153 * monthFromMarch + 2) / 5 + date.day - 1
  let dayOfCycle := yearOfCycle * 365 + yearOfCycle / 4 - yearOfCycle / 100 + dayOfYear
  cycle * 146097 + dayOfCycle - 719468

/-- The milliseconds of the first instant that has a date here: the start of year -262143. -/
def leastMilliseconds : Int := -8334601228800000

/-- The milliseconds of the last instant that has a date here: the end of year 262142. -/
def greatestMilliseconds : Int := 8210266876799999

/-- The instant a number of milliseconds after the start, if it has a date. -/
def ofMilliseconds? (milliseconds : Int) : Option Instant :=
  if leastMilliseconds ≤ milliseconds ∧ milliseconds ≤ greatestMilliseconds then
    some (ofMilliseconds milliseconds)
  else none

@[simp] theorem milliseconds_ofMilliseconds (milliseconds : Int) :
    (ofMilliseconds milliseconds).milliseconds = milliseconds :=
  Int.mul_ediv_cancel _ (by decide)

/-- Whether an instant has a date. -/
def HasDate (instant : Instant) : Prop :=
  leastMilliseconds ≤ instant.milliseconds ∧ instant.milliseconds ≤ greatestMilliseconds

instance (instant : Instant) : Decidable instant.HasDate :=
  inferInstanceAs (Decidable (_ ∧ _))

theorem ofMilliseconds?_eq_some {milliseconds : Int} {instant : Instant} :
    ofMilliseconds? milliseconds = some instant ↔
      instant = ofMilliseconds milliseconds ∧ instant.HasDate := by
  unfold ofMilliseconds?
  constructor
  · intro isDated
    split at isDated
    next bounds =>
      cases isDated
      exact ⟨rfl, by rwa [HasDate, milliseconds_ofMilliseconds]⟩
    next => cases isDated
  · rintro ⟨rfl, hasDate⟩
    rw [HasDate, milliseconds_ofMilliseconds] at hasDate
    exact if_pos hasDate

/-- Rounding down to a whole number of milliseconds does not make an instant later, and takes less
than a millisecond away. -/
theorem rounded_bounds (instant : Instant) :
    (ofMilliseconds instant.milliseconds).nanoseconds ≤ instant.nanoseconds ∧
      instant.nanoseconds < (ofMilliseconds instant.milliseconds).nanoseconds + 1000000 := by
  simp only [ofMilliseconds, milliseconds]
  omega

/-- A whole number of milliseconds does not come after an instant exactly when it does not exceed
the whole milliseconds up to the instant. -/
theorem isAtMost_ofMilliseconds {milliseconds : Int} {now : Instant} :
    (ofMilliseconds milliseconds).isAtMost now = true ↔ milliseconds ≤ now.milliseconds := by
  rw [isAtMost, decide_eq_true_iff]
  exact (Int.le_ediv_iff_mul_le (by decide)).symm

/-! ## Text -/

/-- A natural number with zeros in front, to a width. -/
def padded (width value : Nat) : String :=
  let digits := toString value
  String.ofList (List.replicate (width - digits.length) '0') ++ digits

/-- The year in four digits, or with a sign where four digits do not do. -/
def yearText (year : Int) : String :=
  if 0 ≤ year ∧ year ≤ 9999 then padded 4 year.toNat
  else if year < 0 then "-" ++ padded 4 (-year).toNat
  else "+" ++ padded 5 year.toNat

/-- The decimals of a second: none, three, six or nine. -/
def decimalsText (nanoseconds : Nat) : String :=
  if nanoseconds == 0 then ""
  else if nanoseconds % 1000000 == 0 then "." ++ padded 3 (nanoseconds / 1000000)
  else if nanoseconds % 1000 == 0 then "." ++ padded 6 (nanoseconds / 1000)
  else "." ++ padded 9 nanoseconds

/-- An instant as a date and a time of day in UTC. -/
def rfc3339 (instant : Instant) : String :=
  let seconds := instant.nanoseconds / 1000000000
  let rest := (instant.nanoseconds % 1000000000).toNat
  let date := Date.ofDays (seconds / 86400)
  let time := (seconds % 86400).toNat
  yearText date.year ++ "-" ++ padded 2 date.month.toNat ++ "-" ++ padded 2 date.day.toNat ++ "T"
    ++ padded 2 (time / 3600) ++ ":" ++ padded 2 (time / 60 % 60) ++ ":" ++ padded 2 (time % 60)
    ++ decimalsText rest ++ "Z"

end Instant

end Gatehouse
