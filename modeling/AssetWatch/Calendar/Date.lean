/-!
# Dates

Dates of the proleptic Gregorian calendar and their numbering by days. `Date.toDays` counts
the days from the first of January 1970 by the lengths of years and months; `Date.ofDays`
finds the date with a given count by taking off whole cycles of 400, 100, 4 and 1 years.
-/

namespace AssetWatch.Calendar

/-- A day, given by year, month and day of the month, both counted from one. -/
structure Date where
  year : Int
  month : Nat
  day : Nat
deriving DecidableEq, Repr

/-- Every fourth year is a leap year, but of the full centuries only every fourth. -/
def isLeap (year : Int) : Bool :=
  year % 4 = 0 && (year % 100 ≠ 0 || year % 400 = 0)

/-- The lengths of the twelve months. -/
def monthLengths (leap : Bool) : List Nat :=
  [31, if leap then 29 else 28, 31, 30, 31, 30, 31, 31, 30, 31, 30, 31]

/-- The number of days from the first of January of year 1 to that of the given year. -/
def daysBeforeYear (year : Int) : Int :=
  365 * (year - 1) + (year - 1) / 4 - (year - 1) / 100 + (year - 1) / 400

/-- The number of days from the first of January of year 1 to that of 1970. -/
def epochDay : Int := 719162

/-- The length of several months together. -/
def total (lengths : List Nat) : Nat := lengths.foldr (· + ·) 0

namespace Date

/-- The length of the date's month. -/
def monthLength (date : Date) : Nat :=
  ((monthLengths (isLeap date.year))[date.month - 1]?).getD 0

/-- Whether the calendar has the date. -/
def isValid (date : Date) : Bool :=
  1 ≤ date.month && date.month ≤ 12 && 1 ≤ date.day && date.day ≤ date.monthLength

/-- The number of days from the first of January 1970, negative before it. -/
def toDays (date : Date) : Int :=
  daysBeforeYear date.year
    + (total ((monthLengths (isLeap date.year)).take (date.month - 1)) : Nat)
    + ((date.day : Int) - 1) - epochDay

/-- The month, counted from `month`, and the day of the month, of the day that lies `days`
after the first day of a span of months with the given lengths. -/
def locate : List Nat → Nat → Nat → Nat × Nat
  | [], month, days => (month, days + 1)
  | length :: rest, month, days =>
    if days < length then (month, days + 1) else locate rest (month + 1) (days - length)

/-- The date that lies the given number of days after the first of January 1970. -/
def ofDays (days : Int) : Date :=
  let day := (days + epochDay) % 146097
  let centuries := min (day / 36524) 3
  let day := day - 36524 * centuries
  let quads := day / 1461
  let day := day - 1461 * quads
  let years := min (day / 365) 3
  let day := day - 365 * years
  let year := 400 * ((days + epochDay) / 146097) + 100 * centuries + 4 * quads + years + 1
  let place := locate (monthLengths (isLeap year)) 1 day.toNat
  ⟨year, place.1, place.2⟩

end Date

end AssetWatch.Calendar
