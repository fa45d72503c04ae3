import AssetWatch.Calendar.Date
import AssetWatch.Text.Decimal

/-!
# Date and time of day

A date with a time of day in whole seconds, numbered by the seconds since the Unix epoch, and
its text in the order year, month, day, hour, minute, second. Years beyond four digits, and
those before year 0, carry a sign.
-/

namespace AssetWatch.Calendar

open Text

/-- A date and a time of day, in Universal Time. -/
structure DateTime where
  date : Date
  hour : Nat
  minute : Nat
  second : Nat
deriving DecidableEq, Repr

/-- The first year of the calendar's range. -/
def firstYear : Int := -262143

/-- The last year of the calendar's range. -/
def lastYear : Int := 262142

/-- The first second of the first year. -/
def firstSecond : Int := -8334601228800

/-- The last second of the last year. -/
def lastSecond : Int := 8210266876799

namespace DateTime

/-- The seconds from the Unix epoch, negative before it. -/
def toSeconds (t : DateTime) : Int :=
  86400 * t.date.toDays + (3600 * t.hour + 60 * t.minute + t.second : Nat)

/-- The date and time of day at the given second. -/
def ofSeconds (seconds : Int) : DateTime :=
  let rest := (seconds % 86400).toNat
  ⟨Date.ofDays (seconds / 86400), rest / 3600, rest / 60 % 60, rest % 60⟩

end DateTime

/-- A year: four digits, with a sign in front if it does not lie between 0 and 9999. -/
def yearText (year : Int) : List Char :=
  if 0 ≤ year ∧ year ≤ 9999 then Decimal.padded 4 year.toNat
  else (if year < 0 then '-' else '+') :: Decimal.padded 4 year.natAbs

/-- Year, month and day, joined by hyphens. -/
def Date.text (date : Date) : List Char :=
  yearText date.year ++ '-' :: Decimal.padded 2 date.month ++ '-' :: Decimal.padded 2 date.day

/-- Hour, minute and second, joined by colons. -/
def DateTime.clockText (t : DateTime) : List Char :=
  Decimal.padded 2 t.hour ++ ':' :: Decimal.padded 2 t.minute ++ ':' ::
    Decimal.padded 2 t.second

/-- The date, a blank and the time of day. -/
def DateTime.text (t : DateTime) : List Char := t.date.text ++ ' ' :: t.clockText

end AssetWatch.Calendar
