import AssetWatch.Calendar.DateTime
import AssetWatch.Text.Scan

/-!
# Reading dates and times

Numbers may have fewer digits than are written and blanks in front of them. A year with a
sign may have any number of digits, one without a sign at most four. A minute may end with
the second 60, a leap second.
-/

namespace AssetWatch.Calendar

open Text Text.Scan

namespace Reading

/-- A year. -/
def year : Scan Int := do
  blanks
  if ← takes '-' then return -((← anyNumber : Nat) : Int)
  else if ← takes '+' then return ((← anyNumber : Nat) : Int)
  else return ((← number 4 : Nat) : Int)

/-- A number of one or two digits that lies between the bounds. -/
def field (low high : Nat) : Scan Nat := do
  blanks
  let n ← number 2
  require (low ≤ n && n ≤ high)
  return n

/-- A date of the calendar's range, its parts joined by hyphens that may have blanks before
them if `spaced`. -/
def date (spaced : Bool) : Scan Date := do
  let year ← year
  if spaced then blanks
  literal '-'
  let month ← field 1 12
  if spaced then blanks
  literal '-'
  let day ← field 1 31
  let date : Date := ⟨year, month, day⟩
  require (date.isValid && firstYear ≤ year && year ≤ lastYear)
  return date

/-- A time of day, its parts joined by colons that may have blanks before them if `spaced`.
The second may be 60. -/
def clock (spaced : Bool) : Scan (Nat × Nat × Nat) := do
  let hour ← field 0 23
  if spaced then blanks
  literal ':'
  let minute ← field 0 59
  if spaced then blanks
  literal ':'
  let second ← field 0 60
  return (hour, minute, second)

end Reading

/-- Reads a date, blanks and a time of day, with nothing after it. -/
def DateTime.ofText? (text : List Char) : Option DateTime :=
  (do
    let date ← Reading.date false
    blanks
    let (hour, minute, second) ← Reading.clock false
    return ⟨date, hour, minute, second⟩ : Scan DateTime).whole? text

end AssetWatch.Calendar
