import AssetWatch.Calendar.Reading

/-!
# Timestamps

An instant to the nanosecond, written and read in the format of RFC 3339. A leap second is
the last second of its minute with a billion nanoseconds or more. What is written is always
Universal Time; what is read may have any offset from it and is lenient about blanks.
-/

namespace AssetWatch.Calendar

open Text Text.Scan

/-- An instant of the calendar's range. -/
structure Timestamp where
  /-- Seconds from the Unix epoch. -/
  seconds : Int
  /-- Nanoseconds within the second, a billion and more within a leap second. -/
  nanos : Nat
  inRange : firstSecond ≤ seconds ∧ seconds ≤ lastSecond
  leapAtMinuteEnd : nanos < 1000000000 ∨ nanos < 2000000000 ∧ seconds % 60 = 59
deriving DecidableEq

namespace Timestamp

/-- The instant with the given seconds and nanoseconds, if there is one. -/
def ofParts? (seconds : Int) (nanos : Nat) : Option Timestamp :=
  if h : firstSecond ≤ seconds ∧ seconds ≤ lastSecond then
    if l : nanos < 1000000000 ∨ nanos < 2000000000 ∧ seconds % 60 = 59 then
      some ⟨seconds, nanos, h, l⟩
    else none
  else none

instance : Inhabited Timestamp := ⟨⟨0, 0, by decide, by decide⟩⟩

/-- The second within the minute, 60 in a leap second. -/
def second (t : Timestamp) : Nat :=
  (DateTime.ofSeconds t.seconds).second + t.nanos / 1000000000

/-- The fraction of the second with 3, 6 or 9 digits, or none if there is no fraction. -/
def fractionText (nanos : Nat) : List Char :=
  if nanos = 0 then []
  else if nanos % 1000000 = 0 then '.' :: Decimal.padded 3 (nanos / 1000000)
  else if nanos % 1000 = 0 then '.' :: Decimal.padded 6 (nanos / 1000)
  else '.' :: Decimal.padded 9 nanos

/-- The text of an instant: date, `T`, time of day, fraction and `Z`. -/
def text (t : Timestamp) : List Char :=
  let whole := DateTime.ofSeconds t.seconds
  whole.date.text ++ 'T' :: { whole with second := t.second }.clockText
    ++ fractionText (t.nanos % 1000000000) ++ ['Z']

/-! ## Reading -/

/-- A fraction of the second, in nanoseconds. Digits past the ninth are skipped. -/
def fraction : Scan Nat := do
  if ← takes '.' then
    let ds ← takeWhile1 Char.isDigit
    return Decimal.value (ds.take 9) * Decimal.tenTo (9 - (ds.take 9).length)
  else return 0

/-- Two digits. -/
def twoDigits : Scan Nat := do
  let tens ← satisfying Char.isDigit
  let ones ← satisfying Char.isDigit
  return Decimal.value [tens, ones]

/-- The offset from Universal Time, in seconds: `UTC`, `Z`, or a sign, hours and minutes,
between which colons and blanks may stand. -/
def offset : Scan Int := do
  let text ← get
  if (text.take 3).map Char.toUpper = ['U', 'T', 'C'] then
    set (text.drop 3)
    return 0
  match ← next with
  | 'Z' | 'z' => return 0
  | sign =>
    require (sign = '+' || sign = '-' || sign = '\u2212')
    let hours ← twoDigits
    let _ ← takeWhile fun c => c = ':' || isBlank c
    let minutes ← twoDigits
    require (hours < 24 && minutes < 60)
    let seconds : Int := (3600 * hours + 60 * minutes : Nat)
    return if sign = '+' then seconds else -seconds

/-- Reads an instant: date, `T` or a blank, time of day, fraction and offset. -/
def ofText? (text : List Char) : Option Timestamp := do
  let reading : Scan (Int × Nat) := do
    let date ← Reading.date true
    let _ ← satisfying fun c => c = 't' || c = 'T' || c = ' '
    let (hour, minute, second) ← Reading.clock true
    let nanos ← fraction
    blanks
    let shift ← offset
    blanks
    let leap := second = 60
    let civil : DateTime := ⟨date, hour, minute, if leap then 59 else second⟩
    return (civil.toSeconds - shift, if leap then nanos + 1000000000 else nanos)
  let (seconds, nanos) ← reading.whole? text
  ofParts? seconds nanos

end Timestamp

end AssetWatch.Calendar
