import AssetWatch.Calendar.DateTime
import AssetWatch.Seconds

/-!
# How seconds are shown

An instant is shown as a date with the time of day, a length of time in hours, minutes and
seconds. An instant past the calendar's range is shown as a plain number of seconds.
-/

namespace AssetWatch.Seconds

open Text Calendar

/-- An instant, as a date and a time of day if the calendar reaches it. -/
def dateText (instant : Seconds) : String :=
  if (instant.toNat : Int) ≤ lastSecond then
    String.ofList (DateTime.ofSeconds instant.toNat).text
  else String.ofList (Decimal.digits instant.toNat ++ ['s'])

/-- A length of time, without the larger units that are not reached. -/
def lengthText (length : Seconds) : String :=
  let hours := length.toNat / 3600
  let minutes := length.toNat % 3600 / 60
  let seconds := length.toNat % 60
  if 0 < hours then
    Decimal.text hours ++ "h " ++ Decimal.text minutes ++ "m " ++ Decimal.text seconds ++ "s"
  else if 0 < minutes then Decimal.text minutes ++ "m " ++ Decimal.text seconds ++ "s"
  else Decimal.text seconds ++ "s"

end AssetWatch.Seconds
