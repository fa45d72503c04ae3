import AssetWatch.Calendar.Reading
import AssetWatch.Environment
import AssetWatch.Log.Logged

/-!
# Mock time

For trying things out, the clock can be set to another time by an environment variable. A
value that is no date and time is reported and has no effect.
-/

namespace AssetWatch.MockTime

open Calendar

/-- The variable that holds the time. -/
def timeVariable : String := "OUTAGE_MOCK_TIME"

/-- The format of the time. -/
def format : String := "%Y-%m-%d %H:%M:%S"

/-- The time that the environment sets, in seconds from the Unix epoch. The second 60 of a
minute is the first one of the next minute. -/
def find (environment : Environment) : Logged (Option Int) := do
  match environment.text? timeVariable with
  | none => return none
  | some text =>
    match DateTime.ofText? text.toList with
    | some time =>
      Logged.report (.mockTimeEnabled text)
      return some time.toSeconds
    | none =>
      Logged.report (.mockTimeInvalid text format)
      return none

/-- What a clock shows at the given second; before the Unix epoch it shows 0. -/
def reading (seconds : Int) : Seconds := UInt64.ofNat seconds.toNat

end AssetWatch.MockTime
