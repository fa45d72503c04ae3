import AssetWatch.AssetName
import AssetWatch.Seconds
import AssetWatch.Text.Decimal
import AssetWatch.Text.Quoted

/-!
# Outcomes

What became of an event that was put into the cache.
-/

namespace AssetWatch

/-- What became of an event. -/
inductive Outcome
  /-- A metric was applied to a watched asset. -/
  | refreshed (name : AssetName)
  /-- The time of a metric lay ahead of the clock; only its time to live was applied. -/
  | futureTimestamp (name : AssetName) (time now : Seconds)
  /-- The asset of a metric is not watched. -/
  | untracked
  /-- The asset is watched from now on. -/
  | tracked (name : AssetName)
  /-- The asset was watched already, and nothing changed. -/
  | alreadyTracked (name : AssetName)
  /-- The asset is not watched any longer. -/
  | removed (name : AssetName) (existed : Bool)
  /-- The asset is of a kind that is not watched. -/
  | ignored
deriving DecidableEq, Repr

namespace Outcome

/-- The asset that the outcome concerns. -/
def asset? : Outcome → Option AssetName
  | refreshed name | tracked name | alreadyTracked name => some name
  | futureTimestamp name _ _ => some name
  | removed name _ => some name
  | untracked | ignored => none

/-- A name as an outcome shows it. -/
def nameText (name : AssetName) : String :=
  "name: AssetName(" ++ Text.quoted name.text ++ ")"

/-- A constructor with its fields. -/
def fieldsText (label : String) (fields : List String) : String :=
  label ++ " \x7b " ++ ", ".intercalate fields ++ " \x7d"

/-- The text of an outcome, with all that is known about it. -/
def text : Outcome → String
  | refreshed name => fieldsText "Refreshed" [nameText name]
  | futureTimestamp name time now =>
    fieldsText "FutureTimestamp" [nameText name, "time: " ++ Text.Decimal.text time.toNat,
      "now: " ++ Text.Decimal.text now.toNat]
  | untracked => "Untracked"
  | tracked name => fieldsText "Tracked" [nameText name]
  | alreadyTracked name => fieldsText "AlreadyTracked" [nameText name]
  | removed name existed =>
    fieldsText "Removed" [nameText name, "existed: " ++ (if existed then "true" else "false")]
  | ignored => "Ignored"

end Outcome

end AssetWatch
