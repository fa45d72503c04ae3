import AssetWatch.Alert

/-!
# The agent

A monitor that is fed with lines of text and announces transitions by alerts. Blank lines are
skipped; a line that holds no event is reported and leaves everything else as it was.
-/

namespace AssetWatch

namespace Agent

/-- The report about the outcome of an event. -/
def reportOutcome : Outcome → Diagnostic
  | .tracked name => .trackingStarted name
  | .removed name true => .trackingStopped name
  | outcome => .eventProcessed outcome

/-- Takes in one line of text. -/
def takeLine (monitor : Monitor) (now : Seconds) (line : List Char) : Logged Monitor := do
  match Event.ofLine line with
  | .blank => return monitor
  | .malformed =>
    Logged.report .lineDropped
    return monitor
  | .event event =>
    let (monitor, outcome) ← monitor.handle now event
    Logged.report (reportOutcome outcome)
    return monitor

/-- The alerts that announce transitions. The calendar is looked at anew for each of them. -/
def alerts (calendar : Nat → Calendar.Timestamp) (transitions : List Transition) : List Alert :=
  transitions.mapIdx fun turn transition => Alert.ofTransition (calendar turn) transition

/-- Looks for transitions and announces each by a line. -/
def checkBy (monitor : Monitor) (now : Seconds) (calendar : Nat → Calendar.Timestamp) :
    Logged (Monitor × List (List Char)) := do
  let (monitor, transitions) ← monitor.tick now
  return (monitor, (alerts calendar transitions).map Alert.line)

/-- Looks for transitions while the calendar stands still. -/
def check (monitor : Monitor) (now : Seconds) (timestamp : Calendar.Timestamp) :
    Logged (Monitor × List (List Char)) :=
  checkBy monitor now fun _ => timestamp

end Agent

end AssetWatch
