import AssetWatch.Calendar.Timestamp
import AssetWatch.Event.Json
import AssetWatch.Monitor

/-!
# Alerts

An alert announces a transition to the outside: one line of JSON with the version of the
format, the time of the announcement and the transition.
-/

namespace AssetWatch

/-- The announcement of a transition. -/
structure Alert where
  version : UInt32
  timestamp : Calendar.Timestamp
  payload : Transition
deriving DecidableEq

namespace Transition

/-- The object of a transition, its type first. -/
def toJson : Transition → Json
  | raised asset expiredAt =>
    .object [("type", .string "outage_raised"), ("asset", .string asset.text),
      ("expired_at", .ofNat expiredAt.toNat)]
  | resolved asset =>
    .object [("type", .string "outage_resolved"), ("asset", .string asset.text)]

/-- The transition of an asset that has expired. -/
def raisedOfJson? (record : Json) : Option Transition := do
  match ← record.fields? ["asset", "expired_at"] with
  | [asset, expiredAt] =>
    let asset ← Json.required? Json.text? asset
    let expiredAt ← Json.required? Json.seconds? expiredAt
    return raised ⟨asset⟩ expiredAt
  | _ => none

/-- The transition of an asset that is alive again. -/
def resolvedOfJson? (record : Json) : Option Transition := do
  match ← record.fields? ["asset"] with
  | [asset] =>
    let asset ← Json.required? Json.text? asset
    return resolved ⟨asset⟩
  | _ => none

/-- The transition that a JSON value stands for, in either layout of a record. -/
def ofJson? (value : Json) : Option Transition := do
  let (type, record) ← value.tagged? "type"
  if type = "outage_raised" then raisedOfJson? record
  else if type = "outage_resolved" then resolvedOfJson? record
  else none

end Transition

namespace Alert

/-- The version of the format of alerts. -/
def currentVersion : UInt32 := 1

/-- The asset that the alert is about. -/
def asset (alert : Alert) : AssetName := alert.payload.asset

/-- The alert that announces a transition. -/
def ofTransition (timestamp : Calendar.Timestamp) (transition : Transition) : Alert :=
  ⟨currentVersion, timestamp, transition⟩

/-- The object of an alert. -/
def toJson (alert : Alert) : Json :=
  .object [("api_version", .ofNat alert.version.toNat),
    ("timestamp", .string (String.ofList alert.timestamp.text)),
    ("payload", alert.payload.toJson)]

/-- The line of an alert, with the newline that ends it. -/
def line (alert : Alert) : List Char := alert.toJson.write ++ ['\n']

/-- The fields of an alert, in the order of their declaration. -/
def fieldNames : List String := ["api_version", "timestamp", "payload"]

/-- The alert that a JSON value stands for. In the array layout no field may be missing. -/
def ofJson? (value : Json) : Option Alert := do
  match ← value.fields? fieldNames with
  | [version, timestamp, payload] =>
    let version ← Json.required? (Json.natural? UInt32.size) version
    let timestamp ← Json.required? Json.text? timestamp
    let timestamp ← Calendar.Timestamp.ofText? timestamp.toList
    let payload ← Json.required? Transition.ofJson? payload
    return ⟨UInt32.ofNat version, timestamp, payload⟩
  | _ => none

/-- The alert that a text stands for. The values of unknown members are skimmed over. -/
def ofText? (text : List Char) : Option Alert :=
  (Json.parseRecord fieldNames text).bind ofJson?

end Alert

end AssetWatch
