import AssetWatch.AssetName
import AssetWatch.Seconds
import AssetWatch.Text.Decimal

/-!
# Events

What the agent is told about assets: that a metric was measured on one, or that one was
created, changed or removed. The attributes of an asset say what kind of asset it is; only
some kinds of devices are watched for signs of life.
-/

namespace AssetWatch

/-- Named attributes. -/
abbrev Attributes := SortedMap String String

/-- A measurement. -/
structure Metric where
  /-- The asset on which the metric was measured. -/
  source : AssetName
  quantity : String
  value : String
  unit : String
  /-- The time after which the next measurement is expected. -/
  ttl : Seconds
  /-- When the measurement was made, if the producer says so. -/
  time : Option Seconds
  aux : Attributes
deriving DecidableEq

/-- The time of the measurement; without one, the given time. -/
def Metric.timeOr (metric : Metric) (default : Seconds) : Seconds := metric.time.getD default

/-- What happened to an asset. -/
inductive Operation
  | create
  | update
  | delete
  | retire
  | inventory
  /-- Anything else, by its name. -/
  | other (name : String)
deriving DecidableEq, Repr

namespace Operation

/-- The name of an operation. -/
def text : Operation → String
  | create => "create"
  | update => "update"
  | delete => "delete"
  | retire => "retire"
  | inventory => "inventory"
  | other name => name

/-- The operation with the given name. -/
def ofText (name : String) : Operation :=
  if name = "create" then create
  else if name = "update" then update
  else if name = "delete" then delete
  else if name = "retire" then retire
  else if name = "inventory" then inventory
  else other name

end Operation

/-- A notice that an asset was created, changed or removed. -/
structure AssetNotice where
  name : AssetName
  operation : Operation
  /-- Type, subtype, status and the chain of parents. -/
  aux : Attributes
  /-- Further attributes, among them the port of a sensor. -/
  ext : Attributes
deriving DecidableEq

namespace AssetNotice

/-- The subtypes of devices that are watched. -/
def trackedSubtypes : List String := ["ups", "epdu", "sensor"]

/-- An attribute of the first group, empty if it is missing. -/
def auxText (notice : AssetNotice) (key : String) : String := (notice.aux.get? key).getD ""

/-- An attribute of the second group, empty if it is missing. -/
def extText (notice : AssetNotice) (key : String) : String := (notice.ext.get? key).getD ""

/-- The type of the asset, such as `device`. -/
def assetType (notice : AssetNotice) : String := notice.auxText "type"

/-- The subtype of the asset, such as `ups`. -/
def subtype (notice : AssetNotice) : String := notice.auxText "subtype"

/-- Where the asset stands in its life, such as `active` or `retired`. -/
def status (notice : AssetNotice) : String := notice.auxText "status"

/-- The port that a sensor is plugged into. -/
def port (notice : AssetNotice) : String := notice.extText "port"

/-- The name of the asset's parent so many levels up; level 1 is the direct parent. -/
def parentName (notice : AssetNotice) (level : Nat) : String :=
  notice.auxText ("parent_name." ++ Text.Decimal.text level)

/-- Whether the notice takes the asset out of the watch. -/
def isRemoval (notice : AssetNotice) : Bool :=
  notice.operation = .delete || notice.status = "retired"

/-- Whether the asset is of a kind that is watched. -/
def isTrackedKind (notice : AssetNotice) : Bool :=
  notice.assetType = "device" && trackedSubtypes.contains notice.subtype

end AssetNotice

/-- What the agent is told. -/
inductive Event
  | metric (metric : Metric)
  | asset (notice : AssetNotice)
deriving DecidableEq

end AssetWatch
