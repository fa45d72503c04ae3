import AssetWatch.Event
import AssetWatch.Json.Parser
import AssetWatch.Json.Printer
import AssetWatch.Json.Record
import AssetWatch.Text.Blank

/-!
# Events in JSON

An event is a record of the kind `metric` or `asset`, in either of the two layouts. Texts are
strings, times are numbers that fit into 64 bits, attributes are objects of strings, of which
the last one with a key counts. A time may be `null` or missing, attributes may be missing.
-/

namespace AssetWatch

namespace Json

/-- The number of seconds that a literal stands for. -/
def seconds? (value : Json) : Option Seconds := (value.natural? UInt64.size).map UInt64.ofNat

/-- The attributes that an object of strings stands for. -/
def attributes? : Json → Option Attributes
  | .object members => do
    let entries ← members.mapM fun member => do return (member.1, ← member.2.text?)
    return SortedMap.ofList entries
  | _ => none

/-- A field that must be there. -/
def required? {α : Type} (read : Json → Option α) (field : Option Json) : Option α :=
  field.bind read

/-- A field that may be missing. -/
def optional? {α : Type} (default : α) (read : Json → Option α) :
    Option Json → Option α
  | none => some default
  | some value => read value

/-- A value that may be `null`. -/
def nullable? {α : Type} (read : Json → Option α) : Json → Option (Option α)
  | .null => some none
  | value => (read value).map some

/-- The object of some attributes. -/
def ofAttributes (attributes : Attributes) : Json :=
  .object (attributes.entries.map fun entry => (entry.1, .string entry.2))

end Json

namespace Metric

/-- The fields of a metric, in the order of their declaration. -/
def fieldNames : List String := ["source", "quantity", "value", "unit", "ttl", "time", "aux"]

/-- The metric that a record stands for. -/
def ofJson? (record : Json) : Option Metric := do
  match ← record.fields? fieldNames with
  | [source, quantity, value, unit, ttl, time, aux] =>
    let source ← Json.required? Json.text? source
    let quantity ← Json.required? Json.text? quantity
    let value ← Json.required? Json.text? value
    let unit ← Json.required? Json.text? unit
    let ttl ← Json.required? Json.seconds? ttl
    let time ← Json.optional? none (Json.nullable? Json.seconds?) time
    let aux ← Json.optional? .empty Json.attributes? aux
    return ⟨⟨source⟩, quantity, value, unit, ttl, time, aux⟩
  | _ => none

/-- The members that describe a metric. -/
def members (metric : Metric) : List (String × Json) :=
  [("source", .string metric.source.text), ("quantity", .string metric.quantity),
    ("value", .string metric.value), ("unit", .string metric.unit),
    ("ttl", .ofNat metric.ttl.toNat),
    ("time", (metric.time.map fun time => Json.ofNat time.toNat).getD .null),
    ("aux", .ofAttributes metric.aux)]

end Metric

namespace AssetNotice

/-- The fields of a notice, in the order of their declaration. -/
def fieldNames : List String := ["name", "operation", "aux", "ext"]

/-- The notice that a record stands for. -/
def ofJson? (record : Json) : Option AssetNotice := do
  match ← record.fields? fieldNames with
  | [name, operation, aux, ext] =>
    let name ← Json.required? Json.text? name
    let operation ← Json.required? Json.text? operation
    let aux ← Json.optional? .empty Json.attributes? aux
    let ext ← Json.optional? .empty Json.attributes? ext
    return ⟨⟨name⟩, .ofText operation, aux, ext⟩
  | _ => none

/-- The members that describe a notice. -/
def members (notice : AssetNotice) : List (String × Json) :=
  [("name", .string notice.name.text), ("operation", .string notice.operation.text),
    ("aux", .ofAttributes notice.aux), ("ext", .ofAttributes notice.ext)]

end AssetNotice

namespace Event

/-- The event that a JSON value stands for. -/
def ofJson? (value : Json) : Option Event := do
  let (kind, record) ← value.tagged? "kind"
  if kind = "metric" then (Metric.ofJson? record).map .metric
  else if kind = "asset" then (AssetNotice.ofJson? record).map .asset
  else none

/-- The object of an event, its kind first. -/
def toJson : Event → Json
  | .metric m => .object (("kind", .string "metric") :: m.members)
  | .asset notice => .object (("kind", .string "asset") :: notice.members)

/-- The text of an event. -/
def encode (event : Event) : List Char := event.toJson.write

/-- What a line of input holds. -/
inductive Line
  | blank
  | event (event : Event)
  | malformed
deriving DecidableEq

/-- Reads a line of input; blanks at its ends do not count. -/
def ofLine (line : List Char) : Line :=
  match Text.trim line with
  | [] => .blank
  | text =>
    match (Json.parse text).bind ofJson? with
    | some event => .event event
    | none => .malformed

end Event

end AssetWatch
