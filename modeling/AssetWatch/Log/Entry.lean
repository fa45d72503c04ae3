import AssetWatch.Text.Decimal
import AssetWatch.Text.Quoted

/-!
# Log entries

A log entry has a level, the part of the program it comes from, a message and named fields.
-/

namespace AssetWatch.Log

/-- How important an entry is, the most important first. -/
inductive Level
  | error
  | warn
  | info
  | debug
  | trace
deriving DecidableEq, Repr

namespace Level

/-- The more important a level, the lower its rank. -/
def rank : Level → Nat
  | error => 1
  | warn => 2
  | info => 3
  | debug => 4
  | trace => 5

/-- The name of a level. -/
def text : Level → String
  | error => "ERROR"
  | warn => "WARN"
  | info => "INFO"
  | debug => "DEBUG"
  | trace => "TRACE"

end Level

/-- The value of a field. -/
inductive Value
  | number (n : Nat)
  | flag (b : Bool)
  /-- A text that is shown as it is. -/
  | shown (text : String)
  /-- A text that is shown in quotes. -/
  | quoted (text : String)
  /-- A value that is not shown. -/
  | withheld
deriving DecidableEq, Repr

namespace Value

/-- The value as plain text. -/
def plain : Value → String
  | number n => Text.Decimal.text n
  | flag true => "true"
  | flag false => "false"
  | shown text | quoted text => text
  | withheld => ""

/-- The value as it stands in a line of the log. -/
def text : Value → String
  | quoted text => Text.quoted text
  | value => value.plain

end Value

/-- An entry of the log. -/
structure Entry where
  level : Level
  /-- The part of the program that the entry comes from. -/
  target : String
  message : String
  fields : List (String × Value)
deriving DecidableEq, Repr

namespace Entry

/-- The names of the fields, of which the message is one. -/
def fieldNames (entry : Entry) : List String := "message" :: entry.fields.map (·.1)

/-- The fields whose values are shown. -/
def shownFields (entry : Entry) : List (String × Value) :=
  entry.fields.filter fun field => field.2 ≠ .withheld

/-- The line of an entry, without its time. -/
def text (entry : Entry) : String :=
  entry.level.text ++ " " ++ entry.target ++ ": " ++ entry.message
    ++ String.join (entry.shownFields.map fun field => " " ++ field.1 ++ "=" ++ field.2.text)

end Entry

end AssetWatch.Log
