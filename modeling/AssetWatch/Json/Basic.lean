import AssetWatch.Json.Number

/-!
# JSON values

The members of an object are kept in the order of the text, repeated keys included; what a
repeated key means is for the reader of the object to say.
-/

namespace AssetWatch

/-- A JSON value. -/
inductive Json
  | null
  | bool (value : Bool)
  | number (literal : Number)
  | string (text : String)
  | array (items : List Json)
  | object (members : List (String × Json))
deriving Inhabited

namespace Json

/-- The number literal of a natural number. -/
def ofNat (n : Nat) : Json := .number (Number.ofNat n)

/-- The text of a string. -/
def text? : Json → Option String
  | .string text => some text
  | _ => none

/-- The natural number below `bound` that a literal stands for. -/
def natural? (bound : Nat) : Json → Option Nat
  | .number literal => literal.natural? bound
  | _ => none

end Json

end AssetWatch
