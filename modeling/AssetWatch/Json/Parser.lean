import AssetWatch.Json.Basic
import AssetWatch.Json.Quote

/-!
# Reading JSON

A text is one value with JSON's own blanks around it. A value is read with care, or it is
only skimmed: a checked value must not be nested too deeply, its numbers must be in range and
its strings must hold no lone surrogate; a skimmed one has to follow the grammar and nothing
else. `parse` checks everything. `parseRecord` reads an object of which only some members
matter and skims over the values of the others.
-/

namespace AssetWatch.Json

/-- How closely a value is looked at. -/
inductive Care
  /-- A checked value that may open arrays and objects to the given depth. -/
  | checked (depth : Nat)
  /-- A value that is only skimmed over. -/
  | skimmed
deriving DecidableEq, Repr

namespace Care

/-- The care for what stands inside an array or an object, if it may be opened. -/
def inner? : Care → Option Care
  | checked 0 => none
  | checked (depth + 1) => some (checked depth)
  | skimmed => some skimmed

/-- Whether the value is looked at closely. -/
def isChecked : Care → Bool
  | checked _ => true
  | skimmed => false

end Care

/-- How deeply arrays and objects may be nested. -/
def maxDepth : Nat := 127

/-- The blanks of JSON. -/
def isSpace (c : Char) : Bool := c = ' ' || c = '\n' || c = '\t' || c = '\r'

/-- A text without the blanks it begins with. -/
def skipSpace (text : List Char) : List Char := text.dropWhile isSpace

/-- Takes a keyword off the front of a text. -/
def readWord (word : List Char) (value : Json) (text : List Char) :
    Option (Json × List Char) :=
  if word.isPrefixOf text then some (value, text.drop word.length) else none

/-- Reads a number literal. -/
def readNumber (care : Care) (text : List Char) : Option (Json × List Char) := do
  let (literal, rest) ← Number.read text
  if literal.inRange || !care.isChecked then return (.number literal, rest) else none

/-- Reads a key and the colon after it. -/
def readKey (checked : Bool) (text : List Char) : Option (String × List Char) :=
  match skipSpace text with
  | '\x22' :: rest => do
    let (key, rest) ← Quote.read checked rest
    match skipSpace rest with
    | ':' :: rest => return (String.ofList key, rest)
    | _ => none
  | _ => none

mutual

/-- Reads a value. -/
def readValue : Nat → Care → List Char → Option (Json × List Char)
  | 0, _, _ => none
  | fuel + 1, care, text =>
    match skipSpace text with
    | '\x22' :: rest => do
      let (text, rest) ← Quote.read care.isChecked rest
      return (.string (String.ofList text), rest)
    | '[' :: rest => do
      let inner ← care.inner?
      match skipSpace rest with
      | ']' :: rest => return (.array [], rest)
      | rest =>
        let (items, rest) ← readItems fuel inner rest
        return (.array items, rest)
    | '\x7b' :: rest => do
      let inner ← care.inner?
      let (members, rest) ← readObject fuel inner (fun _ => inner) rest
      return (.object members, rest)
    | 'n' :: rest => readWord "ull".toList .null rest
    | 't' :: rest => readWord "rue".toList (.bool true) rest
    | 'f' :: rest => readWord "alse".toList (.bool false) rest
    | text => readNumber care text

/-- Reads the items of an array that is not empty, and the closing bracket. -/
def readItems : Nat → Care → List Char → Option (List Json × List Char)
  | 0, _, _ => none
  | fuel + 1, care, text => do
    let (item, rest) ← readValue fuel care text
    match skipSpace rest with
    | ']' :: rest => return ([item], rest)
    | ',' :: rest =>
      let (items, rest) ← readItems fuel care rest
      return (item :: items, rest)
    | _ => none

/-- Reads the members of an object whose opening brace has been taken, and the closing
brace. The care for a member's value may depend on its key. -/
def readObject : Nat → Care → (String → Care) → List Char →
    Option (List (String × Json) × List Char)
  | 0, _, _, _ => none
  | fuel + 1, keys, values, text =>
    match skipSpace text with
    | '\x7d' :: rest => some ([], rest)
    | text => readMembers fuel keys values text

/-- Reads the members of an object that is not empty, and the closing brace. -/
def readMembers : Nat → Care → (String → Care) → List Char →
    Option (List (String × Json) × List Char)
  | 0, _, _, _ => none
  | fuel + 1, keys, values, text => do
    let (key, rest) ← readKey keys.isChecked text
    let (value, rest) ← readValue fuel (values key) rest
    match skipSpace rest with
    | '\x7d' :: rest => return ([(key, value)], rest)
    | ',' :: rest =>
      let (members, rest) ← readMembers fuel keys values rest
      return ((key, value) :: members, rest)
    | _ => none

end

/-- More steps than reading a text can take. -/
def enoughFuel (text : List Char) : Nat := 2 * text.length + 3

/-- The value, if nothing but blanks is left. -/
def complete? : Option (Json × List Char) → Option Json
  | some (value, rest) => if (skipSpace rest).isEmpty then some value else none
  | none => none

/-- The value that a text stands for, all of it checked. -/
def parse (text : List Char) : Option Json :=
  complete? (readValue (enoughFuel text) (.checked maxDepth) text)

/-- The value that a text stands for. If it is an object, the values of the members whose
keys are not `known` are only skimmed over. -/
def parseRecord (known : List String) (text : List Char) : Option Json :=
  match skipSpace text with
  | '\x7b' :: rest =>
    let inner := Care.checked (maxDepth - 1)
    let care := fun key => if key ∈ known then inner else .skimmed
    complete? ((readObject (enoughFuel text) inner care rest).map fun (members, rest) =>
      (.object members, rest))
  | _ => parse text

end AssetWatch.Json
