/-!
# TOML values and tables

A table remembers how it came to be, because that decides which later statements may still
add to it. A key occurs at most once in a table. `addKey` places the value of a dotted key,
`updateAt` opens the table that a header names.
-/

namespace AssetWatch

namespace Toml

/-- How a table came to be. -/
inductive Origin
  /-- It has a header of its own. -/
  | header
  /-- It lies on the way to a table with a header. -/
  | implied
  /-- It lies on the way to the value of a dotted key. -/
  | dotted
  /-- It is written in braces. -/
  | inline
deriving DecidableEq, Repr

end Toml

/-- A TOML value. -/
inductive Toml
  | text (value : String)
  | integer (value : Int)
  /-- A number with a fraction or an exponent, infinite, or none at all, as it is written. -/
  | float (literal : String)
  | boolean (value : Bool)
  /-- A date, a time of day or both, as it is written. -/
  | moment (literal : String)
  | array (items : List Toml)
  | table (origin : Toml.Origin) (entries : List (String × Toml))
  /-- The tables under repeated headers in double brackets. -/
  | tables (elements : List (List (String × Toml)))
deriving Inhabited

namespace Toml

/-- The entries of a table. -/
abbrev Entries := List (String × Toml)

/-- The value under a key. -/
def find? (key : String) (entries : Entries) : Option Toml :=
  (entries.find? (fun entry => entry.1 = key)).map (·.2)

/-- Replaces the value under a key. -/
def replace (key : String) (value : Toml) (entries : Entries) : Entries :=
  entries.map fun entry => if entry.1 = key then (key, value) else entry

/-- Adds a key that is not there yet. -/
def add? (key : String) (value : Toml) (entries : Entries) : Option Entries :=
  if (find? key entries).isSome then none else some (entries ++ [(key, value)])

/-- The last element of a list and those before it. -/
def unsnoc? {α : Type} (xs : List α) : Option (List α × α) :=
  xs.getLast?.map fun last => (xs.dropLast, last)

/-- Gives the value to the key at the end of a path. Tables that are missing on the way are
created. The table that the path leads to has to have come about by dotted keys; on the way
there the path may pass through tables that are implied and through the last table of a
repeated header, but never through a table in braces, which is complete as it is written. -/
def addKey (key : String) (value : Toml) : List String → Entries → Option Entries
  | [], entries => add? key value entries
  | step :: path, entries =>
    match find? step entries with
    | none => do
      let inner ← addKey key value path []
      return entries ++ [(step, table .dotted inner)]
    | some (table origin inner) => do
      let passable := match origin with
        | .dotted => true
        | .implied => !path.isEmpty
        | .header | .inline => false
      if passable then
        let inner ← addKey key value path inner
        return replace step (table origin inner) entries
      else none
    | some (tables elements) => do
      let (before, last) ← unsnoc? elements
      if path.isEmpty then none
      else
        let last ← addKey key value path last
        return replace step (tables (before ++ [last])) entries
    | some _ => none

/-- Changes what stands under the key at the end of a path. Tables that are missing on the
way are created; the path may pass through all tables that are not written in braces. -/
def updateAt (change : Option Toml → Option Toml) (key : String) : List String → Entries →
    Option Entries
  | [], entries => do
    let value ← change (find? key entries)
    if (find? key entries).isSome then return replace key value entries
    else return entries ++ [(key, value)]
  | step :: path, entries =>
    match find? step entries with
    | none => do
      let inner ← updateAt change key path []
      return entries ++ [(step, table .implied inner)]
    | some (table origin inner) => do
      if origin = .inline then none
      else
        let inner ← updateAt change key path inner
        return replace step (table origin inner) entries
    | some (tables elements) => do
      let (before, last) ← unsnoc? elements
      let last ← updateAt change key path last
      return replace step (tables (before ++ [last])) entries
    | some _ => none

/-- The key at the end of a path and the path to it. -/
abbrev KeyPath := List String × String

/-- Places the values of dotted keys, one after the other. -/
def addAll (pairs : List (KeyPath × Toml)) (entries : Entries) : Option Entries :=
  pairs.foldlM (fun entries pair => addKey pair.1.2 pair.2 pair.1.1 entries) entries

end Toml

end AssetWatch
