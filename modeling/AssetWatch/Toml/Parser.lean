import AssetWatch.Toml.Scalar

/-!
# Reading TOML

A text is a list of statements, one a line: headers and assignments. The assignments before
the first header belong to the table of the whole text, the others to the table that the
header before them names.
-/

namespace AssetWatch.Toml

open Text Text.Scan

mutual

/-- Takes a value that may be nested to the given depth. -/
def value : Nat → Nat → Scan Toml
  | 0, _ => failure
  | fuel + 1, depth => do
    match ← peek? with
    | some '\x22' => return .text (← anyString .basic)
    | some '\x27' => return .text (← anyString .verbatim)
    | some '[' =>
      let _ ← next
      match depth with
      | 0 => failure
      | depth + 1 => return .array (← items fuel depth)
    | some '\x7b' =>
      let _ ← next
      match depth with
      | 0 => failure
      | depth + 1 =>
        let pairs ← fields fuel depth
        match addAll pairs [] with
        | some entries => return .table .inline entries
        | none => failure
    | some 't' =>
      word "true".toList
      return .boolean true
    | some 'f' =>
      word "false".toList
      return .boolean false
    | some 'i' =>
      word "inf".toList
      return .float "inf"
    | some 'n' =>
      word "nan".toList
      return .float "nan"
    | some c =>
      require (c = '+' || c = '-' || c.isDigit)
      scalar
    | none => failure

/-- Takes the items of an array and the closing bracket. A comma may stand behind the last
item. -/
def items : Nat → Nat → Scan (List Toml)
  | 0, _ => failure
  | fuel + 1, depth => do
    spacesAndLines
    if ← takes ']' then return []
    let item ← value fuel depth
    spacesAndLines
    if ← takes ',' then return item :: (← items fuel depth)
    literal ']'
    return [item]

/-- Takes the assignments of a table in braces and the closing brace. -/
def fields : Nat → Nat → Scan (List (KeyPath × Toml))
  | 0, _ => failure
  | fuel + 1, depth => do
    spaces
    if ← takes '\x7d' then return []
    moreFields fuel depth

/-- Takes at least one assignment of a table in braces and the closing brace. -/
def moreFields : Nat → Nat → Scan (List (KeyPath × Toml))
  | 0, _ => failure
  | fuel + 1, depth => do
    let key ← key
    literal '='
    spaces
    let value ← value fuel depth
    spaces
    if ← takes ',' then return (key, value) :: (← moreFields fuel depth)
    literal '\x7d'
    return [(key, value)]

end

/-- A statement of a text. -/
inductive Statement
  /-- Opens a table; with `repeated`, the next one of several under the same header. -/
  | header (repeated : Bool) (key : KeyPath)
  | assignment (key : KeyPath) (value : Toml)

/-- Takes a header and the rest of its line. -/
def header : Scan Statement := do
  literal '['
  let repeated ← takes '['
  let key ← key
  literal ']'
  if repeated then literal ']'
  restOfLine
  return .header repeated key

/-- Takes an assignment and the rest of its line. -/
def assignment : Scan Statement := do
  let key ← key
  literal '='
  spaces
  let value ← value (2 * (← get).length + 3) maxDepth
  restOfLine
  return .assignment key value

/-- Takes a line, which may hold no statement. -/
def line : Scan (Option (List Statement)) := do
  spaces
  match ← peek? with
  | none => return none
  | some '#' =>
    comment
    lineEnd
    return some []
  | some '\n' | some '\r' =>
    newline
    return some []
  | some '[' => return some [← header]
  | some _ => return some [← assignment]

/-- The statements of a text. A byte order mark at its beginning is skipped. -/
def statements (text : List Char) : Option (List Statement) :=
  let scan : Scan (List Statement) := do
    let _ ← takes '\ufeff'
    return (← many line).flatten
  scan.whole? text

/-- The assignments up to the next header, and the headers from there on, each with the
assignments that follow it. -/
def sections : List Statement →
    List (KeyPath × Toml) × List (Bool × KeyPath × List (KeyPath × Toml))
  | [] => ([], [])
  | .assignment key value :: rest =>
    let (pairs, others) := sections rest
    ((key, value) :: pairs, others)
  | .header repeated key :: rest =>
    let (pairs, others) := sections rest
    ([], (repeated, key, pairs) :: others)

/-- Opens the table that a header names and places the assignments in it. A table has one
header; only one that was merely implied so far may get it later. -/
def openTable (root : Entries) : Bool × KeyPath × List (KeyPath × Toml) → Option Entries
  | (true, (path, key), pairs) =>
    updateAt (fun
      | none => (addAll pairs []).map fun entries => tables [entries]
      | some (tables elements) =>
        (addAll pairs []).map fun entries => tables (elements ++ [entries])
      | some _ => none) key path root
  | (false, (path, key), pairs) =>
    updateAt (fun
      | none => (addAll pairs []).map (table .header)
      | some (table .implied entries) => (addAll pairs entries).map (table .header)
      | some _ => none) key path root

/-- The table that a text stands for. -/
def parse (text : List Char) : Option Entries := do
  let (pairs, others) := sections (← statements text)
  let root ← addAll pairs []
  others.foldlM openTable root

end AssetWatch.Toml
