import AssetWatch.Text.Hexadecimal
import AssetWatch.Text.Scan

/-!
# The parts of a TOML text

Blanks, line ends, comments, strings and keys.
-/

namespace AssetWatch.Toml

open Text Text.Scan

/-- The blanks within a line. -/
def isSpace (c : Char) : Bool := c = ' ' || c = '\t'

/-- The characters that may stand in strings and comments: all but controls, and the tab. -/
def isTextChar (c : Char) : Bool := c = '\t' || (0x20 ≤ c.toNat && c.toNat ≠ 0x7f)

/-- Takes the blanks that stand next. -/
def spaces : Scan Unit := do let _ ← takeWhile isSpace

/-- Takes the end of a line. -/
def newline : Scan Unit := do
  match ← next with
  | '\n' => pure ()
  | '\r' => literal '\n'
  | _ => failure

/-- Takes a comment, without the end of its line. -/
def comment : Scan Unit := do
  literal '#'
  let _ ← takeWhile isTextChar

/-- Takes the end of a line or stands at the end of the text. -/
def lineEnd : Scan Unit := do if (← peek?).isSome then newline

/-- Takes blanks, a comment if there is one, and the end of the line. -/
def restOfLine : Scan Unit := do
  spaces
  if (← peek?) = some '#' then comment
  lineEnd

/-- Takes items as long as there are any; at most `fuel` of them. -/
def repeated {α : Type} (item : Scan (Option α)) : Nat → Scan (List α)
  | 0 => failure
  | fuel + 1 => do
    match ← item with
    | none => return []
    | some value => return value :: (← repeated item fuel)

/-- Takes items as long as there are any. -/
def many {α : Type} (item : Scan (Option α)) : Scan (List α) := do
  repeated item ((← get).length + 1)

/-- Takes blanks, comments and line ends. -/
def spacesAndLines : Scan Unit := do
  let _ ← many do
    spaces
    match ← peek? with
    | some '#' =>
      comment
      newline
      return some ()
    | some '\n' | some '\r' =>
      newline
      return some ()
    | _ => return none

/-! ## Strings -/

/-- Takes so many hexadecimal digits. -/
def hexNumber : Nat → Nat → Scan Nat
  | 0, value => pure value
  | count + 1, value => do
    match hexValue? (← next) with
    | some digit => hexNumber count (value * 16 + digit)
    | none => failure

/-- Takes what follows the backslash of an escape. -/
def escape : Scan Char := do
  let numbered (count : Nat) : Scan Char := do
    let n ← hexNumber count 0
    require (n.isValidChar)
    return Char.ofNat n
  match ← next with
  | 'b' => return '\x08'
  | 'f' => return '\x0c'
  | 'n' => return '\n'
  | 'r' => return '\r'
  | 't' => return '\t'
  | '\x22' => return '\x22'
  | '\\' => return '\\'
  | 'u' => numbered 4
  | 'U' => numbered 8
  | _ => failure

/-- How a string is delimited. -/
structure Delimiter where
  /-- The quote at both ends. -/
  quote : Char
  /-- Whether a backslash opens an escape. -/
  escapes : Bool
deriving DecidableEq

/-- Strings with escapes. -/
def Delimiter.basic : Delimiter := ⟨'\x22', true⟩

/-- Strings without escapes. -/
def Delimiter.verbatim : Delimiter := ⟨'\x27', false⟩

/-- Takes the rest of a string of one line. -/
def lineString (d : Delimiter) : Scan String := do
  let chars ← many do
    let c ← next
    if c = d.quote then return none
    else if d.escapes && c = '\\' then return some (← escape)
    else
      require (isTextChar c)
      return some c
  return String.ofList chars

/-- Takes blanks and line ends, at least one of these, after a backslash that ends a line. -/
def continuation : Scan Unit := do
  spaces
  newline
  let _ ← many do
    match ← peek? with
    | some ' ' | some '\t' =>
      let _ ← next
      return some ()
    | some '\n' | some '\r' =>
      newline
      return some ()
    | _ => return none

/-- Takes one piece of a string of several lines that is no quote. -/
def blockPiece (d : Delimiter) : Scan (List Char) := do
  match ← next with
  | '\n' => return ['\n']
  | '\r' =>
    literal '\n'
    return ['\n']
  | c =>
    if d.escapes && c = '\\' then
      match ← attempt continuation with
      | some () => return []
      | none => return [← escape]
    else
      require (isTextChar c)
      return [c]

/-- Takes the rest of a string of several lines. Fewer than three quotes in a row belong to
the string, and so do up to two before the closing ones. -/
def blockBody (d : Delimiter) : Nat → Scan (List Char)
  | 0 => failure
  | fuel + 1 => do
    let quotes ← takeWhile (· = d.quote)
    if 3 ≤ quotes.length then
      require (quotes.length ≤ 5)
      return quotes.drop 3
    else
      let piece ← blockPiece d
      return quotes ++ piece ++ (← blockBody d fuel)

/-- Takes a string of several lines whose opening quotes have been taken. -/
def blockString (d : Delimiter) : Scan String := do
  let _ ← attempt newline
  return String.ofList (← blockBody d ((← get).length + 1))

/-- Takes a string of any form. -/
def anyString (d : Delimiter) : Scan String := do
  literal d.quote
  let text ← get
  if [d.quote, d.quote].isPrefixOf text then
    set (text.drop 2)
    blockString d
  else lineString d

/-! ## Keys -/

/-- The characters of a key without quotes. -/
def isBareKeyChar (c : Char) : Bool :=
  ('A' ≤ c && c ≤ 'Z') || ('a' ≤ c && c ≤ 'z') || c.isDigit || c = '-' || c = '_'

/-- Takes one step of a dotted key. -/
def simpleKey : Scan String := do
  match ← peek? with
  | some '\x22' => let _ ← next; lineString .basic
  | some '\x27' => let _ ← next; lineString .verbatim
  | _ => return String.ofList (← takeWhile1 isBareKeyChar)

/-- Takes one step of a dotted key with the blanks around it. -/
def keyStep : Scan String := do
  spaces
  let key ← simpleKey
  spaces
  return key

/-- How deeply values may be nested, and how many steps a dotted key may have. -/
def maxDepth : Nat := 79

/-- Takes a dotted key: the path and its last step. -/
def key : Scan (List String × String) := do
  let first ← keyStep
  let others ← many do
    if ← takes '.' then return some (← keyStep) else return none
  let steps := first :: others
  require (steps.length ≤ maxDepth)
  match steps.getLast? with
  | some last => return (steps.dropLast, last)
  | none => failure

end AssetWatch.Toml
