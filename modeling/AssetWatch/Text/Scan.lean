import AssetWatch.Text.Blank
import AssetWatch.Text.Decimal

/-!
# Scanning a text from the left

A scan takes something off the front of a text, or fails. Scans are composed in sequence;
a scan that fails leaves no trace, so `attempt` tries one and goes on without it.
-/

namespace AssetWatch.Text

/-- Takes a value off the front of a text, or fails. -/
abbrev Scan := StateT (List Char) Option

namespace Scan

variable {α : Type}

/-- Applies a scan to a text: the value and what is left of the text. -/
def apply (scan : Scan α) (text : List Char) : Option (α × List Char) := StateT.run scan text

/-- The value of a scan that uses up the whole text. -/
def whole? (scan : Scan α) (text : List Char) : Option α :=
  match scan.apply text with
  | some (value, []) => some value
  | _ => none

/-- Fails unless the condition holds. -/
def require (condition : Bool) : Scan Unit := if condition then pure () else failure

/-- The next character, which stays in the text. -/
def peek? : Scan (Option Char) := do return (← get).head?

/-- Takes the next character. -/
def next : Scan Char := do
  match ← get with
  | [] => failure
  | c :: rest =>
    set rest
    return c

/-- Takes the given character. -/
def literal (c : Char) : Scan Unit := do require ((← next) = c)

/-- Takes the given characters. -/
def word : List Char → Scan Unit
  | [] => pure ()
  | c :: rest => do literal c; word rest

/-- Takes one character with a property. -/
def satisfying (p : Char → Bool) : Scan Char := do
  let c ← next
  require (p c)
  return c

/-- Takes the longest run of characters with a property. -/
def takeWhile (p : Char → Bool) : Scan (List Char) := do
  let text ← get
  set (text.dropWhile p)
  return text.takeWhile p

/-- Takes the longest run of characters with a property, which must not be empty. -/
def takeWhile1 (p : Char → Bool) : Scan (List Char) := do
  let taken ← takeWhile p
  require (!taken.isEmpty)
  return taken

/-- Takes the character if it stands next, and tells whether it did. -/
def takes (c : Char) : Scan Bool := do
  match ← get with
  | d :: rest =>
    if d = c then
      set rest
      return true
    else return false
  | [] => return false

/-- Tries a scan; the text is left as it was if the scan fails. -/
def attempt (scan : Scan α) : Scan (Option α) := fun text =>
  match scan text with
  | some (value, rest) => some (some value, rest)
  | none => some (none, text)

/-- Takes the blanks that stand next. -/
def blanks : Scan Unit := modify trimStart

/-- Takes between one and `limit` digits, as many as there are. -/
def number (limit : Nat) : Scan Nat := do
  let text ← get
  let taken := (text.take limit).takeWhile Char.isDigit
  require (!taken.isEmpty)
  set (text.drop taken.length)
  return Decimal.value taken

/-- Takes all the digits that stand next, at least one. -/
def anyNumber : Scan Nat := do return Decimal.value (← takeWhile1 Char.isDigit)

end Scan

end AssetWatch.Text
