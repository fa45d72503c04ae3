import AssetWatch.Text.Hexadecimal

/-!
# JSON strings

String literals. Writing escapes the quote, the backslash and the control characters below
U+0020 and leaves every other character as it is. Reading takes the escapes of the standard;
a character beyond the basic plane may be given as a pair of surrogates. A surrogate without
its partner denotes no character: a checked literal must not hold one, and in a literal that
is only skimmed over the replacement character stands for it.
-/

namespace AssetWatch.Json.Quote

open Text

/-- The character that a backslash followed by `c` stands for. -/
def named? (c : Char) : Option Char :=
  if c = '\x22' || c = '\\' || c = '/' then some c
  else if c = 'b' then some '\x08'
  else if c = 'f' then some '\x0c'
  else if c = 'n' then some '\n'
  else if c = 'r' then some '\r'
  else if c = 't' then some '\t'
  else none

/-! ## Writing -/

/-- One character of a written literal. -/
def writeChar (c : Char) : List Char :=
  if c = '\x22' then ['\\', '\x22']
  else if c = '\\' then ['\\', '\\']
  else if c = '\x08' then ['\\', 'b']
  else if c = '\x0c' then ['\\', 'f']
  else if c = '\n' then ['\\', 'n']
  else if c = '\r' then ['\\', 'r']
  else if c = '\t' then ['\\', 't']
  else if c.toNat < 0x20 then
    ['\\', 'u', '0', '0', Nat.digitChar (c.toNat / 16), Nat.digitChar (c.toNat % 16)]
  else [c]

/-- The characters of a literal, without the closing quote. -/
def writeChars (text : List Char) : List Char := text.flatMap writeChar

/-- A string literal. -/
def write (text : List Char) : List Char := '\x22' :: writeChars text ++ ['\x22']

/-! ## Reading -/

/-- Where in a literal the next character stands. -/
inductive Place
  /-- Between characters. -/
  | plain
  /-- After a backslash. -/
  | escape
  /-- In a numbered escape: the digits to come, the value so far, and the high surrogate
  before it, if there was one. -/
  | number (missing value : Nat) (high : Option Nat)
  /-- After a high surrogate, where a backslash has to follow. -/
  | pair (high : Nat)
  /-- After a high surrogate and a backslash, where a `u` has to follow. -/
  | pairEscape (high : Nat)
deriving DecidableEq, Repr

/-- What a complete numbered escape leads to: characters and the next place. -/
def closeNumber (checked : Bool) (unit : Nat) : Option Nat → Option (List Char × Place)
  | some high =>
    if 0xdc00 ≤ unit && unit ≤ 0xdfff then
      some ([Char.ofNat (0x10000 + (high - 0xd800) * 1024 + (unit - 0xdc00))], .plain)
    else none
  | none =>
    if 0xd800 ≤ unit && unit ≤ 0xdfff then
      if !checked then some (['\ufffd'], .plain)
      else if unit ≤ 0xdbff then some ([], .pair unit)
      else none
    else some ([Char.ofNat unit], .plain)

/-- What one character of a literal leads to: the characters it completes and the next
place. -/
def step (checked : Bool) : Place → Char → Option (List Char × Place)
  | .plain, c =>
    if c = '\\' then some ([], .escape)
    else if c.toNat < 0x20 then none
    else some ([c], .plain)
  | .escape, c =>
    if c = 'u' then some ([], .number 4 0 none)
    else (named? c).map fun d => ([d], .plain)
  | .number missing value high, c => do
    let digit ← hexValue? c
    let value := value * 16 + digit
    if missing ≤ 1 then closeNumber checked value high
    else return ([], .number (missing - 1) value high)
  | .pair high, c => if c = '\\' then some ([], .pairEscape high) else none
  | .pairEscape high, c => if c = 'u' then some ([], .number 4 0 (some high)) else none

/-- Reads up to the closing quote: the text of the literal and what follows the quote. -/
def readFrom (checked : Bool) : Place → List Char → Option (List Char × List Char)
  | _, [] => none
  | place, c :: rest =>
    if place = .plain ∧ c = '\x22' then some ([], rest)
    else do
      let (completed, place) ← step checked place c
      let (text, rest) ← readFrom checked place rest
      return (completed ++ text, rest)

/-- Reads a literal whose opening quote has been taken. -/
def read (checked : Bool) (text : List Char) : Option (List Char × List Char) :=
  readFrom checked .plain text

end AssetWatch.Json.Quote
