import AssetWatch.Calendar.Date
import AssetWatch.Json.Number
import AssetWatch.Toml.Basic
import AssetWatch.Toml.Token

/-!
# Numbers, dates and times in TOML

Integers have 64 bits and a sign. Digits may be separated by single underscores. A number
with a fraction or an exponent must not round to positive infinity.
-/

namespace AssetWatch.Toml

open Text Text.Scan

/-! ## Numbers -/

/-- Whether underscores stand between digits only. -/
def wellSeparated : List Char → Bool
  | [] => false
  | ['_'] => false
  | '_' :: _ => false
  | [_] => true
  | _ :: '_' :: rest => wellSeparated rest
  | _ :: rest => wellSeparated rest

/-- Takes digits with underscores between them and leaves out the underscores. -/
def digitRun (isDigit : Char → Bool) : Scan (List Char) := do
  let run ← takeWhile fun c => isDigit c || c = '_'
  require (wellSeparated run)
  return run.filter (· ≠ '_')

/-- Takes a sign and tells whether it is a minus. -/
def sign : Scan Bool := do
  if ← takes '-' then return true
  else
    let _ ← takes '+'
    return false

/-- Takes digits without leading zeros. -/
def wholeDigits : Scan (List Char) := do
  if ← takes '0' then return ['0'] else digitRun Char.isDigit

/-- An integer of 64 bits. -/
def bounded (n : Int) : Scan Toml := do
  require (-9223372036854775808 ≤ n && n ≤ 9223372036854775807)
  return .integer n

/-- Takes an integer in ten digits. -/
def decimalInteger : Scan Toml := do
  let negative ← sign
  let n := Decimal.value (← wholeDigits)
  bounded (if negative then -(n : Int) else n)

/-- The value of hexadecimal, octal or binary digits. -/
def valueIn (base : Nat) (digits : List Char) : Nat :=
  digits.foldl (fun n c => n * base + (hexValue? c).getD 0) 0

/-- Takes the digits of an integer to another base. -/
def basedInteger (base : Nat) : Scan Toml := do
  let digits ← digitRun fun c => (hexValue? c).any (· < base)
  bounded (valueIn base digits)

/-- Takes an integer, to another base if it begins with `0x`, `0o` or `0b`. -/
def integerValue : Scan Toml := do
  let base := match ← get with
    | '0' :: 'x' :: _ => some 16
    | '0' :: 'o' :: _ => some 8
    | '0' :: 'b' :: _ => some 2
    | _ => none
  match base with
  | some base =>
    modify (·.drop 2)
    basedInteger base
  | none => decimalInteger

/-- Whether `significand * 10 ^ power` rounds to no finite double. -/
def overflows (significand : Nat) (power : Int) : Bool :=
  let size := ((Decimal.digits significand).length : Int) + power
  if significand = 0 || size < 300 then false
  else if 320 < size then true
  else if 0 ≤ power then Number.overflow ≤ significand * Decimal.tenTo power.toNat
  else Number.overflow * Decimal.tenTo (-power).toNat ≤ significand

/-- Takes the exponent of a number. -/
def exponent : Scan Int := do
  let _ ← satisfying fun c => c = 'e' || c = 'E'
  let negative ← sign
  let n := Decimal.value (← digitRun Char.isDigit)
  return if negative then -(n : Int) else n

/-- Takes a number with a fraction or an exponent. -/
def decimalFloat : Scan Unit := do
  let negative ← sign
  let whole ← wholeDigits
  let fraction ← do
    if ← takes '.' then pure (some (← digitRun Char.isDigit)) else pure none
  let power ← do
    match fraction, ← peek? with
    | none, _ | _, some 'e' | _, some 'E' => exponent
    | _, _ => pure 0
  let fraction := fraction.getD []
  require (negative || !overflows (Decimal.value (whole ++ fraction)) (power - fraction.length))

/-- Takes `inf` or `nan`, with a sign or without. -/
def specialFloat : Scan Unit := do
  let _ ← sign
  if (← peek?) = some 'i' then word ['i', 'n', 'f'] else word ['n', 'a', 'n']

/-! ## Dates and times -/

/-- Takes a number of exactly so many digits that lies between the bounds. -/
def fixedNumber (width low high : Nat) : Scan Nat := do
  let digits := (← get).take width
  require (digits.length = width && digits.all Char.isDigit)
  modify (·.drop width)
  let n := Decimal.value digits
  require (low ≤ n && n ≤ high)
  return n

/-- Takes a date. -/
def dateOnly : Scan Unit := do
  let year ← fixedNumber 4 0 9999
  literal '-'
  let month ← fixedNumber 2 1 12
  literal '-'
  let day ← fixedNumber 2 1 31
  require (Calendar.Date.isValid ⟨year, month, day⟩)

/-- Takes a time of day. -/
def timeOnly : Scan Unit := do
  let _ ← fixedNumber 2 0 23
  literal ':'
  let _ ← fixedNumber 2 0 59
  literal ':'
  let _ ← fixedNumber 2 0 60
  if ← takes '.' then
    let _ ← takeWhile1 Char.isDigit

/-- Takes the offset of a time from Universal Time. -/
def timeOffset : Scan Unit := do
  match ← next with
  | 'Z' | 'z' => pure ()
  | '+' | '-' =>
    let _ ← fixedNumber 2 0 23
    literal ':'
    let _ ← fixedNumber 2 0 59
  | _ => failure

/-- Takes a date with the time of day that may follow it, or a time of day. -/
def dateOrTime : Scan Unit := do
  match ← attempt dateOnly with
  | none => timeOnly
  | some () =>
    let _ ← attempt do
      let _ ← satisfying fun c => c = 'T' || c = 't' || c = ' '
      timeOnly
      let _ ← attempt timeOffset

/-! ## Any of them -/

/-- The text that a scan takes. -/
def literalOf (scan : Scan Unit) : Scan String := do
  let before ← get
  scan
  return String.ofList (before.take (before.length - (← get).length))

/-- Takes a number, a date or a time that begins with a digit or a sign. -/
def scalar : Scan Toml := do
  if let some literal ← attempt (literalOf dateOrTime) then return .moment literal
  if let some literal ← attempt (literalOf decimalFloat) then return .float literal
  if let some literal ← attempt (literalOf specialFloat) then return .float literal
  integerValue

end AssetWatch.Toml
