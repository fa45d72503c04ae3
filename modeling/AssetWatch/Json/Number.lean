import AssetWatch.Text.Decimal

/-!
# JSON numbers

A number literal as it is written: a sign, a whole part without leading zeros, the digits of
a fraction, and an exponent. A literal is in range if the double nearest to it is finite,
where the double is computed as the significand of the literal times a power of ten: of the
digits, those are significant that fit into 64 bits, and both factors are rounded to doubles.
-/

namespace AssetWatch

open Text

/-- A number literal. -/
structure Number where
  negative : Bool
  /-- The whole part. -/
  whole : Nat
  /-- The digits of the fraction, empty if the literal has none. -/
  fraction : List (Fin 10)
  /-- The exponent, if the literal has one. -/
  exponent : Option Int
deriving DecidableEq, Repr

namespace Number

/-- The literal of a natural number. -/
def ofNat (n : Nat) : Number := ⟨false, n, [], none⟩

/-- The natural number below `bound` that the literal stands for. A literal with a sign, a
fraction or an exponent stands for none, whatever its value. -/
def natural? (bound : Nat) (n : Number) : Option Nat :=
  match n with
  | ⟨false, whole, [], none⟩ => if whole < bound then some whole else none
  | _ => none

/-! ## The range -/

/-- The natural number rounded to 53 binary digits, a tie going to the even neighbour. -/
def roundedToDouble (n : Nat) : Nat :=
  let shift := n.log2 - 52
  let unit := Nat.pow 2 shift
  let quotient := n / unit
  let rest := n % unit
  let up := unit < 2 * rest || (2 * rest = unit && quotient % 2 = 1)
  (if up then quotient + 1 else quotient) * unit

/-- From here on a positive number rounds to no finite double. -/
def overflow : Nat := Nat.pow 2 1024 - Nat.pow 2 970

/-- Appends digits to a significand as long as it fits into 64 bits: the significand and the
number of digits left over. -/
def absorb : Nat → List (Fin 10) → Nat × Nat
  | significand, [] => (significand, 0)
  | significand, d :: ds =>
    if significand * 10 + d < UInt64.size then absorb (significand * 10 + d) ds
    else (significand, ds.length + 1)

/-- The significand and the power of ten of the literal. -/
def scientific (n : Number) : Nat × Int :=
  let (lead, dropped) := absorb 0 ((Decimal.digits n.whole).map Decimal.digitValue)
  let (significand, unread) := absorb lead n.fraction
  (significand, dropped - ((n.fraction.length - unread : Nat) : Int) + n.exponent.getD 0)

/-- Whether the literal stands for a finite double. -/
def inRange (n : Number) : Bool :=
  let (significand, power) := n.scientific
  significand = 0 || power < 0 ||
    (power ≤ 308 &&
      roundedToDouble significand * roundedToDouble (Decimal.tenTo power.toNat) < overflow)

/-! ## Writing and reading -/

/-- The text of a literal. -/
def text (n : Number) : List Char :=
  (if n.negative then ['-'] else []) ++ Decimal.digits n.whole
    ++ (if n.fraction.isEmpty then [] else '.' :: n.fraction.map Decimal.digitChar)
    ++ match n.exponent with
      | none => []
      | some e => 'e' :: (if e < 0 then ['-'] else []) ++ Decimal.digits e.natAbs

/-- Reads the fraction, if there is one; a point has to be followed by a digit. -/
def readFraction : List Char → Option (List (Fin 10) × List Char)
  | '.' :: rest =>
    match Decimal.span rest with
    | ([], _) => none
    | (ds, rest) => some (ds.map Decimal.digitValue, rest)
  | rest => some ([], rest)

/-- Reads the digits of an exponent, of which there has to be one. -/
def readPower (negative : Bool) (text : List Char) : Option (Option Int × List Char) :=
  match Decimal.span text with
  | ([], _) => none
  | (ds, rest) =>
    let power : Int := Decimal.value ds
    some (some (if negative then -power else power), rest)

/-- Reads the exponent, if there is one. -/
def readExponent : List Char → Option (Option Int × List Char)
  | c :: rest =>
    if c = 'e' || c = 'E' then
      match rest with
      | '+' :: rest => readPower false rest
      | '-' :: rest => readPower true rest
      | rest => readPower false rest
    else some (none, c :: rest)
  | [] => some (none, [])

/-- Reads a literal without its sign. The whole part has no leading zeros. -/
def readUnsigned (negative : Bool) (text : List Char) : Option (Number × List Char) :=
  match Decimal.span text with
  | ([], _) => none
  | ('0' :: _ :: _, _) => none
  | (ds, rest) => do
    let (fraction, rest) ← readFraction rest
    let (exponent, rest) ← readExponent rest
    return (⟨negative, Decimal.value ds, fraction, exponent⟩, rest)

/-- Reads a number literal off the front of a text. -/
def read : List Char → Option (Number × List Char)
  | '-' :: rest => readUnsigned true rest
  | rest => readUnsigned false rest

end Number

end AssetWatch
