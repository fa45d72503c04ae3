/-!
# Decimal numerals

Natural numbers written in ten digits, plain or padded with zeros, and read back. Reading
what was written gives the number again (`value_digits`).
-/

namespace AssetWatch.Text.Decimal

/-- The digits of `n`, without leading zeros. -/
def digits (n : Nat) : List Char := Nat.toDigits 10 n

/-- The number that a list of digits stands for. -/
def value (ds : List Char) : Nat := Nat.ofDigitChars 10 ds 0

/-- The digits of `n`, with zeros in front up to the given width. -/
def padded (width n : Nat) : List Char :=
  List.replicate (width - (digits n).length) '0' ++ digits n

/-- The text of `n`. -/
def text (n : Nat) : String := String.ofList (digits n)

/-- The power of ten with the given exponent. -/
def tenTo (exponent : Nat) : Nat := Nat.pow 10 exponent

/-- The digit character of a digit. -/
def digitChar (d : Fin 10) : Char := Nat.digitChar d

/-- The digit that a digit character stands for. -/
def digitValue (c : Char) : Fin 10 := Fin.ofNat 10 (c.toNat - 48)

@[simp] theorem value_digits (n : Nat) : value (digits n) = n :=
  Nat.ofDigitChars_toDigits (by decide) (by decide)

@[simp] theorem digitValue_digitChar (d : Fin 10) : digitValue (digitChar d) = d := by
  revert d
  decide

theorem isDigit_digitChar (d : Fin 10) : (digitChar d).isDigit = true := by
  revert d
  decide

/-- The number that a text of digits stands for; a plus sign may precede them. -/
def natural? (text : List Char) : Option Nat :=
  let digits := match text with
    | '+' :: rest => rest
    | _ => text
  if digits.isEmpty || !digits.all Char.isDigit then none else some (value digits)

/-- The leading digits of a text and what follows them. -/
def span (text : List Char) : List Char × List Char :=
  (text.takeWhile Char.isDigit, text.dropWhile Char.isDigit)

end AssetWatch.Text.Decimal
