import AssetWatch.Text.Decimal
import Mathlib.Algebra.Group.Nat.Defs

/-!
# Numerals read back

The digits of a number, plain or padded, are digits, and a reader that goes on as long as
there are digits stops right behind them.
-/

namespace AssetWatch.Text

/-- No character with the property stands at the front of the text. -/
def StopsBefore (p : Char → Bool) (text : List Char) : Prop :=
  ∀ c, text.head? = some c → p c = false

theorem stopsBefore_nil (p : Char → Bool) : StopsBefore p [] := by
  intro c h
  cases h

theorem stopsBefore_cons {p : Char → Bool} {c : Char} {rest : List Char} :
    StopsBefore p (c :: rest) ↔ p c = false := by
  simp [StopsBefore]

theorem StopsBefore.takeWhile_eq_nil {p : Char → Bool} {text : List Char}
    (h : StopsBefore p text) : text.takeWhile p = [] := by
  cases text with
  | nil => rfl
  | cons c rest => rw [List.takeWhile_cons_of_neg (by simp [stopsBefore_cons.1 h])]

theorem StopsBefore.dropWhile_eq_self {p : Char → Bool} {text : List Char}
    (h : StopsBefore p text) : text.dropWhile p = text := by
  cases text with
  | nil => rfl
  | cons c rest => rw [List.dropWhile_cons_of_neg (by simp [stopsBefore_cons.1 h])]

/-- A run of characters with a property ends where the next character lacks it. -/
theorem takeWhile_append_eq {p : Char → Bool} {run rest : List Char}
    (hrun : ∀ c ∈ run, p c = true) (hrest : StopsBefore p rest) :
    (run ++ rest).takeWhile p = run := by
  rw [List.takeWhile_append_of_pos hrun, hrest.takeWhile_eq_nil, List.append_nil]

theorem dropWhile_append_eq {p : Char → Bool} {run rest : List Char}
    (hrun : ∀ c ∈ run, p c = true) (hrest : StopsBefore p rest) :
    (run ++ rest).dropWhile p = rest := by
  rw [List.dropWhile_append_of_pos hrun, hrest.dropWhile_eq_self]

/-- Texts that begin with such a run and go on behind it agree part by part. -/
theorem run_append_cons_inj {p : Char → Bool} {run other rest rest' : List Char} {c d : Char}
    (hrun : ∀ c ∈ run, p c = true) (hother : ∀ c ∈ other, p c = true) (hc : p c = false)
    (hd : p d = false) : run ++ c :: rest = other ++ d :: rest' ↔
      run = other ∧ c = d ∧ rest = rest' := by
  have stops : StopsBefore p (c :: rest) := stopsBefore_cons.2 hc
  have stops' : StopsBefore p (d :: rest') := stopsBefore_cons.2 hd
  constructor
  · intro same
    have front := congrArg (List.takeWhile p) same
    have back := congrArg (List.dropWhile p) same
    rw [takeWhile_append_eq hrun stops, takeWhile_append_eq hother stops'] at front
    rw [dropWhile_append_eq hrun stops, dropWhile_append_eq hother stops'] at back
    exact ⟨front, List.cons_eq_cons.1 back⟩
  · rintro ⟨rfl, rfl, rfl⟩
    rfl

namespace Decimal

theorem toNat_of_isDigit {c : Char} (h : c.isDigit = true) : 48 ≤ c.toNat ∧ c.toNat ≤ 57 :=
  Char.isDigit_iff_toNat.1 h

/-- Digits and nothing else. -/
def AllDigits (ds : List Char) : Prop := ∀ c ∈ ds, c.isDigit = true

theorem span_append {ds rest : List Char} (hds : AllDigits ds)
    (hrest : StopsBefore Char.isDigit rest) : span (ds ++ rest) = (ds, rest) := by
  rw [span, takeWhile_append_eq hds hrest, dropWhile_append_eq hds hrest]

/-- A numeral begins with a digit. -/
theorem head?_append_ne {ds : List Char} (hds : AllDigits ds) (nonempty : ds ≠ []) {c : Char}
    (h : c.isDigit = false) (rest : List Char) : (ds ++ rest).head? ≠ some c := by
  cases ds with
  | nil => exact absurd rfl nonempty
  | cons d ds =>
    have digit := hds d List.mem_cons_self
    rintro ⟨⟩
    exact absurd (h.symm.trans digit) (by decide)

theorem allDigits_digits (n : Nat) : AllDigits (digits n) := fun _ h =>
  Nat.isDigit_of_mem_toDigits (by decide) (by decide) h

theorem text_eq_toString (n : Nat) : text n = toString n := rfl

/-- Different numbers have different numerals. -/
theorem digits_inj {n k : Nat} : digits n = digits k ↔ n = k := by
  constructor
  · intro same
    rw [← value_digits n, same, value_digits]
  · rintro rfl
    rfl

/-- A numeral ends where no digit follows. -/
theorem digits_append_cons_inj {n k : Nat} {c d : Char} {rest rest' : List Char}
    (hc : c.isDigit = false) (hd : d.isDigit = false) :
    digits n ++ c :: rest = digits k ++ d :: rest' ↔ n = k ∧ c = d ∧ rest = rest' := by
  rw [run_append_cons_inj (allDigits_digits n) (allDigits_digits k) hc hd, digits_inj]

theorem digits_ne_nil (n : Nat) : digits n ≠ [] := Nat.toDigits_ne_nil

theorem length_digits_le_iff {n width : Nat} (h : 0 < width) :
    (digits n).length ≤ width ↔ n < 10 ^ width :=
  Nat.length_toDigits_le_iff (by decide) h

theorem value_cons (c : Char) (ds : List Char) :
    value (c :: ds) = 10 ^ ds.length * (c.toNat - 48) + value ds := by
  rw [value, Nat.ofDigitChars_cons, Nat.ofDigitChars_eq_ofDigitChars_zero]
  simp [value]

/-- As many digits as there are stand for a number below that power of ten. -/
theorem value_lt {ds : List Char} (h : AllDigits ds) : value ds < 10 ^ ds.length := by
  induction ds with
  | nil => decide
  | cons c ds ih =>
    have rest := ih fun d member => h d (List.mem_cons_of_mem c member)
    have digit : c.toNat - 48 ≤ 9 := by
      have bounds := toNat_of_isDigit (h c List.mem_cons_self)
      omega
    have lead : 10 ^ ds.length * (c.toNat - 48) ≤ 10 ^ ds.length * 9 :=
      Nat.mul_le_mul_left _ digit
    rw [value_cons, List.length_cons, Nat.pow_succ]
    omega

/-- Only the number zero begins with the digit zero. -/
theorem eq_nil_of_digits_eq_zero_cons {n : Nat} {ds : List Char} (h : digits n = '0' :: ds) :
    ds = [] := by
  refine Classical.byContradiction fun more => ?_
  have positive : 0 < ds.length := List.length_pos_iff.2 more
  have rest : AllDigits ds := fun c member =>
    allDigits_digits n c (h ▸ List.mem_cons_of_mem '0' member)
  have same : n = value ds := by
    rw [← value_digits n, h, value_cons]
    simp
  have short : (digits n).length ≤ ds.length :=
    (length_digits_le_iff positive).2 (same ▸ value_lt rest)
  rw [h, List.length_cons] at short
  omega

/-! ## Padded numerals -/

theorem allDigits_padded (width n : Nat) : AllDigits (padded width n) := by
  intro c h
  rcases List.mem_append.1 h with zero | digit
  · rw [List.eq_of_mem_replicate zero]
    rfl
  · exact allDigits_digits n c digit

theorem padded_ne_nil (width n : Nat) : padded width n ≠ [] := fun h =>
  digits_ne_nil n (List.append_eq_nil_iff.1 h).2

@[simp] theorem value_padded (width n : Nat) : value (padded width n) = n := by
  rw [padded, value, Nat.ofDigitChars_append, Nat.ofDigitChars_replicate_zero, Nat.mul_zero]
  exact value_digits n

theorem length_padded {width n : Nat} (h : 0 < width) (small : n < 10 ^ width) :
    (padded width n).length = width := by
  have fits := (length_digits_le_iff h).2 small
  rw [padded, List.length_append, List.length_replicate]
  omega

/-- A number that fills the width gets no zeros in front. -/
theorem padded_eq_digits {width n : Nat} (h : 0 < width) (large : 10 ^ width ≤ n) :
    padded width n = digits n := by
  have wide : ¬(digits n).length ≤ width := by
    rw [length_digits_le_iff h]
    omega
  have zeros : width - (digits n).length = 0 := by omega
  rw [padded, zeros, List.replicate_zero, List.nil_append]

end Decimal

end AssetWatch.Text
