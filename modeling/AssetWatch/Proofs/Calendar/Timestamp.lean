import AssetWatch.Calendar.Timestamp
import AssetWatch.Proofs.Calendar.Date
import AssetWatch.Proofs.Text.Scan

/-!
# Timestamps read back

The text of every instant of the calendar's range is read as that instant, leap seconds and
fractions included (`ofText?_text`).
-/

namespace AssetWatch.Calendar

open Text Text.Decimal Text.Scan

variable {rest : List Char}

/-! ## Dates and times of day -/

namespace Reading

theorem apply_year (year : Int) (rest : List Char) (h : StopsBefore Char.isDigit rest) :
    Reading.year.apply (yearText year ++ rest) = some (year, rest) := by
  have digits := allDigits_padded 4
  have nonempty := padded_ne_nil 4
  unfold yearText
  split
  next four =>
    have same : (year.toNat : Int) = year := by omega
    have length : (padded 4 year.toNat).length = 4 := length_padded (by decide) (by omega)
    have unsigned : ∀ c : Char, c.isDigit = false →
        (padded 4 year.toNat ++ rest).head? ≠ some c :=
      fun c other => head?_append_ne (digits _) (nonempty _) other rest
    rw [Reading.year,
      apply_bind (apply_blanks (stopsBefore_blank_append (digits _) (nonempty _) rest)),
      apply_bind (apply_takes_of_head?_ne (unsigned '-' rfl)), if_neg (by decide),
      apply_bind (apply_takes_of_head?_ne (unsigned '+' rfl)), if_neg (by decide),
      apply_bind (apply_number (digits _) (nonempty _) length rest), value_padded, same]
    rfl
  next long =>
    have number := apply_anyNumber (digits year.natAbs) (nonempty _) h
    rw [Reading.year, List.cons_append]
    by_cases negative : year < 0
    · have same : -(year.natAbs : Int) = year := by omega
      rw [if_pos negative, apply_bind (apply_blanks (stopsBefore_cons.2 (by decide))),
        apply_bind (apply_takes _ _), if_pos rfl, apply_bind number, value_padded, same]
      rfl
    · have same : (year.natAbs : Int) = year := by omega
      rw [if_neg negative, apply_bind (apply_blanks (stopsBefore_cons.2 (by decide))),
        apply_bind (apply_takes_of_head?_ne (by simp)), if_neg (by decide),
        apply_bind (apply_takes _ _), if_pos rfl, apply_bind number, value_padded, same]
      rfl

/-- A numeral of two digits within the bounds is taken. -/
theorem apply_field {low high n : Nat} (h : low ≤ n ∧ n ≤ high) (short : high < 100)
    (rest : List Char) : (field low high).apply (padded 2 n ++ rest) = some (n, rest) := by
  have text := stopsBefore_blank_append (allDigits_padded 2 n) (padded_ne_nil 2 n) rest
  have length : (padded 2 n).length = 2 := length_padded (by decide) (by omega)
  rw [field, apply_bind (apply_blanks text),
    apply_bind (apply_number (allDigits_padded 2 n) (padded_ne_nil 2 n) length rest),
    value_padded, apply_bind (apply_require (by simpa using h))]
  rfl

theorem apply_date {date : Date} (valid : date.isValid = true)
    (inRange : firstYear ≤ date.year ∧ date.year ≤ lastYear) (spaced : Bool)
    (rest : List Char) : (Reading.date spaced).apply (date.text ++ rest) = some (date, rest) := by
  have hyphen (text : List Char) : StopsBefore isBlank ('-' :: text) :=
    stopsBefore_cons.2 (by decide)
  have text : date.text ++ rest = yearText date.year ++
      '-' :: (padded 2 date.month ++ '-' :: (padded 2 date.day ++ rest)) := by
    simp [Date.text]
  have bounds : (1 ≤ date.month ∧ date.month ≤ 12) ∧ 1 ≤ date.day ∧ date.day ≤ 31 := by
    have short := date.monthLength_le
    simp only [Date.isValid, Bool.and_eq_true, decide_eq_true_eq] at valid
    omega
  have year := apply_year date.year
    ('-' :: (padded 2 date.month ++ '-' :: (padded 2 date.day ++ rest)))
    (stopsBefore_cons.2 rfl)
  have month := apply_field bounds.1 (by decide)
    ('-' :: (padded 2 date.day ++ rest))
  have day := apply_field bounds.2 (by decide) rest
  have legal : (date.isValid && firstYear ≤ date.year && date.year ≤ lastYear) = true := by
    simp [valid, inRange]
  rw [text, Reading.date, apply_bind year]
  simp only [apply_optional_blanks (hyphen _), apply_bind (apply_literal '-' _),
    apply_bind month, apply_bind day, apply_bind (apply_require legal)]
  rfl

theorem apply_clock {t : DateTime} (hour : t.hour < 24) (minute : t.minute < 60)
    (second : t.second ≤ 60) (spaced : Bool) (rest : List Char) :
    (clock spaced).apply (t.clockText ++ rest) = some ((t.hour, t.minute, t.second), rest) := by
  have colon (text : List Char) : StopsBefore isBlank (':' :: text) :=
    stopsBefore_cons.2 (by decide)
  have text : t.clockText ++ rest = padded 2 t.hour ++
      ':' :: (padded 2 t.minute ++ ':' :: (padded 2 t.second ++ rest)) := by
    simp [DateTime.clockText]
  have bounds : (0 ≤ t.hour ∧ t.hour ≤ 23) ∧ (0 ≤ t.minute ∧ t.minute ≤ 59) ∧
      0 ≤ t.second ∧ t.second ≤ 60 := by omega
  have hour := apply_field bounds.1 (by decide)
    (':' :: (padded 2 t.minute ++ ':' :: (padded 2 t.second ++ rest)))
  have minute := apply_field bounds.2.1 (by decide) (':' :: (padded 2 t.second ++ rest))
  have second := apply_field bounds.2.2 (by decide) rest
  rw [text, clock, apply_bind hour]
  simp only [apply_optional_blanks (colon _), apply_bind (apply_literal ':' _),
    apply_bind minute, apply_bind second]
  rfl

end Reading

namespace Timestamp

/-! ## Fractions and offsets -/

/-- A written fraction is taken as the nanoseconds that it was written for. -/
theorem apply_fraction {nanos : Nat} (h : nanos < 1000000000)
    (digits : StopsBefore Char.isDigit rest) (point : rest.head? ≠ some '.') :
    fraction.apply (fractionText nanos ++ rest) = some (nanos, rest) := by
  -- a fraction of so many digits, each worth so many nanoseconds
  have written : ∀ width n, 0 < width → width ≤ 9 → n < 10 ^ width →
      fraction.apply ('.' :: (padded width n ++ rest)) =
        some (n * 10 ^ (9 - width), rest) := by
    intro width n positive short small
    have length : (padded width n).length = width := length_padded positive small
    have whole : (padded width n).take 9 = padded width n :=
      List.take_of_length_le (by omega)
    rw [fraction, apply_bind (apply_takes '.' _), if_pos rfl,
      apply_bind (apply_takeWhile1 (allDigits_padded width n) (padded_ne_nil width n) digits),
      whole, value_padded, length]
    rfl
  unfold fractionText
  split
  next zero =>
    rw [List.nil_append, fraction, apply_bind (apply_takes_of_head?_ne point), zero]
    rfl
  split
  next millis =>
    rw [List.cons_append, written 3 _ (by decide) (by decide) (by omega)]
    congr 2
    omega
  split
  next micros =>
    rw [List.cons_append, written 6 _ (by decide) (by decide) (by omega)]
    congr 2
    omega
  next =>
    rw [List.cons_append, written 9 _ (by decide) (by decide) h, Nat.sub_self, Nat.pow_zero,
      Nat.mul_one]

theorem apply_offset : offset.apply ['Z'] = some (0, []) := rfl

theorem ofParts?_eq_some (t : Timestamp) : ofParts? t.seconds t.nanos = some t := by
  rw [ofParts?, dif_pos t.inRange, dif_pos t.leapAtMinuteEnd]

/-! ## The whole text -/

/-- The text of an instant is read as that instant. -/
theorem ofText?_text (t : Timestamp) : ofText? t.text = some t := by
  generalize hwhole : DateTime.ofSeconds t.seconds = whole
  obtain ⟨hour, minute, second⟩ := DateTime.ofSeconds_clock t.seconds
  have years := DateTime.year_ofSeconds t.inRange
  have valid := Date.isValid_ofDays (t.seconds / 86400)
  have seconds := DateTime.toSeconds_ofSeconds t.seconds
  change (DateTime.ofSeconds t.seconds).date.isValid = true at valid
  rw [hwhole] at hour minute second years valid seconds
  have ending := t.leapAtMinuteEnd
  have shown : t.second = whole.second + t.nanos / 1000000000 := by rw [Timestamp.second, hwhole]
  have text : t.text = whole.date.text ++
      'T' :: ({ whole with second := t.second }.clockText ++
        (fractionText (t.nanos % 1000000000) ++ ['Z'])) := by
    simp [Timestamp.text, hwhole]
  have date := Reading.apply_date valid years true
    ('T' :: ({ whole with second := t.second }.clockText ++
        (fractionText (t.nanos % 1000000000) ++ ['Z'])))
  have clock := Reading.apply_clock (t := { whole with second := t.second }) hour minute
    (by show t.second ≤ 60; omega) true (fractionText (t.nanos % 1000000000) ++ ['Z'])
  have nanos := apply_fraction (Nat.mod_lt t.nanos (by decide) : _ < 1000000000)
    (stopsBefore_cons.2 rfl : StopsBefore Char.isDigit ['Z']) (by decide)
  have blanks : StopsBefore isBlank ['Z'] := stopsBefore_cons.2 (by decide)
  rw [ofText?, whole?_of_apply (a := (t.seconds, t.nanos))]
  · exact ofParts?_eq_some t
  rw [text, apply_bind date, apply_bind (apply_satisfying (by decide) _), apply_bind clock]
  simp only [apply_bind nanos, apply_bind (apply_blanks blanks), apply_bind apply_offset,
    apply_bind (apply_blanks (stopsBefore_nil _))]
  rw [apply_pure, Int.sub_zero]
  by_cases leap : t.nanos < 1000000000
  · have same : t.second = whole.second := by omega
    have plain : t.second ≠ 60 := by omega
    have rest : t.nanos % 1000000000 = t.nanos := Nat.mod_eq_of_lt leap
    rw [if_neg plain, if_neg plain, same, rest]
    exact congrArg (fun seconds => some ((seconds, t.nanos), [])) seconds
  · -- the clock shows 60 in place of the last second of the minute
    have last : whole.second = 59 := by omega
    have sixty : t.second = 60 := by omega
    have rest : t.nanos % 1000000000 + 1000000000 = t.nanos := by omega
    rw [if_pos sixty, if_pos sixty, ← last, rest]
    exact congrArg (fun seconds => some ((seconds, t.nanos), [])) seconds

end Timestamp

end AssetWatch.Calendar
