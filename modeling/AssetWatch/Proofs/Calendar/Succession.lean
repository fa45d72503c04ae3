import AssetWatch.Proofs.Calendar.Date
import Mathlib.Logic.Function.Iterate

/-!
# One day after the other

A date is followed by the next day of its month, or else by the first day of the next month, or
else by the first day of the next year. The numbering of the dates by days follows them in this
order (`Date.ofDays_succ`), and so does the numbering of date and time of day by seconds: whoever
counts second by second from the epoch arrives at the date and time of day that are calculated
(`DateTime.ofSeconds_eq_iterate`).
-/

namespace AssetWatch.Calendar

/-! ## Months -/

theorem total_cons (length : Nat) (lengths : List Nat) :
    total (length :: lengths) = length + total lengths := rfl

theorem total_take_succ (lengths : List Nat) (i : Nat) :
    total (lengths.take (i + 1)) = total (lengths.take i) + (lengths[i]?).getD 0 := by
  induction lengths generalizing i with
  | nil => simp
  | cons length lengths ih =>
    cases i with
    | zero => rw [List.take_succ_cons, total_cons, Nat.add_comm]; rfl
    | succ i =>
      rw [List.take_succ_cons, List.take_succ_cons, total_cons, total_cons, ih, Nat.add_assoc]
      rfl

/-- More months are at least as long. -/
theorem total_take_le (lengths : List Nat) {i j : Nat} (h : i ≤ j) :
    total (lengths.take i) ≤ total (lengths.take j) := by
  induction h with
  | refl => exact Nat.le_refl _
  | step _ ih =>
    rw [total_take_succ]
    omega

namespace Date

variable {date other : Date}

/-- A year lasts as long as its months. -/
theorem daysBeforeYear_next (year : Int) :
    daysBeforeYear (year + 1) = daysBeforeYear year + (total (monthLengths (isLeap year)) : Nat) := by
  rw [daysBeforeYear_succ, total_monthLengths]
  cases isLeap year <;> rfl

theorem toDays_eq (date : Date) :
    date.toDays = daysBeforeYear date.year
      + (total ((monthLengths (isLeap date.year)).take (date.month - 1)) : Nat)
      + ((date.day : Int) - 1) - epochDay := rfl

theorem isValid_iff :
    date.isValid = true ↔ (1 ≤ date.month ∧ date.month ≤ 12) ∧
      1 ≤ date.day ∧ date.day ≤ date.monthLength := by
  simp [isValid, and_assoc]

theorem monthLength_pos (h : 1 ≤ date.month ∧ date.month ≤ 12) : 1 ≤ date.monthLength := by
  have all : ∀ leap, ∀ month < 12, 1 ≤ ((monthLengths leap)[month]?).getD 0 := by decide
  exact all _ _ (by omega)

/-- The months up to that of a date are as long as those before it and itself. -/
theorem total_take_month (h : 1 ≤ date.month) :
    total ((monthLengths (isLeap date.year)).take date.month) =
      total ((monthLengths (isLeap date.year)).take (date.month - 1)) + date.monthLength := by
  obtain ⟨before, month⟩ : ∃ before, date.month = before + 1 := ⟨date.month - 1, by omega⟩
  rw [monthLength, month, total_take_succ, Nat.add_sub_cancel]

/-! ## The next day -/

/-- The date that follows a date. -/
def next (date : Date) : Date :=
  if date.day < date.monthLength then { date with day := date.day + 1 }
  else if date.month < 12 then ⟨date.year, date.month + 1, 1⟩
  else ⟨date.year + 1, 1, 1⟩

theorem isValid_next (valid : date.isValid = true) : date.next.isValid = true := by
  obtain ⟨month, day, -⟩ := isValid_iff.1 valid
  unfold next
  split
  next inside => exact isValid_iff.2 ⟨month, Nat.le_succ_of_le day, inside⟩
  split
  next =>
    have bounds : 1 ≤ date.month + 1 ∧ date.month + 1 ≤ 12 := by omega
    exact isValid_iff.2 ⟨bounds, Nat.le_refl 1, monthLength_pos bounds⟩
  next =>
    have bounds : 1 ≤ 1 ∧ 1 ≤ 12 := by decide
    exact isValid_iff.2 ⟨bounds, Nat.le_refl 1, monthLength_pos bounds⟩

theorem toDays_next (valid : date.isValid = true) : date.next.toDays = date.toDays + 1 := by
  obtain ⟨month, day, inMonth⟩ := isValid_iff.1 valid
  have months := total_take_month month.1
  unfold next
  split
  next inside =>
    simp only [toDays_eq]
    omega
  next lastDay =>
    split
    next =>
      simp only [toDays_eq, Nat.add_sub_cancel]
      omega
    next lastMonth =>
      -- all twelve months are over
      have december : date.month = 12 := by omega
      have year := daysBeforeYear_next date.year
      have first : total ((monthLengths (isLeap (date.year + 1))).take (1 - 1)) = 0 := rfl
      have twelve : (monthLengths (isLeap date.year)).take 12 = monthLengths (isLeap date.year) :=
        rfl
      rw [december, twelve] at months
      simp only [toDays_eq, first, december]
      omega

/-! ## Dates and their numbers -/

/-- A date lies before the next year begins. -/
theorem toDays_lt_next_year (valid : date.isValid = true) :
    date.toDays + epochDay < daysBeforeYear (date.year + 1) := by
  obtain ⟨month, day, inMonth⟩ := isValid_iff.1 valid
  have months := total_take_month month.1
  have inYear := total_take_le (monthLengths (isLeap date.year)) month.2
  have twelve : (monthLengths (isLeap date.year)).take 12 = monthLengths (isLeap date.year) := rfl
  rw [twelve] at inYear
  rw [daysBeforeYear_next, toDays_eq]
  omega

/-- Of two dates with the same number none lies in an earlier year. -/
theorem year_le_of_toDays_eq (valid : date.isValid = true) (valid' : other.isValid = true)
    (same : date.toDays = other.toDays) : date.year ≤ other.year := by
  refine Int.not_lt.1 fun earlier => ?_
  have begins := daysBeforeYear_le (Int.add_one_le_of_lt earlier)
  have ends := toDays_lt_next_year valid'
  obtain ⟨-, day, -⟩ := isValid_iff.1 valid
  rw [← same, toDays_eq] at ends
  omega

/-- Of two dates in one year with the same number none lies in an earlier month. -/
theorem month_le_of_toDays_eq (valid : date.isValid = true) (valid' : other.isValid = true)
    (year : date.year = other.year) (same : date.toDays = other.toDays) :
    date.month ≤ other.month := by
  refine Nat.not_lt.1 fun earlier => ?_
  obtain ⟨month, day, -⟩ := isValid_iff.1 valid
  obtain ⟨month', -, inMonth⟩ := isValid_iff.1 valid'
  have months := total_take_month month'.1
  have begins := total_take_le (monthLengths (isLeap other.year))
    (Nat.le_sub_one_of_lt earlier)
  rw [toDays_eq, toDays_eq, year] at same
  omega

/-- No two dates have the same number. -/
theorem eq_of_toDays_eq (valid : date.isValid = true) (valid' : other.isValid = true)
    (same : date.toDays = other.toDays) : date = other := by
  have year : date.year = other.year :=
    Int.le_antisymm (year_le_of_toDays_eq valid valid' same)
      (year_le_of_toDays_eq valid' valid same.symm)
  have month : date.month = other.month :=
    Nat.le_antisymm (month_le_of_toDays_eq valid valid' year same)
      (month_le_of_toDays_eq valid' valid year.symm same.symm)
  have day : date.day = other.day := by
    rw [toDays_eq, toDays_eq, year, month] at same
    omega
  cases date
  cases other
  simp only at year month day
  rw [year, month, day]

/-- The date with the next number is the next date. -/
theorem ofDays_succ (days : Int) : ofDays (days + 1) = (ofDays days).next := by
  have valid := isValid_ofDays days
  apply eq_of_toDays_eq (isValid_ofDays (days + 1)) (isValid_next valid)
  rw [toDays_next valid, toDays_ofDays, toDays_ofDays]

end Date

/-! ## Seconds -/

namespace DateTime

/-- The second that follows a date and a time of day. -/
def next (t : DateTime) : DateTime :=
  if t.second < 59 then { t with second := t.second + 1 }
  else if t.minute < 59 then { t with minute := t.minute + 1, second := 0 }
  else if t.hour < 23 then ⟨t.date, t.hour + 1, 0, 0⟩
  else ⟨t.date.next, 0, 0, 0⟩

/-- The beginning of the year 1970, at which the count of seconds begins. -/
def epoch : DateTime := ⟨⟨1970, 1, 1⟩, 0, 0, 0⟩

/-- A day and the seconds that are over of it determine date and time of day. -/
theorem ofSeconds_eq {seconds day : Int} {rest : Nat} (whole : seconds = 86400 * day + rest)
    (inDay : rest < 86400) :
    ofSeconds seconds = ⟨Date.ofDays day, rest / 3600, rest / 60 % 60, rest % 60⟩ := by
  have days : seconds / 86400 = day := by omega
  have left : (seconds % 86400).toNat = rest := by omega
  simp only [ofSeconds, days, left]

/-- The date and time of day at the next second are those that follow. -/
theorem ofSeconds_succ (seconds : Int) : ofSeconds (seconds + 1) = (ofSeconds seconds).next := by
  obtain ⟨day, rest, whole, inDay⟩ :
      ∃ (day : Int) (rest : Nat), seconds = 86400 * day + rest ∧ rest < 86400 :=
    ⟨seconds / 86400, (seconds % 86400).toNat, by omega, by omega⟩
  rw [ofSeconds_eq whole inDay]
  by_cases midnight : rest + 1 = 86400
  · have tomorrow : seconds + 1 = 86400 * (day + 1) + (0 : Nat) := by omega
    rw [ofSeconds_eq tomorrow (by decide), Date.ofDays_succ]
    have clock : ¬rest % 60 < 59 ∧ ¬rest / 60 % 60 < 59 ∧ ¬rest / 3600 < 23 := by omega
    simp [next, clock]
  · have today : seconds + 1 = 86400 * day + (rest + 1 : Nat) := by omega
    rw [ofSeconds_eq today (by omega)]
    unfold next
    dsimp only
    split
    next => congr 1 <;> omega
    split
    next => congr 1 <;> omega
    split
    next => congr 1 <;> omega
    next => omega

theorem ofSeconds_zero : ofSeconds 0 = epoch := by decide

/-- Counting second by second from the epoch leads to the date and time of day that are
calculated. -/
theorem ofSeconds_eq_iterate (seconds : Nat) : ofSeconds seconds = next^[seconds] epoch := by
  induction seconds with
  | zero => exact ofSeconds_zero
  | succ seconds ih =>
    rw [Function.iterate_succ_apply', ← ih]
    exact ofSeconds_succ seconds

end DateTime

end AssetWatch.Calendar
