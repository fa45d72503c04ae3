import AssetWatch.Calendar.DateTime

/-!
# The calendar

Every day has one date: the date with a given count of days is a date of the calendar, and
counting its days gives the count again. The same holds of date and time of day for the
seconds, and the instants of the calendar's range have the years of that range.
-/

namespace AssetWatch.Calendar

/-! ## Months -/

namespace Date

/-- The place of a day in a span of months: in one of them, behind all those before it. -/
theorem locate_eq {lengths : List Nat} {days : Nat} (h : days < total lengths) (month : Nat) :
    ∃ before day, locate lengths month days = (month + before, day + 1) ∧
      before < lengths.length ∧ day < (lengths[before]?).getD 0 ∧
      total (lengths.take before) + day = days := by
  induction lengths generalizing month days with
  | nil => cases h
  | cons length lengths ih =>
    have all : total (length :: lengths) = length + total lengths := rfl
    rw [locate]
    split
    next inside => exact ⟨0, days, rfl, Nat.succ_pos _, inside, Nat.zero_add _⟩
    next beyond =>
      obtain ⟨before, day, found, place, inside, same⟩ :=
        ih (by omega : days - length < total lengths) (month + 1)
      refine ⟨before + 1, day, ?_, Nat.succ_lt_succ place, inside, ?_⟩
      · rw [found, Nat.add_assoc, Nat.add_comm 1]
      · have more : total ((length :: lengths).take (before + 1)) =
            length + total (lengths.take before) := rfl
        omega

theorem total_monthLengths (leap : Bool) :
    total (monthLengths leap) = if leap then 366 else 365 := by
  cases leap <;> rfl

theorem monthLength_le (date : Date) : date.monthLength ≤ 31 := by
  have all : ∀ leap, ∀ length ∈ monthLengths leap, length ≤ 31 := by decide
  unfold monthLength
  cases found : (monthLengths (isLeap date.year))[date.month - 1]? with
  | none => decide
  | some length => exact all _ length (List.mem_of_getElem? found)

/-! ## Years -/

/-- A year has 365 days, a leap year one more. -/
theorem daysBeforeYear_succ (year : Int) :
    daysBeforeYear (year + 1) =
      daysBeforeYear year + (if isLeap year then 366 else 365) := by
  unfold daysBeforeYear
  split
  next leap =>
    simp only [isLeap, Bool.and_eq_true, Bool.or_eq_true, decide_eq_true_eq] at leap
    omega
  next common =>
    simp only [isLeap, Bool.and_eq_true, Bool.or_eq_true, decide_eq_true_eq] at common
    omega

theorem daysBeforeYear_le {year later : Int} (h : year ≤ later) :
    daysBeforeYear year ≤ daysBeforeYear later := by
  unfold daysBeforeYear
  omega

section Cycles

-- whole cycles of 400, 100, 4 and 1 years before a year
variable (cycles : Int) {centuries quads years : Int} (hcenturies : 0 ≤ centuries ∧ centuries ≤ 3)
  (hquads : 0 ≤ quads ∧ quads ≤ 24) (hyears : 0 ≤ years ∧ years ≤ 3)

include hcenturies hquads hyears

theorem daysBeforeYear_cycles :
    daysBeforeYear (400 * cycles + 100 * centuries + 4 * quads + years + 1) =
      146097 * cycles + 36524 * centuries + 1461 * quads + 365 * years := by
  have fours : (400 * cycles + 100 * centuries + 4 * quads + years) / 4 =
      100 * cycles + 25 * centuries + quads := by omega
  have hundreds : (400 * cycles + 100 * centuries + 4 * quads + years) / 100 =
      4 * cycles + centuries := by omega
  have whole : (400 * cycles + 100 * centuries + 4 * quads + years) / 400 = cycles := by omega
  rw [daysBeforeYear, Int.add_sub_cancel, fours, hundreds, whole]
  omega

/-- The last year of a cycle of four is a leap year, but not the last one of a century unless
that is the last of a cycle of four hundred years. -/
theorem isLeap_cycles :
    isLeap (400 * cycles + 100 * centuries + 4 * quads + years + 1) = true ↔
      years = 3 ∧ (quads < 24 ∨ centuries = 3) := by
  simp only [isLeap, Bool.and_eq_true, Bool.or_eq_true, decide_eq_true_eq]
  omega

end Cycles

/-- The date with a given count of days has a year and a day of that year that make up the
count. -/
theorem exists_ofDays (days : Int) :
    ∃ year : Int, ∃ day : Nat,
      ofDays days = ⟨year, (locate (monthLengths (isLeap year)) 1 day).1,
        (locate (monthLengths (isLeap year)) 1 day).2⟩ ∧
      day < total (monthLengths (isLeap year)) ∧
      daysBeforeYear year + day = days + epochDay := by
  refine ⟨_, _, rfl, ?_⟩
  generalize hcycles : (days + epochDay) / 146097 = cycles
  generalize hday : (days + epochDay) % 146097 = day
  generalize hcenturies : min (day / 36524) 3 = centuries
  generalize hquads : (day - 36524 * centuries) / 1461 = quads
  generalize hyears : min ((day - 36524 * centuries - 1461 * quads) / 365) 3 = years
  have bounds : (0 ≤ centuries ∧ centuries ≤ 3) ∧ (0 ≤ quads ∧ quads ≤ 24) ∧
      0 ≤ years ∧ years ≤ 3 := by omega
  have count := daysBeforeYear_cycles cycles bounds.1 bounds.2.1 bounds.2.2
  have leap := isLeap_cycles cycles bounds.1 bounds.2.1 bounds.2.2
  constructor
  · -- only the last day of a leap year has a number as large as 365
    rw [total_monthLengths]
    split
    next => omega
    next common =>
      rw [leap] at common
      omega
  · omega

theorem isValid_ofDays (days : Int) : (ofDays days).isValid = true := by
  obtain ⟨year, day, found, inside, -⟩ := exists_ofDays days
  obtain ⟨before, rest, place, month, short, -⟩ := locate_eq inside 1
  have twelve : (monthLengths (isLeap year)).length = 12 := rfl
  rw [found, place]
  simp only [isValid, monthLength, Bool.and_eq_true, decide_eq_true_eq,
    Nat.add_sub_cancel_left]
  omega

/-- Counting the days of the date with a given count gives the count again. -/
theorem toDays_ofDays (days : Int) : (ofDays days).toDays = days := by
  obtain ⟨year, day, found, inside, count⟩ := exists_ofDays days
  obtain ⟨before, rest, place, -, -, sum⟩ := locate_eq inside 1
  rw [found, place]
  simp only [toDays, Nat.add_sub_cancel_left]
  omega

/-- A date lies between the beginning of its year and that of the next. -/
theorem year_ofDays (days : Int) :
    daysBeforeYear (ofDays days).year ≤ days + epochDay ∧
      days + epochDay < daysBeforeYear ((ofDays days).year + 1) := by
  obtain ⟨year, day, found, inside, count⟩ := exists_ofDays days
  have same : (ofDays days).year = year := by rw [found]
  rw [same, daysBeforeYear_succ]
  rw [total_monthLengths] at inside
  constructor
  · omega
  · split at inside
    next leap =>
      rw [if_pos leap]
      omega
    next common =>
      rw [if_neg common]
      omega

/-- The date of a day between the beginnings of two years lies in the years between. -/
theorem year_ofDays_mem {days first last : Int} (h : daysBeforeYear first ≤ days + epochDay)
    (h' : days + epochDay < daysBeforeYear (last + 1)) :
    first ≤ (ofDays days).year ∧ (ofDays days).year ≤ last := by
  obtain ⟨begun, ends⟩ := year_ofDays days
  constructor
  · refine Int.not_lt.1 fun early => ?_
    have := daysBeforeYear_le (Int.add_one_le_of_lt early)
    omega
  · refine Int.not_lt.1 fun late => ?_
    have := daysBeforeYear_le (Int.add_one_le_of_lt late)
    omega

end Date

/-! ## Seconds -/

namespace DateTime

/-- Counting the seconds of the date and time at a given second gives the second again. -/
theorem toSeconds_ofSeconds (seconds : Int) : (ofSeconds seconds).toSeconds = seconds := by
  simp only [toSeconds, ofSeconds, Date.toDays_ofDays]
  omega

theorem ofSeconds_clock (seconds : Int) :
    (ofSeconds seconds).hour < 24 ∧ (ofSeconds seconds).minute < 60 ∧
      ((ofSeconds seconds).second : Int) = seconds % 60 := by
  simp only [ofSeconds]
  omega

/-- The instants of the calendar's range have its years. -/
theorem year_ofSeconds {seconds : Int} (h : firstSecond ≤ seconds ∧ seconds ≤ lastSecond) :
    firstYear ≤ (ofSeconds seconds).date.year ∧ (ofSeconds seconds).date.year ≤ lastYear := by
  have first : 86400 * (daysBeforeYear firstYear - epochDay) = firstSecond := by decide
  have last : 86400 * (daysBeforeYear (lastYear + 1) - epochDay) = lastSecond + 1 := by decide
  apply Date.year_ofDays_mem <;> omega

end DateTime

end AssetWatch.Calendar
