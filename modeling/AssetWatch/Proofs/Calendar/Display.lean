import AssetWatch.Calendar.Display
import AssetWatch.MockTime
import AssetWatch.Proofs.Calendar.Succession
import AssetWatch.Proofs.Calendar.Timestamp

/-!
# Instants and lengths of time as they are shown

An instant that the calendar reaches is shown as the date and time of day to which one counts
from the epoch second by second, in the format in which a mock time is given, and the text is
read again as the same instant. A later one is shown as a number. So no two instants are shown
alike (`Seconds.dateText_tells_instants_apart`).

A length of time is spelled in hours, minutes and seconds (`Seconds.spells_lengthText`), and what
is spelled is one number of seconds (`Seconds.Spells.unique`).
-/

namespace AssetWatch

open Text Calendar

namespace Calendar

/-! ## Formats -/

/-- A date and time of day in a format: a letter behind a percent sign stands for one of its
parts, and any other character for itself. -/
def DateTime.inFormat (t : DateTime) : List Char → List Char
  | [] => []
  | '%' :: 'Y' :: rest => yearText t.date.year ++ t.inFormat rest
  | '%' :: 'm' :: rest => Decimal.padded 2 t.date.month ++ t.inFormat rest
  | '%' :: 'd' :: rest => Decimal.padded 2 t.date.day ++ t.inFormat rest
  | '%' :: 'H' :: rest => Decimal.padded 2 t.hour ++ t.inFormat rest
  | '%' :: 'M' :: rest => Decimal.padded 2 t.minute ++ t.inFormat rest
  | '%' :: 'S' :: rest => Decimal.padded 2 t.second ++ t.inFormat rest
  | c :: rest => c :: t.inFormat rest

theorem DateTime.text_eq_inFormat (t : DateTime) :
    t.text = t.inFormat MockTime.format.toList := by
  have format : MockTime.format.toList =
      ['%', 'Y', '-', '%', 'm', '-', '%', 'd', ' ', '%', 'H', ':', '%', 'M', ':', '%', 'S'] := by
    decide
  simp [format, inFormat, text, Date.text, clockText]

/-- A year that needs more than four digits is written with a plus sign in front. -/
theorem yearText_eq {year : Int} (positive : 0 ≤ year) :
    yearText year =
      if year ≤ 9999 then Decimal.padded 4 year.toNat
      else '+' :: Decimal.digits year.toNat := by
  unfold yearText
  by_cases short : year ≤ 9999
  · rw [if_pos ⟨positive, short⟩, if_pos short]
  · have same : year.natAbs = year.toNat := by omega
    have large : 10 ^ 4 ≤ year.toNat := by omega
    rw [if_neg (fun four => short four.2), if_neg short, if_neg (Int.not_lt.2 positive), same,
      Decimal.padded_eq_digits (by decide) large]

/-! ## Reading -/

namespace DateTime

/-- The text of a date and time of day of the calendar's range is read as these. -/
theorem ofText?_text {seconds : Int} (inRange : firstSecond ≤ seconds ∧ seconds ≤ lastSecond) :
    ofText? (ofSeconds seconds).text = some (ofSeconds seconds) := by
  obtain ⟨hour, minute, second⟩ := ofSeconds_clock seconds
  have years := year_ofSeconds inRange
  have valid : (ofSeconds seconds).date.isValid = true := Date.isValid_ofDays (seconds / 86400)
  have minuteEnds : (ofSeconds seconds).second ≤ 60 := by omega
  generalize ofSeconds seconds = t at hour minute years valid minuteEnds ⊢
  have date := Reading.apply_date valid years false (' ' :: t.clockText)
  have numeral : StopsBefore isBlank t.clockText := by
    rw [clockText, List.append_assoc]
    exact stopsBefore_blank_append (Decimal.allDigits_padded 2 _) (Decimal.padded_ne_nil 2 _) _
  have space : ∀ c ∈ [' '], isBlank c = true := List.forall_mem_singleton.2 (by decide)
  have blank : Scan.blanks.apply (' ' :: t.clockText) = some ((), t.clockText) :=
    Scan.apply_blanks_append space numeral
  have clock := Reading.apply_clock hour minute minuteEnds false []
  rw [List.append_nil] at clock
  rw [ofText?, Scan.whole?_of_apply (a := t)]
  rw [text, Scan.apply_bind date, Scan.apply_bind blank, Scan.apply_bind clock]
  rfl

/-- From the epoch on the years are those from 1970 on. -/
theorem le_year_ofSeconds {seconds : Int} (h : 0 ≤ seconds) :
    1970 ≤ (ofSeconds seconds).date.year := by
  have first : daysBeforeYear 1970 = epochDay := by decide
  obtain ⟨-, inYear⟩ := Date.year_ofDays (seconds / 86400)
  refine Int.not_lt.1 fun early => ?_
  have later := Date.daysBeforeYear_le (Int.add_one_le_of_lt early)
  change seconds / 86400 + epochDay < daysBeforeYear ((ofSeconds seconds).date.year + 1) at inYear
  omega

theorem hyphen_mem_text (t : DateTime) : '-' ∈ t.text := by
  simp [text, Date.text]

end DateTime

end Calendar

namespace Seconds

theorem toList_dateText_of_le {instant : Seconds} (h : (instant.toNat : Int) ≤ lastSecond) :
    instant.dateText.toList = (DateTime.ofSeconds instant.toNat).text := by
  rw [dateText, if_pos h, String.toList_ofList]

theorem toList_dateText_of_lt {instant : Seconds} (h : lastSecond < instant.toNat) :
    instant.dateText.toList = Decimal.digits instant.toNat ++ ['s'] := by
  rw [dateText, if_neg (Int.not_le.2 h), String.toList_ofList]

theorem ofText?_dateText {instant : Seconds} (h : (instant.toNat : Int) ≤ lastSecond) :
    DateTime.ofText? instant.dateText.toList = some (DateTime.ofSeconds instant.toNat) := by
  rw [toList_dateText_of_le h]
  have begins : firstSecond ≤ (instant.toNat : Int) := by
    have early : firstSecond ≤ 0 := by decide
    omega
  exact DateTime.ofText?_text ⟨begins, h⟩

/-- A date has a hyphen in it, a number of seconds has none. -/
theorem dateText_ne {instant other : Seconds} (reached : (instant.toNat : Int) ≤ lastSecond)
    (beyond : lastSecond < other.toNat) : instant.dateText ≠ other.dateText := by
  intro same
  have hyphen := DateTime.hyphen_mem_text (DateTime.ofSeconds instant.toNat)
  rw [← toList_dateText_of_le reached, same, toList_dateText_of_lt beyond] at hyphen
  rcases List.mem_append.1 hyphen with digit | last
  · cases Decimal.allDigits_digits other.toNat '-' digit
  · cases List.mem_singleton.1 last

theorem eq_of_dateText_eq {instant other : Seconds} (same : instant.dateText = other.dateText) :
    instant = other := by
  rw [← UInt64.toNat_inj]
  by_cases reached : (instant.toNat : Int) ≤ lastSecond
  · by_cases reached' : (other.toNat : Int) ≤ lastSecond
    · have read := ofText?_dateText reached
      rw [same, ofText?_dateText reached', Option.some.injEq] at read
      have seconds := congrArg DateTime.toSeconds read
      rw [DateTime.toSeconds_ofSeconds, DateTime.toSeconds_ofSeconds] at seconds
      omega
    · exact absurd same (dateText_ne reached (Int.not_le.1 reached'))
  · have beyond := Int.not_le.1 reached
    by_cases reached' : (other.toNat : Int) ≤ lastSecond
    · exact absurd same.symm (dateText_ne reached' beyond)
    · have texts := congrArg String.toList same
      rw [toList_dateText_of_lt beyond, toList_dateText_of_lt (Int.not_le.1 reached')] at texts
      exact Decimal.digits_inj.1 (List.append_cancel_right texts)

/-- An instant that the calendar reaches, which is any up to the end of the year 262142, is shown
as the date and time of day to which one counts from the epoch second by second. The format is
that of a mock time, with a plus sign before a year of more than four digits, and a mock time
that is set to the text is the same instant. A later instant is shown as the number of its
seconds. No two instants are shown alike. -/
theorem dateText_tells_instants_apart :
    (∀ instant : Seconds, (instant.toNat : Int) ≤ lastSecond →
      let shown := DateTime.next^[instant.toNat] DateTime.epoch
      instant.dateText = String.ofList (shown.inFormat MockTime.format.toList) ∧
      yearText shown.date.year =
        (if shown.date.year ≤ 9999 then Decimal.padded 4 shown.date.year.toNat
        else '+' :: Decimal.digits shown.date.year.toNat) ∧
      DateTime.ofText? instant.dateText.toList = some shown ∧
      shown.toSeconds = instant.toNat ∧
      ∀ environment : Environment,
        environment.text? MockTime.timeVariable = some instant.dateText →
        (MockTime.find environment).value = some (instant.toNat : Int) ∧
          MockTime.reading instant.toNat = instant) ∧
    DateTime.next^[lastSecond.toNat] DateTime.epoch = ⟨⟨262142, 12, 31⟩, 23, 59, 59⟩ ∧
    (∀ instant : Seconds, lastSecond < instant.toNat →
      instant.dateText = Decimal.text instant.toNat ++ "s") ∧
    Function.Injective dateText := by
  refine ⟨?_, ?_, ?_, ?_⟩
  · intro instant reached shown
    have counted : DateTime.ofSeconds instant.toNat = shown :=
      DateTime.ofSeconds_eq_iterate instant.toNat
    have read := ofText?_dateText reached
    have seconds := DateTime.toSeconds_ofSeconds instant.toNat
    have year := DateTime.le_year_ofSeconds (Int.natCast_nonneg instant.toNat)
    rw [counted] at read seconds year
    refine ⟨?_, yearText_eq (by omega), read, seconds, ?_⟩
    · rw [dateText, if_pos reached, counted, DateTime.text_eq_inFormat]
    · intro environment given
      refine ⟨?_, ?_⟩
      · rw [MockTime.find, given]
        simp only [read]
        exact congrArg some seconds
      · exact UInt64.ofNat_toNat
  · rw [← DateTime.ofSeconds_eq_iterate]
    decide
  · intro instant beyond
    rw [dateText, if_neg (Int.not_le.2 beyond), String.ofList_append]
    rfl
  · intro instant other same
    exact eq_of_dateText_eq same

example : dateText 253402300800 = "+10000-01-01 00:00:00" := by decide +kernel

/-! ## Lengths of time -/

/-- A text spells a number of seconds in hours, minutes and seconds. Of the smaller units there
are fewer than make up the next larger one, and larger units that are not reached are left out. -/
inductive Spells : String → Nat → Prop
  | seconds {s : Nat} (hs : s < 60) : Spells (toString s ++ "s") s
  | minutes {m s : Nat} (reached : 0 < m) (hm : m < 60) (hs : s < 60) :
    Spells (toString m ++ "m " ++ toString s ++ "s") (60 * m + s)
  | hours {h m s : Nat} (reached : 0 < h) (hm : m < 60) (hs : s < 60) :
    Spells (toString h ++ "h " ++ toString m ++ "m " ++ toString s ++ "s")
      (3600 * h + 60 * m + s)

theorem spells_lengthText (length : Seconds) : Spells length.lengthText length.toNat := by
  obtain ⟨h, m, s, total, hm, hs⟩ :
      ∃ h m s, length.toNat = 3600 * h + 60 * m + s ∧ m < 60 ∧ s < 60 :=
    ⟨length.toNat / 3600, length.toNat % 3600 / 60, length.toNat % 60, by omega, by omega,
      by omega⟩
  have hours : length.toNat / 3600 = h := by omega
  have minutes : length.toNat % 3600 / 60 = m := by omega
  have seconds : length.toNat % 60 = s := by omega
  simp only [lengthText, hours, minutes, seconds, Decimal.text_eq_toString]
  rw [total]
  split
  next reached => exact .hours reached hm hs
  next noHours =>
    obtain rfl : h = 0 := Nat.eq_zero_of_not_pos noHours
    rw [Nat.mul_zero, Nat.zero_add]
    split
    next reached => exact .minutes reached hm hs
    next noMinutes =>
      obtain rfl : m = 0 := Nat.eq_zero_of_not_pos noMinutes
      rw [Nat.mul_zero, Nat.zero_add]
      exact .seconds hs

/-- What a text spells is one number of seconds. -/
theorem Spells.unique {text : String} {n k : Nat} (h : Spells text n) (h' : Spells text k) :
    n = k := by
  have numeral (n : Nat) : Nat.toDigits 10 n = Decimal.digits n := rfl
  generalize same : text = other at h'
  have chars := congrArg String.toList same
  -- The characters behind the numerals are the units, so texts with other units differ.
  cases h <;> cases h' <;>
    simp (disch := decide) [numeral, Decimal.digits_inj, Decimal.digits_append_cons_inj] at chars
  all_goals omega

/-- In a spelled length there are digits, the names of the units and blanks. -/
theorem Spells.characters {text : String} {n : Nat} (h : Spells text n) :
    ∀ c ∈ text.toList, c.isDigit = true ∨ c ∈ ['h', 'm', 's', ' '] := by
  intro c member
  have numeral {n : Nat} (digit : c ∈ Nat.toDigits 10 n) : c.isDigit = true :=
    Decimal.allDigits_digits n c digit
  cases h <;> simp at member ⊢ <;> grind

end Seconds

end AssetWatch
