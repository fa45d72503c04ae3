import AssetWatch.Json.Number
import AssetWatch.Proofs.Text.Decimal

/-!
# Number literals read back

A written literal gives itself back when it is read, as long as what follows it cannot be
taken for more of it. The literal of a natural number below 2⁶⁴ is in range.
-/

namespace AssetWatch.Number

open Text Text.Decimal

/-- Whether a character behind a literal could be taken for a part of it. -/
def isPart (c : Char) : Bool := c.isDigit || c = '.' || c = 'e' || c = 'E'

/-- The text of a fraction. -/
def fractionText (fraction : List (Fin 10)) : List Char :=
  if fraction.isEmpty then [] else '.' :: fraction.map digitChar

/-- The text of an exponent. -/
def exponentText : Option Int → List Char
  | none => []
  | some e => 'e' :: (if e < 0 then ['-'] else []) ++ digits e.natAbs

theorem text_eq (n : Number) :
    n.text = (if n.negative then ['-'] else []) ++
      (digits n.whole ++ (fractionText n.fraction ++ exponentText n.exponent)) := by
  rw [text, List.append_assoc, List.append_assoc]
  cases n.exponent <;> rfl

variable {rest : List Char}

theorem stopsBefore_digits (h : StopsBefore isPart rest) :
    StopsBefore Char.isDigit rest := by
  intro c head
  have := h c head
  simp only [isPart, Bool.or_eq_false_iff] at this
  exact this.1.1.1

theorem stopsBefore_exponent (e : Option Int) (h : StopsBefore isPart rest) :
    StopsBefore Char.isDigit (exponentText e ++ rest) := by
  cases e with
  | none => exact stopsBefore_digits h
  | some e => exact stopsBefore_cons.2 rfl

theorem stopsBefore_fraction (fraction : List (Fin 10)) (h : StopsBefore Char.isDigit rest) :
    StopsBefore Char.isDigit (fractionText fraction ++ rest) := by
  cases fraction with
  | nil => exact h
  | cons d ds => exact stopsBefore_cons.2 rfl

/-! ## The parts of a literal -/

theorem readPower_digits (negative : Bool) (e : Nat) (h : StopsBefore Char.isDigit rest) :
    readPower negative (digits e ++ rest) =
      some (some (if negative then -(e : Int) else e), rest) := by
  have taken := span_append (allDigits_digits e) h
  unfold readPower
  split
  next nothing => exact absurd (Prod.ext_iff.1 (taken.symm.trans nothing)).1 (digits_ne_nil e)
  next found =>
    obtain ⟨rfl, rfl⟩ := Prod.ext_iff.1 (taken.symm.trans found)
    simp

theorem readExponent_exponentText (e : Option Int) (h : StopsBefore isPart rest) :
    readExponent (exponentText e ++ rest) = some (e, rest) := by
  have after := stopsBefore_digits h
  cases e with
  | none =>
    cases rest with
    | nil => rfl
    | cons c rest =>
      have part := stopsBefore_cons.1 h
      simp only [isPart, Bool.or_eq_false_iff, decide_eq_false_iff_not] at part
      simp [exponentText, readExponent, part]
  | some e =>
    by_cases negative : e < 0
    · have written : exponentText (some e) ++ rest = 'e' :: '-' :: (digits e.natAbs ++ rest) := by
        simp [exponentText, negative]
      have same : -(e.natAbs : Int) = e := by omega
      rw [written]
      exact (readPower_digits true e.natAbs after).trans (by rw [if_pos rfl, same])
    · have written : exponentText (some e) ++ rest = 'e' :: (digits e.natAbs ++ rest) := by
        simp [exponentText, negative]
      have same : (e.natAbs : Int) = e := by omega
      rw [written]
      have read := readPower_digits false e.natAbs after
      simp only [same, Bool.false_eq_true, if_false] at read
      cases shape : digits e.natAbs with
      | nil => exact absurd shape (digits_ne_nil _)
      | cons d ds =>
        have digit := allDigits_digits e.natAbs d (shape ▸ List.mem_cons_self)
        rw [shape, List.cons_append] at read
        simp only [readExponent, decide_true, Bool.true_or, if_true, List.cons_append]
        split
        next plus => cases plus; cases digit
        next minus => cases minus; cases digit
        next => exact read

theorem readFraction_fractionText (fraction : List (Fin 10))
    (h : StopsBefore Char.isDigit rest) (point : rest.head? ≠ some '.') :
    readFraction (fractionText fraction ++ rest) = some (fraction, rest) := by
  cases fraction with
  | nil =>
    change readFraction rest = _
    unfold readFraction
    split
    · exact absurd rfl point
    · rfl
  | cons d ds =>
    have taken : span ((d :: ds).map digitChar ++ rest) = ((d :: ds).map digitChar, rest) := by
      refine span_append (fun c member => ?_) h
      obtain ⟨d, -, rfl⟩ := List.mem_map.1 member
      exact isDigit_digitChar d
    have written : fractionText (d :: ds) ++ rest =
        '.' :: ((d :: ds).map digitChar ++ rest) := rfl
    rw [written, readFraction, taken]
    simp [Function.comp_def]

/-! ## The whole literal -/

theorem readUnsigned_digits (negative : Bool) (whole : Nat) (fraction : List (Fin 10))
    (e : Option Int) (h : StopsBefore isPart rest) :
    readUnsigned negative
        (digits whole ++ (fractionText fraction ++ (exponentText e ++ rest))) =
      some (⟨negative, whole, fraction, e⟩, rest) := by
  have behind := stopsBefore_exponent e h
  have point : (exponentText e ++ rest).head? ≠ some '.' := by
    intro head
    cases e with
    | none => cases h '.' head
    | some e => cases head
  have taken := span_append (allDigits_digits whole) (stopsBefore_fraction fraction behind)
  unfold readUnsigned
  split
  next nothing =>
    exact absurd (Prod.ext_iff.1 (taken.symm.trans nothing)).1 (digits_ne_nil whole)
  next leading =>
    cases eq_nil_of_digits_eq_zero_cons (Prod.ext_iff.1 (taken.symm.trans leading)).1
  next found =>
    obtain ⟨rfl, rfl⟩ := Prod.ext_iff.1 (taken.symm.trans found)
    simp [readFraction_fractionText fraction behind point, readExponent_exponentText e h]

/-- Reading takes back a written literal and stops right behind it. -/
theorem read_text (n : Number) (h : StopsBefore isPart rest) :
    read (n.text ++ rest) = some (n, rest) := by
  obtain ⟨negative, whole, fraction, e⟩ := n
  have read := readUnsigned_digits negative whole fraction e h
  rw [text_eq, List.append_assoc, List.append_assoc, List.append_assoc]
  cases negative with
  | true => exact read
  | false =>
    cases shape : digits whole with
    | nil => exact absurd shape (digits_ne_nil whole)
    | cons d ds =>
      have digit := allDigits_digits whole d (shape ▸ List.mem_cons_self)
      rw [shape] at read
      change Number.read (d :: _) = _
      unfold Number.read
      split
      next minus => cases minus; cases digit
      next => exact read

/-- A written literal begins with a sign or a digit. -/
theorem exists_text_eq_cons (n : Number) :
    ∃ c rest, n.text = c :: rest ∧ (c = '-' ∨ c.isDigit = true) := by
  rw [text_eq]
  cases n.negative with
  | true => exact ⟨_, _, rfl, .inl rfl⟩
  | false =>
    cases shape : digits n.whole with
    | nil => exact absurd shape (digits_ne_nil _)
    | cons d ds =>
      exact ⟨d, _, rfl, .inr (allDigits_digits _ d (shape ▸ List.mem_cons_self))⟩

/-- A written literal holds no control character. -/
theorem printable_of_mem_text {n : Number} {c : Char} (h : c ∈ n.text) : 0x20 ≤ c.toNat := by
  have digit : ∀ {c : Char}, c.isDigit = true → 0x20 ≤ c.toNat := fun h =>
    Nat.le_trans (by decide) (toNat_of_isDigit h).1
  rw [text_eq] at h
  rcases List.mem_append.1 h with sign | h
  · split at sign
    · rw [List.mem_singleton.1 sign]
      decide
    · cases sign
  rcases List.mem_append.1 h with whole | h
  · exact digit (allDigits_digits _ c whole)
  rcases List.mem_append.1 h with fraction | exponent
  · unfold fractionText at fraction
    split at fraction
    · cases fraction
    · rcases List.mem_cons.1 fraction with rfl | member
      · decide
      · obtain ⟨d, -, rfl⟩ := List.mem_map.1 member
        exact digit (isDigit_digitChar d)
  · cases power : n.exponent with
    | none => rw [power] at exponent; cases exponent
    | some e =>
      rw [power, exponentText, List.cons_append] at exponent
      rcases List.mem_cons.1 exponent with rfl | member
      · decide
      rcases List.mem_append.1 member with sign | member
      · split at sign
        · rw [List.mem_singleton.1 sign]
          decide
        · cases sign
      · exact digit (allDigits_digits _ c member)

/-! ## The range of natural numbers -/

/-- A significand with digits appended to it. -/
def appended (significand : Nat) (ds : List (Fin 10)) : Nat :=
  ds.foldl (fun (n : Nat) (d : Fin 10) => n * 10 + d) significand

theorem le_appended (significand : Nat) (ds : List (Fin 10)) :
    significand ≤ appended significand ds := by
  induction ds generalizing significand with
  | nil => exact Nat.le_refl _
  | cons d ds ih =>
    have := ih (significand * 10 + d)
    rw [appended, List.foldl_cons]
    exact Nat.le_trans (by omega) this

/-- Digits that fit into a word are all absorbed. -/
theorem absorb_eq {significand : Nat} {ds : List (Fin 10)}
    (h : appended significand ds < UInt64.size) :
    absorb significand ds = (appended significand ds, 0) := by
  induction ds generalizing significand with
  | nil => rfl
  | cons d ds ih =>
    have fits : appended (significand * 10 + d) ds < UInt64.size := h
    have first : significand * 10 + d < UInt64.size :=
      Nat.lt_of_le_of_lt (le_appended _ ds) fits
    rw [absorb, if_pos first, ih fits]
    rfl

theorem appended_digits (n : Nat) : appended 0 ((digits n).map digitValue) = n := by
  have fold : ∀ (ds : List Char), AllDigits ds → ∀ start,
      appended start (ds.map digitValue) = Nat.ofDigitChars 10 ds start := by
    intro ds
    induction ds with
    | nil => exact fun _ _ => rfl
    | cons c ds ih =>
      intro all start
      have bounds := toNat_of_isDigit (all c List.mem_cons_self)
      have same : ((digitValue c : Fin 10) : Nat) = c.toNat - 48 :=
        Nat.mod_eq_of_lt (by omega)
      rw [Nat.ofDigitChars_cons, ← ih fun d member => all d (List.mem_cons_of_mem c member)]
      simp only [appended, List.map_cons, List.foldl_cons, same, Nat.mul_comm 10]
      rfl
  rw [fold _ (allDigits_digits n)]
  exact value_digits n

theorem scientific_ofNat {n : Nat} (h : n < UInt64.size) : (ofNat n).scientific = (n, 0) := by
  have absorbed := absorb_eq ((appended_digits n).symm ▸ h)
  rw [appended_digits] at absorbed
  simp [scientific, ofNat, absorbed, absorb]

/-- Rounding to a double at most doubles a number. -/
theorem roundedToDouble_le (n : Nat) : roundedToDouble n ≤ 2 * n := by
  rcases Nat.eq_zero_or_pos n with rfl | positive
  · decide
  have unit : 2 ^ (n.log2 - 52) ≤ n :=
    Nat.le_trans (Nat.pow_le_pow_right (by decide) (Nat.sub_le _ _))
      (Nat.log2_self_le (by omega))
  have below : n / 2 ^ (n.log2 - 52) * 2 ^ (n.log2 - 52) ≤ n := Nat.div_mul_le_self _ _
  unfold roundedToDouble
  simp only [Nat.pow_eq]
  split
  · rw [Nat.add_mul]
    omega
  · omega

theorem le_pow_sub_pow {low high : Nat} (word : 65 ≤ low) (h : low < high) :
    2 ^ 65 ≤ Nat.pow 2 high - Nat.pow 2 low := by
  have wide : 2 ^ 65 ≤ 2 ^ low := Nat.pow_le_pow_right (by decide) word
  have twice : 2 ^ (low + 1) ≤ 2 ^ high := Nat.pow_le_pow_right (by decide) h
  rw [Nat.pow_succ] at twice
  rw [Nat.pow_eq, Nat.pow_eq]
  omega

/-- The finite doubles reach far beyond a word. -/
theorem le_overflow : 2 ^ 65 ≤ overflow := by
  unfold overflow
  apply le_pow_sub_pow <;> decide

theorem inRange_ofNat {n : Nat} (h : n < UInt64.size) : (ofNat n).inRange = true := by
  have size : UInt64.size = 2 ^ 64 := rfl
  have one : roundedToDouble (Decimal.tenTo 0) = 1 := by decide
  have rounded := roundedToDouble_le n
  have below : roundedToDouble n < overflow := Nat.lt_of_lt_of_le (by omega) le_overflow
  simp [inRange, scientific_ofNat h, one, below]

end AssetWatch.Number
