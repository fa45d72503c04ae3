import AssetWatch.Text.Scan
import AssetWatch.Proofs.Text.Decimal

/-!
# What scans take

Each lemma says what a scan makes of a text that begins with what it looks for. Numerals are
taken back as the numbers they stand for. `Yields` turns the question around: it says what is
known about a value that a scan takes off any text at all.
-/

namespace AssetWatch.Text

open Decimal

/-- Digits are no blanks. -/
theorem isBlank_of_isDigit {c : Char} (h : c.isDigit = true) : isBlank c = false := by
  have bounds := toNat_of_isDigit h
  simp only [isBlank, inRanges, blankRanges, List.any_cons, List.any_nil, Bool.or_eq_false_iff,
    Bool.and_eq_false_iff, decide_eq_false_iff_not, and_true]
  omega

/-- No blank stands before a numeral. -/
theorem stopsBefore_blank_append {ds : List Char} (hds : AllDigits ds) (nonempty : ds ≠ [])
    (rest : List Char) : StopsBefore isBlank (ds ++ rest) := by
  cases ds with
  | nil => exact absurd rfl nonempty
  | cons d ds => exact stopsBefore_cons.2 (isBlank_of_isDigit (hds d List.mem_cons_self))

namespace Scan

variable {α β : Type} {text rest : List Char}

@[simp] theorem apply_pure (a : α) (text : List Char) :
    (pure a : Scan α).apply text = some (a, text) := rfl

theorem apply_bind {scan : Scan α} {a : α} (h : scan.apply text = some (a, rest))
    (next : α → Scan β) : (scan >>= next).apply text = (next a).apply rest := by
  show (scan.apply text >>= fun p => (next p.1).apply p.2) = _
  rw [h]
  rfl

theorem whole?_of_apply {scan : Scan α} {a : α} (h : scan.apply text = some (a, [])) :
    scan.whole? text = some a := by
  rw [whole?, h]

theorem apply_require {condition : Bool} (h : condition = true) :
    (require condition).apply text = some ((), text) := by
  rw [require, if_pos h]
  rfl

theorem apply_get (text : List Char) : (get : Scan (List Char)).apply text = some (text, text) :=
  rfl

theorem apply_set (text other : List Char) :
    (set other : Scan Unit).apply text = some ((), other) := rfl

theorem apply_next (c : Char) (rest : List Char) : next.apply (c :: rest) = some (c, rest) := rfl

theorem apply_literal (c : Char) (rest : List Char) :
    (literal c).apply (c :: rest) = some ((), rest) := by
  rw [literal, apply_bind (apply_next c rest)]
  exact apply_require (by simp)

theorem apply_satisfying {p : Char → Bool} {c : Char} (h : p c = true) (rest : List Char) :
    (satisfying p).apply (c :: rest) = some (c, rest) := by
  rw [satisfying, apply_bind (apply_next c rest), apply_bind (apply_require h)]
  rfl

theorem apply_takes (c : Char) (rest : List Char) :
    (takes c).apply (c :: rest) = some (true, rest) := by
  rw [takes, apply_bind (apply_get _)]
  simp only [if_true]
  rfl

theorem apply_takes_of_head?_ne {c : Char} (h : text.head? ≠ some c) :
    (takes c).apply text = some (false, text) := by
  rw [takes, apply_bind (apply_get _)]
  cases text with
  | nil => rfl
  | cons d rest =>
    have other : d ≠ c := by simpa using h
    simp only [if_neg other]
    rfl

theorem apply_blanks (h : StopsBefore isBlank text) : blanks.apply text = some ((), text) := by
  show some ((), trimStart text) = _
  rw [trimStart, h.dropWhile_eq_self]

theorem apply_blanks_append {pad : List Char} (hpad : ∀ c ∈ pad, isBlank c = true)
    (h : StopsBefore isBlank text) : blanks.apply (pad ++ text) = some ((), text) := by
  show some ((), trimStart (pad ++ text)) = _
  rw [trimStart_append_of_blank hpad, trimStart, h.dropWhile_eq_self]

/-- Blanks that may be taken do not matter where there are none. -/
theorem apply_optional_blanks (h : StopsBefore isBlank text) (spaced : Bool)
    (next : Unit → Scan α) :
    (if spaced = true then blanks >>= next else next ()).apply text = (next ()).apply text := by
  cases spaced with
  | true => exact apply_bind (apply_blanks h) next
  | false => rfl

theorem apply_takeWhile1 {p : Char → Bool} {run : List Char} (hrun : ∀ c ∈ run, p c = true)
    (nonempty : run ≠ []) (h : StopsBefore p rest) :
    (takeWhile1 p).apply (run ++ rest) = some (run, rest) := by
  have taken : (takeWhile p).apply (run ++ rest) = some (run, rest) := by
    rw [takeWhile, apply_bind (apply_get _), apply_bind (apply_set _ _),
      takeWhile_append_eq hrun h, dropWhile_append_eq hrun h]
    rfl
  rw [takeWhile1, apply_bind taken, apply_bind (apply_require (by simpa using nonempty))]
  rfl

/-- All the digits that stand next are taken. -/
theorem apply_anyNumber {ds : List Char} (hds : AllDigits ds) (nonempty : ds ≠ [])
    (h : StopsBefore Char.isDigit rest) :
    anyNumber.apply (ds ++ rest) = some (value ds, rest) := by
  rw [anyNumber, apply_bind (apply_takeWhile1 hds nonempty h)]
  rfl

/-- As many digits as may be taken are taken, whatever follows them. -/
theorem apply_number {limit : Nat} {ds : List Char} (hds : AllDigits ds) (nonempty : ds ≠ [])
    (h : ds.length = limit) (rest : List Char) :
    (number limit).apply (ds ++ rest) = some (value ds, rest) := by
  have taken : ((ds ++ rest).take limit).takeWhile Char.isDigit = ds := by
    rw [← h, List.take_left]
    simpa using takeWhile_append_eq hds (stopsBefore_nil _)
  rw [number, apply_bind (apply_get _)]
  simp only [taken]
  rw [apply_bind (apply_require (by simpa using nonempty)), apply_bind (apply_set _ _),
    List.drop_left]
  rfl

/-! ## What scans yield -/

/-- Whatever the scan takes off a text has the property. -/
def Yields (scan : Scan α) (P : α → Prop) : Prop :=
  ∀ text a rest, scan.apply text = some (a, rest) → P a

theorem yields_pure {P : α → Prop} {a : α} (h : P a) : (pure a : Scan α).Yields P := by
  intro text b rest taken
  cases taken
  exact h

theorem yields_failure {P : α → Prop} : (failure : Scan α).Yields P := by
  intro text a rest taken
  cases taken

theorem yields_require (condition : Bool) :
    (require condition).Yields fun _ => condition = true := by
  cases condition with
  | true => exact yields_pure rfl
  | false => exact yields_failure

/-- What is known about the first value may be used for the second. -/
theorem Yields.bind {scan : Scan α} {next : α → Scan β} {P : α → Prop} {Q : β → Prop}
    (first : scan.Yields P) (second : ∀ a, P a → (next a).Yields Q) :
    (scan >>= next).Yields Q := by
  intro text b rest taken
  have steps : ((scan.apply text).bind fun p => (next p.1).apply p.2) = some (b, rest) := taken
  obtain ⟨⟨a, between⟩, took, goesOn⟩ := Option.bind_eq_some_iff.1 steps
  exact second a (first text a between took) between b rest goesOn

/-- Nothing needs to be known about the first value if the second has the property anyway. -/
theorem yields_bind {scan : Scan α} {next : α → Scan β} {Q : β → Prop}
    (h : ∀ a, (next a).Yields Q) : (scan >>= next).Yields Q := by
  have anything : scan.Yields fun _ => True := fun _ _ _ _ => trivial
  exact anything.bind fun a _ => h a

theorem Yields.of_whole? {scan : Scan α} {P : α → Prop} (h : scan.Yields P) {a : α}
    (whole : scan.whole? text = some a) : P a := by
  rw [whole?] at whole
  split at whole
  next taken =>
    cases whole
    exact h text a [] taken
  next => cases whole

end Scan

end AssetWatch.Text
