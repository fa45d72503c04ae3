import AssetWatch.Text.Ranges

/-!
# Blank characters

The characters with the Unicode property White_Space, of which there are 25, and the trimming
of a text at both ends. A zero width space and a byte order mark are not blank.
-/

namespace AssetWatch.Text

/-- The code points with the property White_Space. -/
def blankRanges : List (Nat × Nat) :=
  [(0x09, 0x0d), (0x20, 0x20), (0x85, 0x85), (0xa0, 0xa0), (0x1680, 0x1680),
    (0x2000, 0x200a), (0x2028, 0x2029), (0x202f, 0x202f), (0x205f, 0x205f),
    (0x3000, 0x3000)]

/-- Whether a character has the property White_Space. -/
def isBlank (c : Char) : Bool := inRanges blankRanges c

/-- A text without the blanks it begins with. -/
def trimStart (text : List Char) : List Char := text.dropWhile isBlank

/-- A text without the blanks at its two ends. -/
def trim (text : List Char) : List Char := (trimStart (trimStart text).reverse).reverse

theorem trimStart_cons (c : Char) (rest : List Char) :
    trimStart (c :: rest) = if isBlank c then trimStart rest else c :: rest := by
  unfold trimStart
  cases h : isBlank c <;> simp [h]

theorem trimStart_append_of_blank {pad rest : List Char} (h : ∀ c ∈ pad, isBlank c = true) :
    trimStart (pad ++ rest) = trimStart rest := by
  induction pad with
  | nil => rfl
  | cons c pad ih =>
    rw [List.cons_append, trimStart_cons, if_pos (h c List.mem_cons_self)]
    exact ih fun d hd => h d (List.mem_cons_of_mem _ hd)

end AssetWatch.Text
