import AssetWatch.Text.Blank
import AssetWatch.Proofs.Text.Decimal
import Mathlib.Data.List.DropRight

/-!
# Trimming

Blanks at the two ends of a text do not matter (`trim_padded`), and a text that begins and ends
with other characters is left as it is.
-/

namespace AssetWatch.Text

/-- Blanks and nothing else. -/
def AllBlank (pad : List Char) : Prop := ∀ c ∈ pad, isBlank c = true

variable {front back text : List Char}

theorem trimStart_eq_nil_iff : trimStart text = [] ↔ AllBlank text :=
  List.dropWhile_eq_nil_iff

theorem trim_append_of_blank (h : AllBlank back) : trim (text ++ back) = trim text := by
  have reversed : ∀ c ∈ back.reverse, isBlank c = true := fun c member =>
    h c (List.mem_reverse.1 member)
  have split : trimStart (text ++ back) =
      if (trimStart text).isEmpty then trimStart back else trimStart text ++ back :=
    List.dropWhile_append
  cases left : trimStart text with
  | nil =>
    rw [left, List.isEmpty_nil, if_pos rfl, trimStart_eq_nil_iff.2 h] at split
    rw [trim, trim, split, left]
  | cons c rest =>
    rw [left, List.isEmpty_cons, if_neg Bool.false_ne_true] at split
    rw [trim, trim, split, left, List.reverse_append, trimStart_append_of_blank reversed]

/-- Blanks around a text do not matter. -/
theorem trim_padded (hfront : AllBlank front) (hback : AllBlank back) :
    trim (front ++ text ++ back) = trim text := by
  rw [List.append_assoc, trim, trimStart_append_of_blank hfront]
  exact trim_append_of_blank hback

/-- Nothing is left of a text that is blank throughout, and of no other. -/
theorem trim_eq_nil_iff : trim text = [] ↔ AllBlank text := by
  rw [trim, List.reverse_eq_nil_iff, trimStart_eq_nil_iff]
  constructor
  · intro blank
    have twice : trimStart (trimStart text) = [] :=
      trimStart_eq_nil_iff.2 fun c member => blank c (List.mem_reverse.2 member)
    have once : trimStart (trimStart text) = trimStart text := List.dropWhile_idempotent _ text
    exact trimStart_eq_nil_iff.1 (once ▸ twice)
  · intro blank
    rw [trimStart_eq_nil_iff.2 blank]
    exact fun c member => absurd member List.not_mem_nil

theorem trim_eq_self (first : StopsBefore isBlank text)
    (last : StopsBefore isBlank text.reverse) : trim text = text := by
  rw [trim, trimStart, trimStart, first.dropWhile_eq_self, last.dropWhile_eq_self,
    List.reverse_reverse]

/-- Blanks around a text that begins and ends with other characters are all that is trimmed. -/
theorem trim_enclosed {first last : Char} {inside : List Char} (hfirst : isBlank first = false)
    (hlast : isBlank last = false) (hfront : AllBlank front) (hback : AllBlank back) :
    trim (front ++ (first :: (inside ++ [last])) ++ back) = first :: (inside ++ [last]) := by
  rw [trim_padded hfront hback]
  refine trim_eq_self (stopsBefore_cons.2 hfirst) ?_
  rw [List.reverse_cons, List.reverse_concat]
  exact stopsBefore_cons.2 hlast

end AssetWatch.Text
