import AssetWatch.AssetName
import Mathlib.Data.List.Sort

/-!
# Ascending lists of names

A list of names in strictly ascending order is determined by its members. So whatever the
order in which names are collected, sorting them gives the one ascending list of these names.
-/

namespace AssetWatch.AssetName

/-- The names stand in strictly ascending order, so none of them occurs twice. -/
def Ascending (names : List AssetName) : Prop := names.Pairwise (· < ·)

instance : Std.Irrefl (α := AssetName) (· < ·) := ⟨KeyOrder.irrefl⟩

instance : Std.Antisymm (α := AssetName) (· < ·) :=
  ⟨fun a _ below above => absurd (KeyOrder.trans below above) (KeyOrder.irrefl a)⟩

theorem Ascending.eq_of_mem_iff {first second : List AssetName} (hfirst : Ascending first)
    (hsecond : Ascending second) (h : ∀ name, name ∈ first ↔ name ∈ second) :
    first = second :=
  List.Pairwise.eq_of_mem_iff hfirst hsecond h

theorem Ascending.nodup {names : List AssetName} (h : Ascending names) : names.Nodup :=
  h.imp KeyOrder.ne_of_lt

theorem Ascending.filter {names : List AssetName} (h : Ascending names) (p : AssetName → Bool) :
    Ascending (names.filter p) :=
  List.Pairwise.filter p h

theorem perm_insertSorted (name : AssetName) (names : List AssetName) :
    (insertSorted name names).Perm (name :: names) := by
  induction names with
  | nil => exact .refl _
  | cons other rest ih =>
    unfold insertSorted
    split
    · exact (ih.cons other).trans (.swap name other rest)
    · exact .refl _

theorem perm_sort (names : List AssetName) : (sort names).Perm names := by
  induction names with
  | nil => exact .refl _
  | cons name rest ih => exact (perm_insertSorted name (sort rest)).trans (ih.cons name)

theorem mem_sort {name : AssetName} {names : List AssetName} :
    name ∈ sort names ↔ name ∈ names :=
  (perm_sort names).mem_iff

/-- A name that is not in the list yet keeps it ascending. -/
theorem ascending_insertSorted {name : AssetName} {names : List AssetName}
    (h : Ascending names) (fresh : name ∉ names) : Ascending (insertSorted name names) := by
  induction names with
  | nil => exact List.pairwise_singleton _ _
  | cons other rest ih =>
    obtain ⟨below, hrest⟩ := List.pairwise_cons.1 h
    unfold insertSorted
    split
    next above =>
      refine List.pairwise_cons.2 ⟨fun third member => ?_, ?_⟩
      · rcases List.mem_cons.1 ((perm_insertSorted name rest).mem_iff.1 member) with rfl | old
        · exact above
        · exact below third old
      · exact ih hrest fun member => fresh (List.mem_cons_of_mem _ member)
    next notAbove =>
      have first : name < other := by
        by_contra notBelow
        exact fresh (KeyOrder.eq_of_not_lt notBelow notAbove ▸ List.mem_cons_self)
      refine List.pairwise_cons.2 ⟨fun third member => ?_, h⟩
      rcases List.mem_cons.1 member with rfl | old
      · exact first
      · exact KeyOrder.trans first (below third old)

theorem ascending_sort {names : List AssetName} (h : names.Nodup) : Ascending (sort names) := by
  induction names with
  | nil => exact .nil
  | cons name rest ih =>
    obtain ⟨fresh, hrest⟩ := List.nodup_cons.1 h
    exact ascending_insertSorted (ih hrest) fun member => fresh (mem_sort.1 member)

/-- Sorting finds the ascending list of the given names. -/
theorem sort_eq_of_perm {names ascending : List AssetName} (h : names.Perm ascending)
    (hascending : Ascending ascending) : sort names = ascending :=
  (ascending_sort (h.nodup_iff.2 hascending.nodup)).eq_of_mem_iff hascending fun _ =>
    mem_sort.trans h.mem_iff

end AssetWatch.AssetName
