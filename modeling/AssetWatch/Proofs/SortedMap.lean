import AssetWatch.SortedMap
import Mathlib.Data.List.Induction

/-!
# Maps and lists of entries

In the map of a list the last entry with a key counts (`get?_ofList`), and a map is the map of
its own entries (`ofList_entries`). An insertion adds at most one entry and a removal takes away
at most one (`size_insert`, `size_erase`).
-/

namespace AssetWatch.SortedMap

variable {κ α : Type} [LT κ] [DecidableLT κ] [KeyOrder κ]

theorem ofList_concat (entries : List (κ × α)) (entry : κ × α) :
    ofList (entries ++ [entry]) = (ofList entries).insert entry.1 entry.2 := by
  rw [ofList, List.foldl_append]
  rfl

theorem get?_ofList [DecidableEq κ] (entries : List (κ × α)) (key : κ) :
    (ofList entries).get? key = lookup key entries.reverse := by
  induction entries using List.reverseRecOn with
  | nil => rfl
  | append_singleton entries entry ih =>
    rw [ofList_concat, get?_insert, ih, List.reverse_concat, lookup_cons]

/-- An entry that belongs behind all others is put there. -/
theorem insertEntry_of_forall_lt {key : κ} {value : α} {entries : List (κ × α)}
    (h : ∀ entry ∈ entries, entry.1 < key) :
    insertEntry key value entries = entries ++ [(key, value)] := by
  induction entries with
  | nil => rfl
  | cons head rest ih =>
    have above : head.1 < key := h head List.mem_cons_self
    have notBelow : ¬key < head.1 := fun below => KeyOrder.irrefl _ (KeyOrder.trans below above)
    rw [insertEntry, if_neg notBelow, if_pos above,
      ih fun entry member => h entry (List.mem_cons_of_mem _ member), List.cons_append]

/-- Entries in ascending order are the entries of their map. -/
theorem entries_ofList {entries : List (κ × α)}
    (h : entries.Pairwise (fun a b => a.1 < b.1)) : (ofList entries).entries = entries := by
  induction entries using List.reverseRecOn with
  | nil => rfl
  | append_singleton entries entry ih =>
    obtain ⟨before, -, last⟩ := List.pairwise_append.1 h
    have behind : ∀ other ∈ entries, other.1 < entry.1 := fun other member =>
      last other member entry List.mem_cons_self
    rw [ofList_concat]
    change insertEntry entry.1 entry.2 (ofList entries).entries = _
    rw [ih before, insertEntry_of_forall_lt behind]

theorem ofList_entries (m : SortedMap κ α) : ofList m.entries = m := by
  have same := entries_ofList m.sorted
  generalize ofList m.entries = n at same
  cases m
  cases n
  cases same
  rfl

/-! ## Sizes -/

theorem length_insertEntry [DecidableEq κ] {key : κ} {value : α} {entries : List (κ × α)}
    (h : entries.Pairwise (fun a b => a.1 < b.1)) :
    (insertEntry key value entries).length =
      if (lookup key entries).isSome then entries.length else entries.length + 1 := by
  induction entries with
  | nil => rfl
  | cons head rest ih =>
    obtain ⟨above, sorted⟩ := List.pairwise_cons.1 h
    simp only [insertEntry]
    split
    next below =>
      have absent : lookup key (head :: rest) = none := by
        apply lookup_eq_none
        intro entry member
        rcases List.mem_cons.1 member with rfl | member
        · exact below
        · exact KeyOrder.trans below (above entry member)
      simp [absent]
    next notBelow =>
      split
      next behind =>
        rw [List.length_cons, ih sorted, lookup_cons, if_neg (KeyOrder.ne_of_lt behind)]
        split <;> rfl
      next notBehind =>
        have same : head.1 = key := (KeyOrder.eq_of_not_lt notBelow notBehind).symm
        simp [lookup_cons, same]

/-- An insertion adds an entry unless there is one with the key. -/
theorem size_insert [DecidableEq κ] (m : SortedMap κ α) (key : κ) (value : α) :
    (m.insert key value).size = if m.contains key then m.size else m.size + 1 :=
  length_insertEntry m.sorted

omit [DecidableLT κ] in
/-- Without an entry there is nothing to remove. -/
theorem erase_of_not_contains [DecidableEq κ] {m : SortedMap κ α} {key : κ}
    (h : m.contains key = false) : m.erase key = m := by
  apply ext_get?
  intro other
  rw [get?_erase]
  split
  next same =>
    subst same
    rw [contains, Option.isSome_eq_false_iff, Option.isNone_iff_eq_none] at h
    exact h.symm
  next => rfl

omit [DecidableLT κ] in
theorem length_filter_ne [DecidableEq κ] {key : κ} {entries : List (κ × α)}
    (h : entries.Pairwise (fun a b => a.1 < b.1)) (found : (lookup key entries).isSome = true) :
    (entries.filter (fun entry => entry.1 ≠ key)).length + 1 = entries.length := by
  induction entries with
  | nil => cases found
  | cons head rest ih =>
    obtain ⟨above, sorted⟩ := List.pairwise_cons.1 h
    by_cases same : head.1 = key
    · have others : rest.filter (fun entry => entry.1 ≠ key) = rest := by
        apply List.filter_eq_self.2
        intro entry member
        have behind : key < entry.1 := same ▸ above entry member
        simpa using (KeyOrder.ne_of_lt behind).symm
      rw [List.filter_cons_of_neg (by simp [same]), others, List.length_cons]
    · rw [lookup_cons, if_neg same] at found
      rw [List.filter_cons_of_pos (by simp [same]), List.length_cons, List.length_cons,
        ih sorted found]

omit [DecidableLT κ] in
/-- A removal takes away the entry with the key, if there is one. -/
theorem size_erase [DecidableEq κ] {m : SortedMap κ α} {key : κ} (h : m.contains key = true) :
    (m.erase key).size + 1 = m.size :=
  length_filter_ne m.sorted h

end AssetWatch.SortedMap
