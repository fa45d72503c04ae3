/-!
# Sorted maps

A finite map kept as a list of entries in strictly ascending key order. The order makes the
list canonical: two maps with the same lookups are the same map (`SortedMap.ext_get?`). What
an insertion and a removal do to the lookups is said by `get?_insert` and `get?_erase`.
-/

namespace AssetWatch

/-- The keys are strictly and totally ordered. -/
class KeyOrder (κ : Type) [LT κ] : Prop where
  irrefl : ∀ a : κ, ¬a < a
  trans : ∀ {a b c : κ}, a < b → b < c → a < c
  eq_of_not_lt : ∀ {a b : κ}, ¬a < b → ¬b < a → a = b

/-- Strings are ordered by their code points. -/
instance : KeyOrder String where
  irrefl := String.lt_irrefl
  trans := String.lt_trans
  eq_of_not_lt h₁ h₂ := String.le_antisymm (String.not_lt.1 h₂) (String.not_lt.1 h₁)

theorem KeyOrder.ne_of_lt {κ : Type} [LT κ] [KeyOrder κ] {a b : κ} (h : a < b) : a ≠ b :=
  fun e => KeyOrder.irrefl b (e ▸ h)

/-! ## Looking up a key in a list of entries -/

namespace SortedMap

variable {κ α : Type}

/-- The first value listed under `key`. -/
def lookup [DecidableEq κ] (key : κ) (entries : List (κ × α)) : Option α :=
  (entries.find? (fun entry => entry.1 = key)).map (·.2)

@[simp] theorem lookup_nil [DecidableEq κ] (key : κ) :
    lookup key ([] : List (κ × α)) = none := rfl

theorem lookup_cons [DecidableEq κ] (key : κ) (head : κ × α) (rest : List (κ × α)) :
    lookup key (head :: rest) = if head.1 = key then some head.2 else lookup key rest := by
  by_cases h : head.1 = key <;> simp [lookup, h]

theorem lookup_filter_ne [DecidableEq κ] (key other : κ) (entries : List (κ × α)) :
    lookup other (entries.filter (fun entry => entry.1 ≠ key)) =
      if key = other then none else lookup other entries := by
  induction entries with
  | nil => simp
  | cons head rest ih =>
    by_cases h : head.1 = key
    · rw [List.filter_cons_of_neg (by simp [h]), ih, lookup_cons, h]
      by_cases same : key = other <;> simp [same]
    · rw [List.filter_cons_of_pos (by simp [h]), lookup_cons, ih, lookup_cons]
      by_cases same : key = other
      · simp [← same, h]
      · simp [same]

end SortedMap

/-- A finite map whose entries stand in strictly ascending order of their keys. -/
structure SortedMap (κ α : Type) [LT κ] where
  entries : List (κ × α)
  sorted : entries.Pairwise (fun a b => a.1 < b.1)

namespace SortedMap

variable {κ α : Type} [LT κ]

instance [DecidableEq κ] [DecidableEq α] : DecidableEq (SortedMap κ α) := fun a b =>
  if h : a.entries = b.entries then
    .isTrue (by cases a; cases b; cases h; rfl)
  else .isFalse (fun e => h (e ▸ rfl))

/-- The map without entries. -/
def empty : SortedMap κ α := ⟨[], .nil⟩

instance : Inhabited (SortedMap κ α) := ⟨empty⟩

/-- The number of entries. -/
def size (m : SortedMap κ α) : Nat := m.entries.length

/-- The keys, ascending. -/
def keys (m : SortedMap κ α) : List κ := m.entries.map (·.1)

/-- The value stored under `key`. -/
def get? [DecidableEq κ] (m : SortedMap κ α) (key : κ) : Option α := lookup key m.entries

/-- Whether a value is stored under `key`. -/
def contains [DecidableEq κ] (m : SortedMap κ α) (key : κ) : Bool := (m.get? key).isSome

/-- Puts an entry in its place, replacing the one with the same key. -/
def insertEntry [DecidableLT κ] (key : κ) (value : α) : List (κ × α) → List (κ × α)
  | [] => [(key, value)]
  | entry :: rest =>
    if key < entry.1 then (key, value) :: entry :: rest
    else if entry.1 < key then entry :: insertEntry key value rest
    else (key, value) :: rest

theorem mem_insertEntry [DecidableLT κ] {key : κ} {value : α} {entry : κ × α}
    {entries : List (κ × α)} (h : entry ∈ insertEntry key value entries) :
    entry = (key, value) ∨ entry ∈ entries := by
  induction entries with
  | nil => simpa [insertEntry] using h
  | cons head rest ih =>
    simp only [insertEntry] at h
    split at h
    · simpa using h
    · split at h
      · rcases List.mem_cons.1 h with rfl | h
        · exact .inr List.mem_cons_self
        · exact (ih h).imp_right (List.mem_cons_of_mem _)
      · exact (List.mem_cons.1 h).imp_right (List.mem_cons_of_mem _)

theorem pairwise_insertEntry [DecidableLT κ] [KeyOrder κ] {key : κ} {value : α}
    {entries : List (κ × α)} (h : entries.Pairwise (fun a b => a.1 < b.1)) :
    (insertEntry key value entries).Pairwise (fun a b => a.1 < b.1) := by
  induction entries with
  | nil => simp [insertEntry]
  | cons head rest ih =>
    obtain ⟨hhead, hrest⟩ := List.pairwise_cons.1 h
    simp only [insertEntry]
    split
    next below =>
      refine List.pairwise_cons.2 ⟨fun entry hentry => ?_, h⟩
      rcases List.mem_cons.1 hentry with rfl | hmem
      · exact below
      · exact KeyOrder.trans below (hhead entry hmem)
    next notBelow =>
      split
      next above =>
        refine List.pairwise_cons.2 ⟨fun entry hentry => ?_, ih hrest⟩
        rcases mem_insertEntry hentry with rfl | hmem
        · exact above
        · exact hhead entry hmem
      next notAbove =>
        have same : key = head.1 := KeyOrder.eq_of_not_lt notBelow notAbove
        exact List.pairwise_cons.2 ⟨fun entry hentry => same ▸ hhead entry hentry, hrest⟩

/-- Stores `value` under `key`, in place of any value stored there before. -/
def insert [DecidableLT κ] [KeyOrder κ] (m : SortedMap κ α) (key : κ) (value : α) :
    SortedMap κ α :=
  ⟨insertEntry key value m.entries, pairwise_insertEntry m.sorted⟩

/-- Removes the entry with the given key, if there is one. -/
def erase [DecidableEq κ] (m : SortedMap κ α) (key : κ) : SortedMap κ α :=
  ⟨m.entries.filter (fun entry => entry.1 ≠ key), m.sorted.filter _⟩

/-- The map of a list of entries, of which a later one replaces an earlier one. -/
def ofList [DecidableLT κ] [KeyOrder κ] (entries : List (κ × α)) : SortedMap κ α :=
  entries.foldl (fun m entry => m.insert entry.1 entry.2) empty

/-! ## Lookups -/

theorem lookup_eq_none [DecidableEq κ] [KeyOrder κ] {key : κ} {entries : List (κ × α)}
    (h : ∀ entry ∈ entries, key < entry.1) : lookup key entries = none := by
  induction entries with
  | nil => rfl
  | cons head rest ih =>
    rw [lookup_cons, if_neg (KeyOrder.ne_of_lt (h head List.mem_cons_self)).symm]
    exact ih fun entry hentry => h entry (List.mem_cons_of_mem _ hentry)

theorem lookup_insertEntry [DecidableEq κ] [DecidableLT κ] [KeyOrder κ] (key other : κ)
    (value : α) (entries : List (κ × α)) :
    lookup other (insertEntry key value entries) =
      if key = other then some value else lookup other entries := by
  induction entries with
  | nil => simp [insertEntry, lookup_cons]
  | cons head rest ih =>
    simp only [insertEntry]
    split
    · simp [lookup_cons]
    next notBelow =>
      split
      next above =>
        rw [lookup_cons, ih, lookup_cons]
        by_cases same : key = other
        · have : head.1 ≠ other := same ▸ KeyOrder.ne_of_lt above
          simp [same, this]
        · simp [same]
      next notAbove =>
        have same : key = head.1 := KeyOrder.eq_of_not_lt notBelow notAbove
        rw [lookup_cons, lookup_cons, ← same]
        by_cases h : key = other <;> simp [h]

@[simp] theorem get?_empty [DecidableEq κ] (key : κ) :
    (empty : SortedMap κ α).get? key = none := rfl

theorem get?_insert [DecidableEq κ] [DecidableLT κ] [KeyOrder κ] (m : SortedMap κ α)
    (key other : κ) (value : α) :
    (m.insert key value).get? other = if key = other then some value else m.get? other :=
  lookup_insertEntry key other value m.entries

theorem get?_erase [DecidableEq κ] (m : SortedMap κ α) (key other : κ) :
    (m.erase key).get? other = if key = other then none else m.get? other :=
  lookup_filter_ne key other m.entries

theorem lookup_eq_some_iff [DecidableEq κ] [KeyOrder κ] {key : κ} {value : α}
    {entries : List (κ × α)} (h : entries.Pairwise (fun a b => a.1 < b.1)) :
    lookup key entries = some value ↔ (key, value) ∈ entries := by
  induction entries with
  | nil => simp
  | cons head rest ih =>
    obtain ⟨hhead, hrest⟩ := List.pairwise_cons.1 h
    rw [lookup_cons, List.mem_cons]
    split
    next same =>
      subst same
      have gone : (head.1, value) ∉ rest := fun member =>
        KeyOrder.ne_of_lt (hhead _ member) rfl
      simp [gone, Prod.ext_iff, eq_comm]
    next other =>
      have apart : (key, value) ≠ head := fun e => other (e ▸ rfl)
      simp [apart, ih hrest]

/-- The entries of a map are what its lookups find. -/
theorem mem_entries [DecidableEq κ] [KeyOrder κ] {m : SortedMap κ α} {key : κ} {value : α} :
    (key, value) ∈ m.entries ↔ m.get? key = some value :=
  (lookup_eq_some_iff m.sorted).symm

theorem entries_ext [DecidableEq κ] [KeyOrder κ] :
    ∀ {xs ys : List (κ × α)}, xs.Pairwise (fun a b => a.1 < b.1) →
      ys.Pairwise (fun a b => a.1 < b.1) → (∀ key, lookup key xs = lookup key ys) → xs = ys
  | [], [], _, _, _ => rfl
  | [], y :: ys, _, _, h => by simpa [lookup_cons] using h y.1
  | x :: xs, [], _, _, h => by simpa [lookup_cons] using h x.1
  | x :: xs, y :: ys, hx, hy, h => by
    obtain ⟨hx, hxs⟩ := List.pairwise_cons.1 hx
    obtain ⟨hy, hys⟩ := List.pairwise_cons.1 hy
    have notBelow : ¬x.1 < y.1 := fun below => by
      have gone : lookup x.1 (y :: ys) = none := lookup_eq_none fun entry hentry => by
        rcases List.mem_cons.1 hentry with rfl | hmem
        · exact below
        · exact KeyOrder.trans below (hy entry hmem)
      simp [← h, lookup_cons] at gone
    have notAbove : ¬y.1 < x.1 := fun above => by
      have gone : lookup y.1 (x :: xs) = none := lookup_eq_none fun entry hentry => by
        rcases List.mem_cons.1 hentry with rfl | hmem
        · exact above
        · exact KeyOrder.trans above (hx entry hmem)
      simp [h, lookup_cons] at gone
    have same : x.1 = y.1 := KeyOrder.eq_of_not_lt notBelow notAbove
    have value : x.2 = y.2 := by simpa [lookup_cons, same] using h x.1
    have rest : xs = ys := entries_ext hxs hys fun key => by
      by_cases at_head : x.1 = key
      · rw [lookup_eq_none (fun entry hentry => at_head ▸ hx entry hentry),
          lookup_eq_none (fun entry hentry => at_head ▸ same ▸ hy entry hentry)]
      · simpa [lookup_cons, at_head, same ▸ at_head] using h key
    rw [rest, Prod.ext same value]

/-- A map is determined by its lookups. -/
theorem ext_get? [DecidableEq κ] [KeyOrder κ] {m n : SortedMap κ α}
    (h : ∀ key, m.get? key = n.get? key) : m = n := by
  cases m with
  | mk xs hx =>
    cases n with
    | mk ys hy =>
      have : xs = ys := entries_ext hx hy h
      subst this
      rfl

end SortedMap

end AssetWatch
