import AssetWatch.Proofs.Text.Scan
import AssetWatch.Toml.Parser

/-!
# Integers in TOML have 64 bits

An integer is checked against the bounds of 64 bits with a sign as soon as it is read, and what
is built from values afterwards (arrays, tables in braces, dotted keys, headers) holds no others.
So every integer of a document lies within these bounds, however deep it is nested
(`allBounded_parse`).
-/

namespace AssetWatch

open Text Text.Scan

namespace Toml

/-- Every integer in the value has 64 bits and a sign. -/
inductive Bounded : Toml → Prop
  | text (value : String) : Bounded (.text value)
  | integer {n : Int} (low : -9223372036854775808 ≤ n) (high : n ≤ 9223372036854775807) :
      Bounded (.integer n)
  | float (literal : String) : Bounded (.float literal)
  | boolean (value : Bool) : Bounded (.boolean value)
  | moment (literal : String) : Bounded (.moment literal)
  | array {items : List Toml} (each : ∀ item ∈ items, Bounded item) : Bounded (.array items)
  | table {origin : Origin} {entries : Entries} (each : ∀ entry ∈ entries, Bounded entry.2) :
      Bounded (.table origin entries)
  | tables {elements : List Entries}
      (each : ∀ entries ∈ elements, ∀ entry ∈ entries, Bounded entry.2) :
      Bounded (.tables elements)

/-- Every integer in the values under the keys has 64 bits and a sign. -/
def AllBounded {κ : Type} (entries : List (κ × Toml)) : Prop := ∀ entry ∈ entries, entry.2.Bounded

theorem allBounded_nil {κ : Type} : AllBounded ([] : List (κ × Toml)) := by
  intro entry member
  cases member

theorem allBounded_cons {κ : Type} {key : κ} {value : Toml} {entries : List (κ × Toml)} :
    AllBounded ((key, value) :: entries) ↔ value.Bounded ∧ AllBounded entries :=
  List.forall_mem_cons

theorem allBounded_append {κ : Type} {entries others : List (κ × Toml)} :
    AllBounded (entries ++ others) ↔ AllBounded entries ∧ AllBounded others :=
  List.forall_mem_append

theorem allBounded_singleton {κ : Type} {key : κ} {value : Toml} (h : value.Bounded) :
    AllBounded [(key, value)] := allBounded_cons.2 ⟨h, allBounded_nil⟩

theorem bounded_table_iff {origin : Origin} {entries : Entries} :
    (table origin entries).Bounded ↔ AllBounded entries := by
  constructor
  · intro h
    cases h with
    | table each => exact each
  · exact .table

theorem bounded_tables_iff {elements : List Entries} :
    (tables elements).Bounded ↔ ∀ entries ∈ elements, AllBounded entries := by
  constructor
  · intro h
    cases h with
    | tables each => exact each
  · exact .tables

/-! ## Tables -/

section Tables

variable {key : String} {value : Toml} {entries : Entries}

theorem AllBounded.find? (h : AllBounded entries) (found : find? key entries = some value) :
    value.Bounded := by
  obtain ⟨entry, foundEntry, rfl⟩ := Option.map_eq_some_iff.1 found
  exact h entry (List.mem_of_find?_eq_some foundEntry)

theorem AllBounded.replace (h : AllBounded entries) (hv : value.Bounded) :
    AllBounded (replace key value entries) := by
  intro entry member
  obtain ⟨old, oldMember, rfl⟩ := List.mem_map.1 member
  split
  · exact hv
  · exact h old oldMember

theorem eq_append_of_unsnoc? {α : Type} {xs before : List α} {last : α}
    (h : unsnoc? xs = some (before, last)) : xs = before ++ [last] := by
  obtain ⟨final, isLast, same⟩ := Option.map_eq_some_iff.1 h
  cases same
  obtain ⟨front, rfl⟩ := List.getLast?_eq_some_iff.1 isLast
  rw [List.dropLast_concat]

/-- A step down a path, below which `change` is made. If nothing stands under the step, a table
comes into being there; if several tables do, the last of them is changed. -/
inductive Descent (change : Entries → Option Entries) (step : String) (entries : Entries) :
    Entries → Prop
  | create (origin : Origin) {inner : Entries} (made : change [] = some inner) :
      Descent change step entries (entries ++ [(step, table origin inner)])
  | enter {origin : Origin} {inner other : Entries}
      (found : find? step entries = some (table origin inner)) (made : change inner = some other) :
      Descent change step entries (replace step (table origin other) entries)
  | enterLast {elements before : List Entries} {last other : Entries}
      (found : find? step entries = some (tables elements))
      (split : unsnoc? elements = some (before, last)) (made : change last = some other) :
      Descent change step entries (replace step (tables (before ++ [other])) entries)

theorem descent_of_addKey {step : String} {path : List String} {result : Entries}
    (h : addKey key value (step :: path) entries = some result) :
    Descent (addKey key value path) step entries result := by
  rw [addKey] at h
  split at h
  next =>
    obtain ⟨inner, made, same⟩ := Option.bind_eq_some_iff.1 h
    cases same
    exact .create .dotted made
  next origin inner found =>
    obtain ⟨-, h⟩ := Option.ite_none_right_eq_some.1 h
    obtain ⟨other, made, same⟩ := Option.bind_eq_some_iff.1 h
    cases same
    exact .enter found made
  next elements found =>
    obtain ⟨⟨before, last⟩, split, h⟩ := Option.bind_eq_some_iff.1 h
    obtain ⟨-, h⟩ := Option.ite_none_left_eq_some.1 h
    obtain ⟨other, made, same⟩ := Option.bind_eq_some_iff.1 h
    cases same
    exact .enterLast found split made
  next => cases h

theorem descent_of_updateAt {change : Option Toml → Option Toml} {step : String}
    {path : List String} {result : Entries}
    (h : updateAt change key (step :: path) entries = some result) :
    Descent (updateAt change key path) step entries result := by
  rw [updateAt] at h
  split at h
  next =>
    obtain ⟨inner, made, same⟩ := Option.bind_eq_some_iff.1 h
    cases same
    exact .create .implied made
  next origin inner found =>
    obtain ⟨-, h⟩ := Option.ite_none_left_eq_some.1 h
    obtain ⟨other, made, same⟩ := Option.bind_eq_some_iff.1 h
    cases same
    exact .enter found made
  next elements found =>
    obtain ⟨⟨before, last⟩, split, h⟩ := Option.bind_eq_some_iff.1 h
    obtain ⟨other, made, same⟩ := Option.bind_eq_some_iff.1 h
    cases same
    exact .enterLast found split made
  next => cases h

/-- A descent keeps the bounds if the change below it does. -/
theorem AllBounded.descent {change : Entries → Option Entries} {step : String} {result : Entries}
    (h : AllBounded entries) (descent : Descent change step entries result)
    (keeps : ∀ {inner other}, AllBounded inner → change inner = some other → AllBounded other) :
    AllBounded result := by
  cases descent with
  | create origin made =>
    have inner := keeps allBounded_nil made
    exact allBounded_append.2 ⟨h, allBounded_singleton (bounded_table_iff.2 inner)⟩
  | enter found made =>
    have inner := bounded_table_iff.1 (h.find? found)
    exact h.replace (bounded_table_iff.2 (keeps inner made))
  | enterLast found split made =>
    have elements := bounded_tables_iff.1 (h.find? found)
    rw [eq_append_of_unsnoc? split, List.forall_mem_append, List.forall_mem_singleton] at elements
    refine h.replace (bounded_tables_iff.2 (List.forall_mem_append.2 ⟨elements.1, ?_⟩))
    exact List.forall_mem_singleton.2 (keeps elements.2 made)

theorem AllBounded.addKey {path : List String} {result : Entries} (h : AllBounded entries)
    (hv : value.Bounded) (added : addKey key value path entries = some result) :
    AllBounded result := by
  induction path generalizing entries result with
  | nil =>
    rw [Toml.addKey, add?] at added
    obtain ⟨-, same⟩ := Option.ite_none_left_eq_some.1 added
    cases same
    exact allBounded_append.2 ⟨h, allBounded_singleton hv⟩
  | cons step path ih => exact h.descent (descent_of_addKey added) ih

theorem AllBounded.updateAt {change : Option Toml → Option Toml} {path : List String}
    {result : Entries} (h : AllBounded entries)
    (keeps : ∀ old value, (∀ present ∈ old, Bounded present) → change old = some value →
      value.Bounded)
    (updated : updateAt change key path entries = some result) : AllBounded result := by
  induction path generalizing entries result with
  | nil =>
    rw [Toml.updateAt] at updated
    obtain ⟨value, made, placed⟩ := Option.bind_eq_some_iff.1 updated
    have hv : value.Bounded := keeps _ value (fun inner found => h.find? found) made
    split at placed
    · cases placed
      exact h.replace hv
    · cases placed
      exact allBounded_append.2 ⟨h, allBounded_singleton hv⟩
  | cons step path ih => exact h.descent (descent_of_updateAt updated) ih

/-- What every step keeps, a fold that succeeds keeps. -/
theorem foldlM_keeps {α β : Type} {step : β → α → Option β} {P : β → Prop} {Q : α → Prop}
    (keeps : ∀ b a next, P b → Q a → step b a = some next → P next) :
    ∀ {items : List α} {b result : β}, (∀ a ∈ items, Q a) → P b →
      items.foldlM step b = some result → P result := by
  intro items
  induction items with
  | nil =>
    intro b result _ hb folded
    cases folded
    exact hb
  | cons a items ih =>
    intro b result hq hb folded
    obtain ⟨ha, hitems⟩ := List.forall_mem_cons.1 hq
    rw [List.foldlM_cons] at folded
    obtain ⟨next, stepped, rest⟩ := Option.bind_eq_some_iff.1 folded
    exact ih hitems (keeps b a next hb ha stepped) rest

theorem AllBounded.addAll {pairs : List (KeyPath × Toml)} {result : Entries}
    (h : AllBounded entries) (hp : AllBounded pairs)
    (added : addAll pairs entries = some result) : AllBounded result :=
  foldlM_keeps (fun _ _ _ bounded pair placed => bounded.addKey pair placed) hp h added

theorem AllBounded.openTable {named : Bool × KeyPath × List (KeyPath × Toml)}
    {result : Entries} (h : AllBounded entries) (hp : AllBounded named.2.2)
    (opened : openTable entries named = some result) : AllBounded result := by
  obtain ⟨repeated, key, pairs⟩ := named
  cases repeated with
  | true =>
    refine h.updateAt ?_ opened
    intro old value bounded made
    split at made
    next =>
      obtain ⟨added, placed, rfl⟩ := Option.map_eq_some_iff.1 made
      exact bounded_tables_iff.2 (List.forall_mem_singleton.2 (allBounded_nil.addAll hp placed))
    next elements =>
      obtain ⟨added, placed, rfl⟩ := Option.map_eq_some_iff.1 made
      refine bounded_tables_iff.2 (List.forall_mem_append.2 ⟨?_, ?_⟩)
      · exact bounded_tables_iff.1 (bounded _ rfl)
      · exact List.forall_mem_singleton.2 (allBounded_nil.addAll hp placed)
    next => cases made
  | false =>
    refine h.updateAt ?_ opened
    intro old value bounded made
    split at made
    next =>
      obtain ⟨added, placed, rfl⟩ := Option.map_eq_some_iff.1 made
      exact bounded_table_iff.2 (allBounded_nil.addAll hp placed)
    next inner =>
      obtain ⟨added, placed, rfl⟩ := Option.map_eq_some_iff.1 made
      exact bounded_table_iff.2 ((bounded_table_iff.1 (bounded _ rfl)).addAll hp placed)
    next => cases made

end Tables

/-! ## Values -/

theorem yields_bounded (n : Int) : (bounded n).Yields Bounded := by
  refine (yields_require _).bind fun _ within => yields_pure ?_
  obtain ⟨low, high⟩ : -9223372036854775808 ≤ n ∧ n ≤ 9223372036854775807 := by
    simpa using within
  exact .integer low high

theorem yields_decimalInteger : decimalInteger.Yields Bounded :=
  yields_bind fun _ => yields_bind fun _ => yields_bounded _

theorem yields_basedInteger (base : Nat) : (basedInteger base).Yields Bounded :=
  yields_bind fun _ => yields_bounded _

theorem yields_integerValue : integerValue.Yields Bounded := by
  refine yields_bind fun text => ?_
  extract_lets base
  cases base with
  | some base => exact yields_bind fun _ => yields_basedInteger base
  | none => exact yields_decimalInteger

theorem yields_scalar : scalar.Yields Bounded := by
  refine yields_bind fun moment => ?_
  cases moment with
  | some literal => exact yields_pure (.moment literal)
  | none =>
    refine yields_bind fun decimal => ?_
    cases decimal with
    | some literal => exact yields_pure (.float literal)
    | none =>
      refine yields_bind fun special => ?_
      cases special with
      | some literal => exact yields_pure (.float literal)
      | none => exact yields_integerValue

/-- With this much fuel, whatever is read in values has bounded integers only. -/
structure ReadsBounded (fuel : Nat) : Prop where
  value (depth : Nat) : (value fuel depth).Yields Bounded
  items (depth : Nat) : (items fuel depth).Yields fun found => ∀ item ∈ found, item.Bounded
  fields (depth : Nat) : (fields fuel depth).Yields AllBounded
  moreFields (depth : Nat) : (moreFields fuel depth).Yields AllBounded

namespace ReadsBounded

variable {fuel : Nat}

theorem value_succ (h : ReadsBounded fuel) (depth : Nat) :
    (Toml.value (fuel + 1) depth).Yields Bounded := by
  rw [Toml.value.eq_def]
  refine yields_bind fun first => ?_
  split
  next => exact yields_bind fun text => yields_pure (.text text)
  next => exact yields_bind fun text => yields_pure (.text text)
  next =>
    refine yields_bind fun _ => ?_
    cases depth with
    | zero => exact yields_failure
    | succ depth => exact (h.items depth).bind fun found each => yields_pure (.array each)
  next =>
    refine yields_bind fun _ => ?_
    cases depth with
    | zero => exact yields_failure
    | succ depth =>
      refine (h.fields depth).bind fun pairs bounded => ?_
      cases placed : addAll pairs [] with
      | some entries =>
        exact yields_pure (bounded_table_iff.2 (allBounded_nil.addAll bounded placed))
      | none => exact yields_failure
  next => exact yields_bind fun _ => yields_pure (.boolean true)
  next => exact yields_bind fun _ => yields_pure (.boolean false)
  next => exact yields_bind fun _ => yields_pure (.float "inf")
  next => exact yields_bind fun _ => yields_pure (.float "nan")
  next => exact yields_bind fun _ => yields_scalar
  next => exact yields_failure

theorem items_succ (h : ReadsBounded fuel) (depth : Nat) :
    (Toml.items (fuel + 1) depth).Yields fun found => ∀ item ∈ found, item.Bounded := by
  rw [Toml.items]
  refine yields_bind fun _ => yields_bind fun closed => ?_
  cases closed with
  | true => exact yields_pure (List.forall_mem_nil _)
  | false =>
    refine (h.value depth).bind fun item hi => yields_bind fun _ => yields_bind fun more => ?_
    cases more with
    | true =>
      refine (h.items depth).bind fun others ho => yields_pure ?_
      exact List.forall_mem_cons.2 ⟨hi, ho⟩
    | false => exact yields_bind fun _ => yields_pure (List.forall_mem_singleton.2 hi)

theorem fields_succ (h : ReadsBounded fuel) (depth : Nat) :
    (Toml.fields (fuel + 1) depth).Yields AllBounded := by
  rw [Toml.fields]
  refine yields_bind fun _ => yields_bind fun closed => ?_
  cases closed with
  | true => exact yields_pure allBounded_nil
  | false => exact h.moreFields depth

theorem moreFields_succ (h : ReadsBounded fuel) (depth : Nat) :
    (Toml.moreFields (fuel + 1) depth).Yields AllBounded := by
  rw [Toml.moreFields]
  refine yields_bind fun key => yields_bind fun _ => yields_bind fun _ => ?_
  refine (h.value depth).bind fun value hv => yields_bind fun _ => yields_bind fun more => ?_
  cases more with
  | true =>
    refine (h.moreFields depth).bind fun others ho => yields_pure ?_
    exact allBounded_cons.2 ⟨hv, ho⟩
  | false => exact yields_bind fun _ => yields_pure (allBounded_singleton hv)

end ReadsBounded

/-- By induction on the fuel: each reader only calls the others with less of it. -/
theorem readsBounded (fuel : Nat) : ReadsBounded fuel := by
  induction fuel with
  | zero =>
    constructor <;> intro depth <;>
      simp only [Toml.value, Toml.items, Toml.fields, Toml.moreFields] <;> exact yields_failure
  | succ fuel ih => exact ⟨ih.value_succ, ih.items_succ, ih.fields_succ, ih.moreFields_succ⟩

/-! ## Documents -/

/-- Every integer in an assignment has 64 bits and a sign. -/
def Statement.Bounded : Statement → Prop
  | .header _ _ => True
  | .assignment _ value => value.Bounded

theorem yields_assignment : assignment.Yields Statement.Bounded := by
  refine yields_bind fun key => yields_bind fun _ => yields_bind fun _ => yields_bind fun text => ?_
  exact ((readsBounded _).value _).bind fun value hv => yields_bind fun _ => yields_pure hv

theorem yields_header : header.Yields Statement.Bounded := by
  refine yields_bind fun _ => yields_bind fun repeated => yields_bind fun key => ?_
  refine yields_bind fun _ => ?_
  cases repeated with
  | true => exact yields_bind fun _ => yields_bind fun _ => yields_pure trivial
  | false => exact yields_bind fun _ => yields_pure trivial

theorem yields_line :
    line.Yields fun found => ∀ several ∈ found, ∀ statement ∈ several, statement.Bounded := by
  refine yields_bind fun _ => yields_bind fun first => ?_
  split
  next => exact yields_pure (by simp)
  next => exact yields_bind fun _ => yields_bind fun _ => yields_pure (by simp)
  next => exact yields_bind fun _ => yields_pure (by simp)
  next => exact yields_bind fun _ => yields_pure (by simp)
  next => exact yields_header.bind fun statement bounded => yields_pure (by simpa using bounded)
  next => exact yields_assignment.bind fun statement bounded => yields_pure (by simpa using bounded)

theorem yields_repeated {α : Type} {item : Scan (Option α)} {P : α → Prop}
    (h : item.Yields fun found => ∀ a ∈ found, P a) (fuel : Nat) :
    (repeated item fuel).Yields fun found => ∀ a ∈ found, P a := by
  induction fuel with
  | zero => exact yields_failure
  | succ fuel ih =>
    refine h.bind fun found hf => ?_
    cases found with
    | none => exact yields_pure (List.forall_mem_nil _)
    | some a =>
      exact ih.bind fun others ho => yields_pure (List.forall_mem_cons.2 ⟨hf a rfl, ho⟩)

theorem yields_many {α : Type} {item : Scan (Option α)} {P : α → Prop}
    (h : item.Yields fun found => ∀ a ∈ found, P a) :
    (many item).Yields fun found => ∀ a ∈ found, P a :=
  yields_bind fun _ => yields_repeated h _

theorem bounded_of_statements {text : List Char} {found : List Statement}
    (h : statements text = some found) : ∀ statement ∈ found, statement.Bounded := by
  refine Yields.of_whole? (P := fun found => ∀ statement ∈ found, statement.Bounded) ?_ h
  refine yields_bind fun _ => (yields_many yields_line).bind fun lines each => yields_pure ?_
  exact List.forall_mem_flatten.2 each

theorem allBounded_sections {statements : List Statement}
    (h : ∀ statement ∈ statements, statement.Bounded) :
    AllBounded (sections statements).1 ∧
      ∀ named ∈ (sections statements).2, AllBounded named.2.2 := by
  induction statements with
  | nil => exact ⟨allBounded_nil, List.forall_mem_nil _⟩
  | cons statement rest ih =>
    obtain ⟨first, others⟩ := List.forall_mem_cons.1 h
    obtain ⟨pairs, headers⟩ := ih others
    cases statement with
    | assignment key value => exact ⟨allBounded_cons.2 ⟨first, pairs⟩, headers⟩
    | header repeated key => exact ⟨allBounded_nil, List.forall_mem_cons.2 ⟨pairs, headers⟩⟩

/-- Every integer of a document has 64 bits and a sign. -/
theorem allBounded_parse {text : List Char} {entries : Entries} (h : parse text = some entries) :
    AllBounded entries := by
  obtain ⟨found, read, h⟩ := Option.bind_eq_some_iff.1 h
  obtain ⟨root, placed, opened⟩ := Option.bind_eq_some_iff.1 h
  obtain ⟨pairs, headers⟩ := allBounded_sections (bounded_of_statements read)
  refine foldlM_keeps ?_ headers (allBounded_nil.addAll pairs placed) opened
  intro root named next bounded pairs stepped
  exact bounded.openTable pairs stepped

end Toml

end AssetWatch
