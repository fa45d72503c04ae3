import AssetWatch.Event.Json
import AssetWatch.Proofs.Json.Value
import AssetWatch.Proofs.SortedMap
import Mathlib.Data.List.Forall2

/-!
# What the fields of a record hold

A field of an object is what its members with that name hold, of which there may be one at
most. For each way of reading a field it is said which values can be read, and as what.
-/

namespace AssetWatch

/-- A list is worked off one by one, and nothing may fail. -/
theorem mapM_eq_some_iff {α β : Type} {f : α → Option β} {xs : List α} {ys : List β} :
    xs.mapM f = some ys ↔ List.Forall₂ (fun x y => f x = some y) xs ys := by
  induction xs generalizing ys with
  | nil => simp [eq_comm]
  | cons x xs ih =>
    simp only [List.mapM_cons, Option.bind_eq_bind, Option.bind_eq_some_iff, Option.pure_def,
      Option.some.injEq, List.forall₂_cons_left_iff, ih]
    constructor
    · rintro ⟨y, first, ys, others, rfl⟩
      exact ⟨y, ys, first, others, rfl⟩
    · rintro ⟨y, ys, first, others, rfl⟩
      exact ⟨y, first, ys, others, rfl⟩

namespace Json

/-! ## Members -/

theorem valuesOf_filter_ne {key other : String} (h : key ≠ other)
    (members : List (String × Json)) :
    valuesOf key (members.filter fun member => member.1 ≠ other) = valuesOf key members := by
  rw [valuesOf, List.filter_filter]
  refine congrArg (List.map _) (List.filter_congr fun member _ => ?_)
  by_cases same : member.1 = key <;> simp [same, h]

theorem valuesOf_filter_mem {key : String} {names : List String} (h : key ∈ names)
    (members : List (String × Json)) :
    valuesOf key (members.filter fun member => member.1 ∈ names) = valuesOf key members := by
  rw [valuesOf, List.filter_filter]
  refine congrArg (List.map _) (List.filter_congr fun member _ => ?_)
  by_cases same : member.1 = key <;> simp [same, h]

theorem valuesOf_perm {members others : List (String × Json)} (h : members.Perm others)
    (key : String) : (valuesOf key members).Perm (valuesOf key others) :=
  (h.filter _).map _

theorem valuesOf_zip_of_not_mem {key : String} {names : List String} (h : key ∉ names)
    (values : List Json) : valuesOf key (names.zip values) = [] := by
  have none : (names.zip values).filter (fun member => member.1 = key) = [] := by
    refine List.filter_eq_nil_iff.2 fun member found => ?_
    have named := (List.of_mem_zip found).1
    intro same
    exact h (of_decide_eq_true same ▸ named)
  rw [valuesOf, none, List.map_nil]

/-- Values under different names are found by these names. -/
theorem valuesOf_zip {names : List String} (nodup : names.Nodup) {i : Nat} {name : String}
    (h : names[i]? = some name) (values : List Json) :
    valuesOf name (names.zip values) = values[i]?.toList := by
  induction names generalizing i values with
  | nil => cases h
  | cons first names ih =>
    obtain ⟨fresh, nodup⟩ := List.nodup_cons.1 nodup
    cases values with
    | nil => rfl
    | cons value values =>
      cases i with
      | zero =>
        cases h
        have others := valuesOf_zip_of_not_mem fresh values
        simpa [valuesOf] using others
      | succ i =>
        have later := ih nodup h values
        have different : first ≠ name := by
          rintro rfl
          exact fresh (List.mem_of_getElem? h)
        simpa [valuesOf, different] using later

theorem single?_eq_some_iff {values : List Json} {field : Option Json} :
    single? values = some field ↔ values = field.toList := by
  match values, field with
  | [], none => simp [single?]
  | [], some value => simp [single?]
  | [value], none => simp [single?]
  | [value], some other => simp [single?]
  | _ :: _ :: _, none => simp [single?]
  | _ :: _ :: _, some value => simp [single?]

/-- The fields of an object are its members with these names, at most one with each. -/
theorem fields?_object_eq_some_iff {names : List String} {members : List (String × Json)}
    {fields : List (Option Json)} :
    fields? names (.object members) = some fields ↔
      List.Forall₂ (fun name field => valuesOf name members = field.toList) names fields := by
  simp only [fields?, mapM_eq_some_iff, single?_eq_some_iff]

/-- The fields of an array are its items, of which there may be no more than there are names. -/
theorem fields?_array_eq_some_iff {names : List String} {items : List Json}
    {fields : List (Option Json)} :
    fields? names (.array items) = some fields ↔
      items.length ≤ names.length ∧ fields = (List.range names.length).map fun i => items[i]? := by
  have same (h : items.length ≤ names.length) :
      items.map some ++ List.replicate (names.length - items.length) none =
        (List.range names.length).map fun i => items[i]? := by
    apply List.ext_getElem
    · simp [h]
    · intro i _ _
      by_cases inside : i < items.length <;> simp [List.getElem_append, inside]
  rw [fields?]
  split
  next few => rw [same few, Option.some.injEq, eq_comm, and_iff_right few]
  next many => simp [many]

/-- Values under different names are the same fields as the values in the order of the names. -/
theorem fields?_zip {names : List String} (nodup : names.Nodup) {values : List Json}
    (few : values.length ≤ names.length) :
    fields? names (.object (names.zip values)) = fields? names (.array values) := by
  rw [fields?_array_eq_some_iff.2 ⟨few, rfl⟩, fields?_object_eq_some_iff, List.forall₂_iff_get]
  refine ⟨by simp, fun i below _ => ?_⟩
  have name : names[i]? = some names[i] := List.getElem?_eq_getElem below
  simpa using valuesOf_zip nodup name values

/-! ## Fields -/

theorem required?_eq_some_iff {α : Type} {read : Json → Option α} {field : Option Json} {a : α} :
    required? read field = some a ↔ ∃ value, field = some value ∧ read value = some a :=
  Option.bind_eq_some_iff

theorem optional?_eq_some_iff {α : Type} {default a : α} {read : Json → Option α}
    {field : Option Json} :
    optional? default read field = some a ↔
      field = none ∧ a = default ∨ ∃ value, field = some value ∧ read value = some a := by
  cases field <;> simp [optional?, eq_comm]

theorem text?_eq_some_iff {value : Json} {text : String} :
    value.text? = some text ↔ value = .string text := by
  cases value <;> simp [text?]

/-- The numbers that are read are the literals of natural numbers below the bound, which have
neither a sign nor a fraction nor an exponent. -/
theorem natural?_eq_some_iff {bound n : Nat} {value : Json} :
    value.natural? bound = some n ↔ value = .ofNat n ∧ n < bound := by
  cases value with
  | number literal =>
    obtain ⟨negative, whole, fraction, exponent⟩ := literal
    simp only [natural?, ofNat, Number.ofNat, Json.number.injEq, Number.mk.injEq,
      Number.natural?]
    split
    next plain =>
      cases plain
      constructor
      · intro found
        split at found <;> simp_all
      · rintro ⟨⟨-, rfl, -, -⟩, below⟩
        exact if_pos below
    next other =>
      refine iff_of_false (by simp) ?_
      rintro ⟨⟨rfl, rfl, rfl, rfl⟩, -⟩
      exact other _ rfl
  | _ => simp [natural?, ofNat]

theorem seconds?_eq_some_iff {value : Json} {instant : Seconds} :
    seconds? value = some instant ↔ value = .ofNat instant.toNat := by
  rw [seconds?, Option.map_eq_some_iff]
  constructor
  · rintro ⟨n, found, rfl⟩
    obtain ⟨rfl, below⟩ := natural?_eq_some_iff.1 found
    rw [UInt64.toNat_ofNat_of_lt' below]
  · rintro rfl
    exact ⟨instant.toNat, natural?_eq_some_iff.2 ⟨rfl, instant.toNat_lt⟩, UInt64.ofNat_toNat⟩

/-- What a field says about a time: none if it is missing or `null`, or else the number of its
seconds. -/
def IsTime (field : Option Json) : Option Seconds → Prop
  | none => field = none ∨ field = some .null
  | some time => field = some (.ofNat time.toNat)

theorem optional?_time_eq_some_iff {field : Option Json} {time : Option Seconds} :
    optional? none (nullable? seconds?) field = some time ↔ IsTime field time := by
  have null : seconds? .null = none := rfl
  rw [optional?_eq_some_iff]
  cases time with
  | none =>
    simp only [IsTime, and_true]
    refine or_congr_right ⟨?_, ?_⟩
    · rintro ⟨value, rfl, found⟩
      cases value <;> simp_all [nullable?]
    · rintro rfl
      exact ⟨_, rfl, rfl⟩
  | some time =>
    simp only [IsTime, reduceCtorEq, and_false, false_or]
    constructor
    · rintro ⟨value, rfl, found⟩
      have read : seconds? value = some time := by
        cases value <;> simp_all [nullable?]
      rw [seconds?_eq_some_iff.1 read]
    · rintro rfl
      refine ⟨_, rfl, ?_⟩
      exact congrArg (Option.map some) (seconds?_eq_some_iff.2 rfl)

/-- An object of strings. -/
def ofStrings (entries : List (String × String)) : Json :=
  .object (entries.map fun entry => (entry.1, .string entry.2))

theorem fits_ofStrings (depth : Nat) (entries : List (String × String)) :
    Fits (.checked (depth + 1)) (ofStrings entries) := by
  rw [ofStrings, Fits]
  refine ⟨.checked depth, rfl, fitsMembers_of_forall fun member h => ?_⟩
  obtain ⟨entry, -, rfl⟩ := List.mem_map.1 h
  exact fits_string _ _

/-- What a field says about attributes: there are none if it is missing, or else it is an
object of strings, of which the last one under each name counts. -/
def IsAttributes (field : Option Json) (attributes : Attributes) : Prop :=
  field = none ∧ attributes = .empty ∨
    ∃ entries, field = some (ofStrings entries) ∧
      ∀ name, attributes.get? name = SortedMap.lookup name entries.reverse

theorem not_isAttributes_of_toList {field : Option Json} {attributes : Attributes}
    (null : field.toList = [.null]) : ¬IsAttributes field attributes := by
  rintro (⟨rfl, -⟩ | ⟨entries, rfl, -⟩) <;> cases null

theorem attributes?_eq_some_iff {value : Json} {attributes : Attributes} :
    attributes? value = some attributes ↔
      ∃ entries, value = ofStrings entries ∧ attributes = .ofList entries := by
  cases value with
  | object members =>
    have entry : (fun (member : String × Json) (entry : String × String) =>
          (do return (member.1, ← member.2.text?) : Option (String × String)) = some entry) =
        fun member entry => member = (entry.1, .string entry.2) := by
      funext ⟨name, value⟩ ⟨name', text⟩
      cases value <;> simp [text?]
    simp only [attributes?, ofStrings, Option.bind_eq_bind, Option.bind_eq_some_iff,
      Option.pure_def, Option.some.injEq, object.injEq]
    refine exists_congr fun entries => and_congr ?_ eq_comm
    rw [← List.forall₂_eq_eq_eq, List.forall₂_map_right_iff, ← entry]
    exact mapM_eq_some_iff
  | _ => simp [attributes?, ofStrings]

theorem optional?_attributes_eq_some_iff {field : Option Json} {attributes : Attributes} :
    optional? .empty attributes? field = some attributes ↔ IsAttributes field attributes := by
  rw [optional?_eq_some_iff, IsAttributes]
  refine or_congr_right ⟨?_, ?_⟩
  · rintro ⟨value, rfl, found⟩
    obtain ⟨entries, rfl, rfl⟩ := attributes?_eq_some_iff.1 found
    exact ⟨entries, rfl, SortedMap.get?_ofList entries⟩
  · rintro ⟨entries, rfl, lookups⟩
    refine ⟨_, rfl, attributes?_eq_some_iff.2 ⟨entries, rfl, ?_⟩⟩
    apply SortedMap.ext_get?
    intro name
    rw [lookups name, SortedMap.get?_ofList]

end Json

end AssetWatch
