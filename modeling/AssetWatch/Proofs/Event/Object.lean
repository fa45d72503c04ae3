import AssetWatch.Proofs.Json.Record
import AssetWatch.Proofs.Text.Blank

/-!
# Objects that stand for events

An object is a list of members, of which any may occur several times. It stands for an event if
its kind occurs once, each required field of that kind occurs once, each other field occurs at
most once, and all of them have values of the right type. The event is the one that the values
describe (`ofLine_object`). Neither the order of the members nor any other members matter.
-/

namespace AssetWatch

open Json

namespace Metric

/-- The fields that say what a metric is, with those that may be missing. -/
def fields (metric : Metric) (time aux : Option Json) : List (Option Json) :=
  [some (.string metric.source.text), some (.string metric.quantity), some (.string metric.value),
    some (.string metric.unit), some (.ofNat metric.ttl.toNat), time, aux]

/-- A record stands for a metric if its fields say so. -/
theorem ofJson?_eq_some_iff {record : Json} {metric : Metric} :
    ofJson? record = some metric ↔
      ∃ time aux, record.fields? fieldNames = some (metric.fields time aux) ∧
        IsTime time metric.time ∧ IsAttributes aux metric.aux := by
  rw [ofJson?, Option.bind_eq_bind, Option.bind_eq_some_iff]
  constructor
  · rintro ⟨fields, found, read⟩
    split at read
    next source quantity value unit ttl time aux =>
      simp only [Option.bind_eq_bind, Option.bind_eq_some_iff, required?_eq_some_iff,
        text?_eq_some_iff, seconds?_eq_some_iff, optional?_time_eq_some_iff,
        optional?_attributes_eq_some_iff, Option.pure_def, Option.some.injEq] at read
      obtain ⟨_, ⟨_, rfl, rfl⟩, _, ⟨_, rfl, rfl⟩, _, ⟨_, rfl, rfl⟩, _, ⟨_, rfl, rfl⟩, _,
        ⟨_, rfl, rfl⟩, _, isTime, _, isAttributes, rfl⟩ := read
      exact ⟨time, aux, found, isTime, isAttributes⟩
    next => cases read
  · rintro ⟨time, aux, found, isTime, isAttributes⟩
    refine ⟨_, found, ?_⟩
    simp [fields, required?, text?, seconds?_eq_some_iff.2 rfl,
      optional?_time_eq_some_iff.2 isTime, optional?_attributes_eq_some_iff.2 isAttributes]

/-- The members describe a metric: the required ones occur once and say what the metric is, the
time and the attributes occur once or are missing, and all other members do not matter. -/
structure DescribedBy (members : List (String × Json)) (metric : Metric) : Prop where
  source : valuesOf "source" members = [.string metric.source.text]
  quantity : valuesOf "quantity" members = [.string metric.quantity]
  value : valuesOf "value" members = [.string metric.value]
  unit : valuesOf "unit" members = [.string metric.unit]
  ttl : valuesOf "ttl" members = [.ofNat metric.ttl.toNat]
  time : ∃ field : Option Json, valuesOf "time" members = field.toList ∧ IsTime field metric.time
  aux : ∃ field : Option Json,
    valuesOf "aux" members = field.toList ∧ IsAttributes field metric.aux

theorem ofJson?_object_eq_some_iff {members : List (String × Json)} {metric : Metric} :
    ofJson? (.object members) = some metric ↔ metric.DescribedBy members := by
  simp only [ofJson?_eq_some_iff, fields?_object_eq_some_iff, fieldNames, fields,
    List.forall₂_cons, List.Forall₂.nil, and_true, Option.toList_some]
  constructor
  · rintro ⟨time, aux, ⟨source, quantity, value, unit, ttl, htime, haux⟩, isTime, isAttributes⟩
    exact ⟨source, quantity, value, unit, ttl, ⟨time, htime, isTime⟩, ⟨aux, haux, isAttributes⟩⟩
  · rintro ⟨source, quantity, value, unit, ttl, ⟨time, htime, isTime⟩, ⟨aux, haux, isAttributes⟩⟩
    exact ⟨time, aux, ⟨source, quantity, value, unit, ttl, htime, haux⟩, isTime, isAttributes⟩

/-- Of the fields of a metric only the time may be `null`. -/
theorem DescribedBy.eq_time_of_null {members : List (String × Json)} {metric : Metric}
    (h : metric.DescribedBy members) {name : String} (field : name ∈ fieldNames)
    (null : valuesOf name members = [.null]) : name = "time" := by
  obtain ⟨source, quantity, value, unit, ttl, -, aux, given, isAttributes⟩ := h
  simp only [fieldNames, List.mem_cons, List.not_mem_nil, or_false] at field
  rcases field with rfl | rfl | rfl | rfl | rfl | rfl | rfl
  · cases null.symm.trans source
  · cases null.symm.trans quantity
  · cases null.symm.trans value
  · cases null.symm.trans unit
  · cases null.symm.trans ttl
  · rfl
  · exact absurd isAttributes (not_isAttributes_of_toList (given.symm.trans null))

end Metric

namespace AssetNotice

/-- The fields that say what a notice is; the name of the operation is given. -/
def fields (notice : AssetNotice) (operation : String) (aux ext : Option Json) :
    List (Option Json) :=
  [some (.string notice.name.text), some (.string operation), aux, ext]

/-- A record stands for a notice if its fields say so. -/
theorem ofJson?_eq_some_iff {record : Json} {notice : AssetNotice} :
    ofJson? record = some notice ↔
      ∃ operation aux ext,
        record.fields? fieldNames = some (notice.fields operation aux ext) ∧
        notice.operation = .ofText operation ∧ IsAttributes aux notice.aux ∧
        IsAttributes ext notice.ext := by
  rw [ofJson?, Option.bind_eq_bind, Option.bind_eq_some_iff]
  constructor
  · rintro ⟨fields, found, read⟩
    split at read
    next name operation aux ext =>
      simp only [Option.bind_eq_bind, Option.bind_eq_some_iff, required?_eq_some_iff,
        text?_eq_some_iff, optional?_attributes_eq_some_iff, Option.pure_def,
        Option.some.injEq] at read
      obtain ⟨_, ⟨_, rfl, rfl⟩, operation, ⟨_, rfl, rfl⟩, _, isAux, _, isExt, rfl⟩ := read
      exact ⟨operation, aux, ext, found, rfl, isAux, isExt⟩
    next => cases read
  · rintro ⟨operation, aux, ext, found, named, isAux, isExt⟩
    refine ⟨_, found, ?_⟩
    simp [fields, required?, text?, ← named, optional?_attributes_eq_some_iff.2 isAux,
      optional?_attributes_eq_some_iff.2 isExt]

/-- The members describe a notice: name and operation occur once, each group of attributes
occurs once or is missing, and all other members do not matter. -/
structure DescribedBy (members : List (String × Json)) (notice : AssetNotice) : Prop where
  name : valuesOf "name" members = [.string notice.name.text]
  operation : ∃ operation, valuesOf "operation" members = [.string operation] ∧
    notice.operation = .ofText operation
  aux : ∃ field : Option Json,
    valuesOf "aux" members = field.toList ∧ IsAttributes field notice.aux
  ext : ∃ field : Option Json,
    valuesOf "ext" members = field.toList ∧ IsAttributes field notice.ext

theorem ofJson?_object_eq_some_iff {members : List (String × Json)} {notice : AssetNotice} :
    ofJson? (.object members) = some notice ↔ notice.DescribedBy members := by
  simp only [ofJson?_eq_some_iff, fields?_object_eq_some_iff, fieldNames, fields,
    List.forall₂_cons, List.Forall₂.nil, and_true, Option.toList_some]
  constructor
  · rintro ⟨operation, aux, ext, ⟨name, hoperation, haux, hext⟩, named, isAux, isExt⟩
    exact ⟨name, ⟨operation, hoperation, named⟩, ⟨aux, haux, isAux⟩, ⟨ext, hext, isExt⟩⟩
  · rintro ⟨name, ⟨operation, hoperation, named⟩, ⟨aux, haux, isAux⟩, ⟨ext, hext, isExt⟩⟩
    exact ⟨operation, aux, ext, ⟨name, hoperation, haux, hext⟩, named, isAux, isExt⟩

/-- No field of a notice may be `null`. -/
theorem DescribedBy.ne_null {members : List (String × Json)} {notice : AssetNotice}
    (h : notice.DescribedBy members) {name : String} (field : name ∈ fieldNames) :
    valuesOf name members ≠ [.null] := by
  obtain ⟨called, ⟨operation, told, -⟩, ⟨aux, givenAux, isAux⟩, ext, givenExt, isExt⟩ := h
  intro null
  simp only [fieldNames, List.mem_cons, List.not_mem_nil, or_false] at field
  rcases field with rfl | rfl | rfl | rfl
  · cases null.symm.trans called
  · cases null.symm.trans told
  · exact not_isAttributes_of_toList (givenAux.symm.trans null) isAux
  · exact not_isAttributes_of_toList (givenExt.symm.trans null) isExt

end AssetNotice

namespace Event

variable {members others : List (String × Json)}

/-- The members describe an event: the kind is given once, and the members with the names of
its fields describe an event of this kind. -/
def DescribedBy (members : List (String × Json)) : Event → Prop
  | metric m => valuesOf "kind" members = [.string "metric"] ∧ m.DescribedBy members
  | asset notice => valuesOf "kind" members = [.string "asset"] ∧ notice.DescribedBy members

/-- The names of the fields that an event of the given kind has. -/
def fieldNamesOf (kind : String) : List String :=
  if kind = "metric" then Metric.fieldNames
  else if kind = "asset" then AssetNotice.fieldNames
  else []

/-- The event of the given kind that a record of its fields stands for. -/
def ofRecord? (kind : String) (record : Json) : Option Event :=
  if kind = "metric" then (Metric.ofJson? record).map .metric
  else if kind = "asset" then (AssetNotice.ofJson? record).map .asset
  else none

/-- Whether members with the given key count in an object: its kind does, and so do the fields
of an event of this kind. -/
def Counts (members : List (String × Json)) (key : String) : Prop :=
  key = "kind" ∨ ∃ kind, valuesOf "kind" members = [.string kind] ∧ key ∈ fieldNamesOf kind

end Event

/-! ## What does not matter -/

theorem Json.single?_perm {values others : List Json} (h : values.Perm others) :
    single? values = single? others := by
  match values, others with
  | [], others => rw [h.nil_eq]
  | [value], others => rw [h.singleton_eq]
  | _ :: _ :: _, _ :: _ :: _ => rfl
  | _ :: _ :: _, [] => cases h.length_eq
  | _ :: _ :: _, [_] => cases h.length_eq

theorem Json.fields?_object_congr {names : List String} {members others : List (String × Json)}
    (h : ∀ name ∈ names, single? (valuesOf name members) = single? (valuesOf name others)) :
    fields? names (.object members) = fields? names (.object others) := by
  simp only [fields?]
  induction names with
  | nil => rfl
  | cons name names ih =>
    rw [List.mapM_cons, List.mapM_cons, h name List.mem_cons_self,
      ih fun name member => h name (List.mem_cons_of_mem _ member)]

theorem Json.tagged?_object_eq_some_iff {key kind : String} {members : List (String × Json)}
    {record : Json} :
    tagged? key (.object members) = some (kind, record) ↔
      valuesOf key members = [.string kind] ∧
        record = .object (members.filter fun member => member.1 ≠ key) := by
  simp only [tagged?]
  split
  next found => simp [found, eq_comm]
  next other =>
    refine iff_of_false (by simp) ?_
    rintro ⟨found, -⟩
    exact other kind found

namespace Metric

theorem ofJson?_congr {record other : Json}
    (h : record.fields? fieldNames = other.fields? fieldNames) :
    ofJson? record = ofJson? other := by
  rw [ofJson?, ofJson?, h]

end Metric

namespace AssetNotice

theorem ofJson?_congr {record other : Json}
    (h : record.fields? fieldNames = other.fields? fieldNames) :
    ofJson? record = ofJson? other := by
  rw [ofJson?, ofJson?, h]

end AssetNotice

namespace Event

variable {members others : List (String × Json)}

theorem not_mem_fieldNamesOf (kind : String) : "kind" ∉ fieldNamesOf kind := by
  unfold fieldNamesOf
  split
  next => decide
  next => split <;> decide

/-- Records with the same fields stand for the same event. -/
theorem ofRecord?_congr {kind : String} {record other : Json}
    (h : record.fields? (fieldNamesOf kind) = other.fields? (fieldNamesOf kind)) :
    ofRecord? kind record = ofRecord? kind other := by
  unfold ofRecord?
  by_cases metric : kind = "metric"
  · subst metric
    rw [if_pos rfl, if_pos rfl, Metric.ofJson?_congr h]
  · rw [if_neg metric, if_neg metric]
    by_cases asset : kind = "asset"
    · subst asset
      rw [if_pos rfl, if_pos rfl, AssetNotice.ofJson?_congr h]
    · rw [if_neg asset, if_neg asset]

theorem ofRecord?_eq_metric_iff {kind : String} {record : Json} {m : Metric} :
    ofRecord? kind record = some (.metric m) ↔
      kind = "metric" ∧ Metric.ofJson? record = some m := by
  unfold ofRecord?
  split
  next metric => simp [metric]
  next notMetric => split <;> simp [notMetric]

theorem ofRecord?_eq_asset_iff {kind : String} {record : Json} {notice : AssetNotice} :
    ofRecord? kind record = some (.asset notice) ↔
      kind = "asset" ∧ AssetNotice.ofJson? record = some notice := by
  unfold ofRecord?
  split
  next metric => simp [metric]
  next => split <;> simp [*]

theorem ofJson?_tagged {kind : String} (h : valuesOf "kind" members = [.string kind]) :
    ofJson? (.object members) = ofRecord? kind (.object members) := by
  have tagged := tagged?_object_eq_some_iff.2 ⟨h, rfl⟩
  rw [ofJson?, tagged]
  refine ofRecord?_congr (fields?_object_congr fun name member => ?_)
  have other : name ≠ "kind" := fun same => not_mem_fieldNamesOf kind (same ▸ member)
  rw [valuesOf_filter_ne other]

theorem ofJson?_untagged (h : ∀ kind, valuesOf "kind" members ≠ [.string kind]) :
    ofJson? (.object members) = none := by
  have untagged : tagged? "kind" (.object members) = none := by
    refine Option.eq_none_iff_forall_ne_some.2 fun ⟨kind, record⟩ found => ?_
    exact h kind (tagged?_object_eq_some_iff.1 found).1
  rw [ofJson?, untagged]
  rfl

theorem ofJson?_object_eq_some_iff {event : Event} :
    ofJson? (.object members) = some event ↔ event.DescribedBy members := by
  by_cases tagged : ∃ kind, valuesOf "kind" members = [.string kind]
  · obtain ⟨kind, tagged⟩ := tagged
    rw [ofJson?_tagged tagged]
    cases event with
    | metric m =>
      simp [ofRecord?_eq_metric_iff, Metric.ofJson?_object_eq_some_iff, DescribedBy, tagged]
    | asset notice =>
      simp [ofRecord?_eq_asset_iff, AssetNotice.ofJson?_object_eq_some_iff, DescribedBy, tagged]
  · have untagged : ∀ kind, valuesOf "kind" members ≠ [.string kind] := fun kind found =>
      tagged ⟨kind, found⟩
    rw [ofJson?_untagged untagged]
    cases event <;> simp [DescribedBy, untagged]

/-- Objects stand for the same event if the members that count are the same. -/
theorem ofJson?_object_congr
    (h : ∀ key, Counts members key →
      single? (valuesOf key members) = single? (valuesOf key others)) :
    ofJson? (.object members) = ofJson? (.object others) := by
  have kinds := h "kind" (.inl rfl)
  have alike (kind : String) :
      valuesOf "kind" members = [.string kind] ↔ valuesOf "kind" others = [.string kind] := by
    have iff (members : List (String × Json)) : valuesOf "kind" members = [.string kind] ↔
        single? (valuesOf "kind" members) = some (some (.string kind)) := by
      rw [single?_eq_some_iff]
      rfl
    rw [iff, iff, kinds]
  by_cases tagged : ∃ kind, valuesOf "kind" members = [.string kind]
  · obtain ⟨kind, tagged⟩ := tagged
    rw [ofJson?_tagged tagged, ofJson?_tagged ((alike kind).1 tagged)]
    refine ofRecord?_congr (fields?_object_congr fun name member => ?_)
    exact h name (.inr ⟨kind, tagged, member⟩)
  · have untagged : ∀ kind, valuesOf "kind" members ≠ [.string kind] := fun kind found =>
      tagged ⟨kind, found⟩
    rw [ofJson?_untagged untagged, ofJson?_untagged fun kind found =>
      untagged kind ((alike kind).2 found)]

/-- The order of the members does not matter. -/
theorem ofJson?_perm (h : members.Perm others) :
    ofJson? (.object members) = ofJson? (.object others) := by
  exact ofJson?_object_congr fun key _ => single?_perm (valuesOf_perm h key)

/-- A member that does not count may be put anywhere. -/
theorem ofJson?_insert {before after : List (String × Json)} {key : String} {value : Json}
    (h : ¬Counts (before ++ after) key) :
    ofJson? (.object (before ++ after)) = ofJson? (.object (before ++ (key, value) :: after)) := by
  refine ofJson?_object_congr fun other counts => ?_
  have different : key ≠ other := fun same => h (same ▸ counts)
  simp [valuesOf, different]

/-! ## Lines -/

/-- The line is the text of the object with these members, with or without blanks around it. -/
def HoldsObject (line : List Char) (members : List (String × Json)) : Prop :=
  Json.parse (Text.trim line) = some (.object members)

theorem ofLine_of_parse {line : List Char} {value : Json}
    (h : Json.parse (Text.trim line) = some value) :
    ofLine line = ((ofJson? value).map .event).getD .malformed := by
  unfold ofLine
  split
  next blank =>
    rw [blank] at h
    cases h
  next =>
    rw [h, Option.bind_some]
    cases ofJson? value <;> rfl

theorem ofLine_eq_event_iff {line : List Char} {value : Json}
    (h : Json.parse (Text.trim line) = some value) {event : Event} :
    ofLine line = .event event ↔ ofJson? value = some event := by
  rw [ofLine_of_parse h]
  cases ofJson? value <;> simp

theorem ofLine_eq_malformed_iff {line : List Char} {value : Json}
    (h : Json.parse (Text.trim line) = some value) :
    ofLine line = .malformed ↔ ofJson? value = none := by
  rw [ofLine_of_parse h]
  cases ofJson? value <;> simp

theorem ofLine_of_holdsObject {line : List Char} (h : HoldsObject line members) :
    ofLine line = ((ofJson? (.object members)).map .event).getD .malformed :=
  ofLine_of_parse h

theorem holdsObject_write (fits : Fits (.checked maxDepth) (.object members))
    {front back : List Char} (hfront : Text.AllBlank front) (hback : Text.AllBlank back) :
    HoldsObject (front ++ write (.object members) ++ back) members := by
  obtain ⟨inside, braces⟩ := exists_write_object_eq members
  rw [HoldsObject, braces, Text.trim_enclosed (by decide) (by decide) hfront hback, ← braces]
  exact parse_write fits

/-- An object within the limits can be written on a line, and whenever a line holds it, the line
is read as the event that the members describe, or as malformed if they describe none. The
members may be put in any other order, and members that do not count may be put in or taken out. -/
theorem ofLine_object (members : List (String × Json))
    (fits : Fits (.checked maxDepth) (.object members)) :
    (∀ front back, Text.AllBlank front → Text.AllBlank back →
      HoldsObject (front ++ write (.object members) ++ back) members) ∧
    ∀ line, HoldsObject line members →
      (∀ event, ofLine line = .event event ↔ event.DescribedBy members) ∧
      (ofLine line = .malformed ↔ ¬∃ event : Event, event.DescribedBy members) ∧
      (∀ others other, others.Perm members → HoldsObject other others →
        ofLine other = ofLine line) ∧
      ∀ before after key value other, members = before ++ after → ¬Counts members key →
        HoldsObject other (before ++ (key, value) :: after) → ofLine other = ofLine line := by
  refine ⟨fun front back => holdsObject_write fits, fun line holds => ?_⟩
  have read := ofLine_of_holdsObject holds
  refine ⟨fun event => ?_, ?_, fun others other perm holds' => ?_, ?_⟩
  · rw [read, ← ofJson?_object_eq_some_iff]
    cases ofJson? (.object members) <;> simp
  · simp only [read, ← ofJson?_object_eq_some_iff]
    cases ofJson? (.object members) <;> simp
  · rw [read, ofLine_of_holdsObject holds', ofJson?_perm perm]
  · rintro before after key value other rfl counts holds'
    rw [read, ofLine_of_holdsObject holds', ofJson?_insert counts]

/-- The object of a metric with its kind at the end, an attribute that is given twice, and
members that belong to a notice. -/
def shuffledObject : List (String × Json) :=
  [("name", .null), ("ttl", .ofNat 18446744073709551615), ("time", .null),
    ("source", .string "ups"), ("name", .null), ("unit", .string "C"), ("value", .string "21"),
    ("aux", ofStrings [("rack", "a"), ("rack", "b")]), ("quantity", .string "temperature"),
    ("kind", .string "metric")]

theorem fits_shuffledObject : Fits (.checked maxDepth) (.object shuffledObject) := by
  refine ⟨.checked 126, rfl, fitsMembers_of_forall ?_⟩
  simp only [shuffledObject, List.forall_mem_cons, List.not_mem_nil, false_imp_iff, forall_const,
    fits_null, fits_string, fits_ofStrings, true_and, and_true]
  exact fits_ofNat _ (by decide)

/-- The metric is found, with the later value of the attribute. -/
theorem ofLine_shuffledObject :
    ofLine (write (.object shuffledObject) ++ ['\n']) =
      .event (.metric ⟨⟨"ups"⟩, "temperature", "21", "C", Seconds.latest, none,
        .ofList [("rack", "b")]⟩) := by
  have object := ofLine_object shuffledObject fits_shuffledObject
  have holds := object.1 [] ['\n'] (by simp [Text.AllBlank]) (by simp [Text.AllBlank]; decide)
  refine ((object.2 _ holds).1 _).2 ⟨rfl, ?_⟩
  refine ⟨rfl, rfl, rfl, rfl, rfl, ⟨some .null, rfl, .inr rfl⟩, ?_⟩
  refine ⟨_, rfl, .inr ⟨_, rfl, fun name => ?_⟩⟩
  rw [SortedMap.get?_ofList]
  by_cases rack : "rack" = name <;> simp [SortedMap.lookup_cons, rack]

end Event

end AssetWatch
