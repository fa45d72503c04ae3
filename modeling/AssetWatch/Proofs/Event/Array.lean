import AssetWatch.Proofs.Event.Object

/-!
# Arrays that stand for events

An array has the kind of an event in front and after it the values of the event's fields, in
the order of their declaration. It stands for the same event as the object that has these values
under the names of the fields (`ofLine_array`). The two differ in what may be missing and in what
may be added: an array leaves out fields at its end and takes no further items, an object may
have any other members.
-/

namespace AssetWatch

open Json

/-! ## Items -/

namespace Metric

/-- The items list the fields of a metric: the required ones say what the metric is, the time
and the attributes after them may be missing, and nothing follows. -/
structure ListedBy (items : List Json) (metric : Metric) : Prop where
  length_le : items.length ≤ fieldNames.length
  source : items[0]? = some (.string metric.source.text)
  quantity : items[1]? = some (.string metric.quantity)
  value : items[2]? = some (.string metric.value)
  unit : items[3]? = some (.string metric.unit)
  ttl : items[4]? = some (.ofNat metric.ttl.toNat)
  time : IsTime items[5]? metric.time
  aux : IsAttributes items[6]? metric.aux

theorem ofJson?_array_eq_some_iff {items : List Json} {metric : Metric} :
    ofJson? (.array items) = some metric ↔ metric.ListedBy items := by
  have names : List.range fieldNames.length = [0, 1, 2, 3, 4, 5, 6] := rfl
  simp only [ofJson?_eq_some_iff, fields?_array_eq_some_iff, fields, names, List.map_cons,
    List.map_nil, List.cons.injEq, and_true]
  constructor
  · rintro ⟨time, aux, ⟨few, source, quantity, value, unit, ttl, rfl, rfl⟩, isTime, isAttributes⟩
    exact ⟨few, source.symm, quantity.symm, value.symm, unit.symm, ttl.symm, isTime, isAttributes⟩
  · rintro ⟨few, source, quantity, value, unit, ttl, isTime, isAttributes⟩
    exact ⟨_, _, ⟨few, source.symm, quantity.symm, value.symm, unit.symm, ttl.symm, rfl, rfl⟩,
      isTime, isAttributes⟩

/-- The items with `null` for the time, whether they give one or end before it. -/
def untimed (items : List Json) : List Json := items.take 5 ++ .null :: items.drop 6

/-- Without its time a metric stays what it is. -/
theorem ListedBy.without_time {items : List Json} {metric : Metric} (h : metric.ListedBy items) :
    { metric with time := none }.ListedBy (untimed items) := by
  have required : 5 ≤ items.length := (List.getElem?_eq_some_iff.1 h.ttl).1
  have first : (items.take 5).length = 5 := List.length_take_of_le required
  have before {i : Nat} (early : i < 5) : (untimed items)[i]? = items[i]? := by
    rw [untimed, List.getElem?_append_left (by omega), List.getElem?_take_of_lt early]
  have there : (untimed items)[5]? = some .null := by
    rw [untimed, List.getElem?_append_right (by omega), first]
    rfl
  have after : (untimed items)[6]? = items[6]? := by
    rw [untimed, List.getElem?_append_right (by omega), first, List.getElem?_cons_succ,
      List.getElem?_drop]
  have few : items.length ≤ 7 := h.length_le
  exact {
    length_le := by
      have length : (untimed items).length = 5 + (items.length - 6 + 1) := by simp [untimed, first]
      rw [length]
      show _ ≤ 7
      omega
    source := (before (by decide)).trans h.source
    quantity := (before (by decide)).trans h.quantity
    value := (before (by decide)).trans h.value
    unit := (before (by decide)).trans h.unit
    ttl := (before (by decide)).trans h.ttl
    time := .inr there
    aux := after ▸ h.aux }

end Metric

namespace AssetNotice

/-- The items list the fields of a notice: name and operation, then the groups of attributes, of
which the last or both may be missing, and nothing else. -/
structure ListedBy (items : List Json) (notice : AssetNotice) : Prop where
  length_le : items.length ≤ fieldNames.length
  name : items[0]? = some (.string notice.name.text)
  operation : ∃ operation, items[1]? = some (.string operation) ∧
    notice.operation = .ofText operation
  aux : IsAttributes items[2]? notice.aux
  ext : IsAttributes items[3]? notice.ext

theorem ofJson?_array_eq_some_iff {items : List Json} {notice : AssetNotice} :
    ofJson? (.array items) = some notice ↔ notice.ListedBy items := by
  have names : List.range fieldNames.length = [0, 1, 2, 3] := rfl
  simp only [ofJson?_eq_some_iff, fields?_array_eq_some_iff, fields, names, List.map_cons,
    List.map_nil, List.cons.injEq, and_true]
  constructor
  · rintro ⟨operation, aux, ext, ⟨few, name, given, rfl, rfl⟩, named, isAux, isExt⟩
    exact ⟨few, name.symm, ⟨operation, given.symm, named⟩, isAux, isExt⟩
  · rintro ⟨few, name, ⟨operation, given, named⟩, isAux, isExt⟩
    exact ⟨operation, _, _, ⟨few, name.symm, given.symm, rfl, rfl⟩, named, isAux, isExt⟩

end AssetNotice

namespace Event

variable {kind : String} {values : List Json} {members : List (String × Json)}

/-- The number of fields that an event of the given kind must have, which come first. -/
def requiredOf (kind : String) : Nat :=
  if kind = "metric" then 5
  else if kind = "asset" then 2
  else 0

/-- The values list the fields of an event of the given kind. -/
def ListedBy (kind : String) (values : List Json) : Event → Prop
  | metric m => kind = "metric" ∧ m.ListedBy values
  | asset notice => kind = "asset" ∧ notice.ListedBy values

theorem ofJson?_tagged_array (kind : String) (values : List Json) :
    ofJson? (.array (.string kind :: values)) = ofRecord? kind (.array values) :=
  rfl

theorem ofJson?_array_eq_some_iff {event : Event} :
    ofJson? (.array (.string kind :: values)) = some event ↔ event.ListedBy kind values := by
  rw [ofJson?_tagged_array]
  cases event with
  | metric m => rw [ofRecord?_eq_metric_iff, Metric.ofJson?_array_eq_some_iff, ListedBy]
  | asset notice => rw [ofRecord?_eq_asset_iff, AssetNotice.ofJson?_array_eq_some_iff, ListedBy]

/-- An array gives all the required fields, and no more than there are. -/
theorem ListedBy.length_bounds {event : Event} (h : event.ListedBy kind values) :
    requiredOf kind ≤ values.length ∧ values.length ≤ (fieldNamesOf kind).length := by
  cases event with
  | metric m =>
    obtain ⟨rfl, listed⟩ := h
    exact ⟨(List.getElem?_eq_some_iff.1 listed.ttl).1, listed.length_le⟩
  | asset notice =>
    obtain ⟨rfl, listed⟩ := h
    obtain ⟨operation, given, -⟩ := listed.operation
    exact ⟨(List.getElem?_eq_some_iff.1 given).1, listed.length_le⟩

/-! ## The object with the same values -/

/-- The members of the object that gives the first fields of an event by their names. -/
def membersOf (kind : String) (values : List Json) : List (String × Json) :=
  ("kind", .string kind) :: (fieldNamesOf kind).zip values

theorem nodup_fieldNamesOf (kind : String) : (fieldNamesOf kind).Nodup := by
  unfold fieldNamesOf
  split
  next => decide
  next => split <;> decide

theorem valuesOf_kind_membersOf (kind : String) (values : List Json) :
    valuesOf "kind" (membersOf kind values) = [.string kind] := by
  have others := valuesOf_zip_of_not_mem (not_mem_fieldNamesOf kind) values
  simpa [membersOf, valuesOf] using others

theorem valuesOf_membersOf {name : String} (field : name ∈ fieldNamesOf kind)
    (values : List Json) :
    valuesOf name (membersOf kind values) = valuesOf name ((fieldNamesOf kind).zip values) := by
  have different : "kind" ≠ name := by
    rintro rfl
    exact not_mem_fieldNamesOf kind field
  simp [membersOf, valuesOf, different]

/-- An array within the number of fields and the object with the same values stand for the same
event. -/
theorem ofJson?_membersOf (few : values.length ≤ (fieldNamesOf kind).length) :
    ofJson? (.object (membersOf kind values)) = ofJson? (.array (.string kind :: values)) := by
  rw [ofJson?_tagged (valuesOf_kind_membersOf kind values), ofJson?_tagged_array]
  apply ofRecord?_congr
  rw [← fields?_zip (nodup_fieldNamesOf kind) few]
  refine fields?_object_congr fun name member => ?_
  rw [valuesOf_membersOf member]

/-- No field of an event is `null` but the time. -/
theorem DescribedBy.eq_time_of_null {event : Event} (h : event.DescribedBy members)
    (hkind : valuesOf "kind" members = [.string kind]) {name : String}
    (field : name ∈ fieldNamesOf kind) (null : valuesOf name members = [.null]) :
    name = "time" := by
  cases event with
  | metric m =>
    obtain ⟨same, described⟩ := h
    rw [hkind] at same
    cases same
    exact described.eq_time_of_null field null
  | asset notice =>
    obtain ⟨same, described⟩ := h
    rw [hkind] at same
    cases same
    exact absurd null (described.ne_null field)

/-- The object stands for no event if another field than the time is `null`. -/
theorem ofJson?_membersOf_of_null {i : Nat} {name : String} (null : values[i]? = some .null)
    (field : (fieldNamesOf kind)[i]? = some name) (notTime : name ≠ "time") :
    ofJson? (.object (membersOf kind values)) = none := by
  have named : name ∈ fieldNamesOf kind := List.mem_of_getElem? field
  have given : valuesOf name (membersOf kind values) = [.null] := by
    rw [valuesOf_membersOf named, valuesOf_zip (nodup_fieldNamesOf kind) field, null]
    rfl
  refine Option.eq_none_iff_forall_ne_some.2 fun event read => notTime ?_
  have described := ofJson?_object_eq_some_iff.1 read
  exact described.eq_time_of_null (valuesOf_kind_membersOf kind values) named given

/-- Members that are no fields of the event may be left out, however many there are. -/
theorem ofJson?_of_filter {values : List Json}
    (h : members.filter (fun member => member.1 ∈ "kind" :: fieldNamesOf kind) =
      membersOf kind values) :
    ofJson? (.object members) = ofJson? (.object (membersOf kind values)) := by
  refine (ofJson?_object_congr fun key counts => ?_).symm
  have field : key ∈ "kind" :: fieldNamesOf kind := by
    rcases counts with rfl | ⟨other, given, field⟩
    · exact List.mem_cons_self
    · rw [valuesOf_kind_membersOf] at given
      cases given
      exact List.mem_cons_of_mem _ field
  rw [← h, valuesOf_filter_mem field]

/-! ## Lines -/

/-- The line is the text of the array with these items, with or without blanks around it. -/
def HoldsArray (line : List Char) (items : List Json) : Prop :=
  Json.parse (Text.trim line) = some (.array items)

theorem holdsArray_write {items : List Json} (fits : Fits (.checked maxDepth) (.array items))
    {front back : List Char} (hfront : Text.AllBlank front) (hback : Text.AllBlank back) :
    HoldsArray (front ++ write (.array items) ++ back) items := by
  obtain ⟨inside, brackets⟩ := exists_write_array_eq items
  rw [HoldsArray, brackets, Text.trim_enclosed (by decide) (by decide) hfront hback, ← brackets]
  exact parse_write fits

/-- The values of an array that fits, with `null` for the time, make an array that fits. -/
theorem fits_untimed (fits : Fits (.checked maxDepth) (.array (.string kind :: values))) :
    Fits (.checked maxDepth) (.array (.string kind :: Metric.untimed values)) := by
  obtain ⟨inner, opens, items⟩ := fits
  refine ⟨inner, opens, ?_⟩
  rw [fitsItems_iff_forall, List.forall_mem_cons] at items ⊢
  refine ⟨items.1, fun value member => ?_⟩
  rcases List.mem_append.1 member with first | later
  · exact items.2 value (List.mem_of_mem_take first)
  · rcases List.mem_cons.1 later with rfl | later
    · exact fits_null inner
    · exact items.2 value (List.mem_of_mem_drop later)

/-- The values of an array that fits make an object that fits. -/
theorem fits_membersOf (fits : Fits (.checked maxDepth) (.array (.string kind :: values))) :
    Fits (.checked maxDepth) (.object (membersOf kind values)) := by
  obtain ⟨inner, opens, items⟩ := fits
  refine ⟨inner, opens, fitsMembers_of_forall ?_⟩
  rw [fitsItems_iff_forall, List.forall_mem_cons] at items
  rw [membersOf, List.forall_mem_cons]
  exact ⟨items.1, fun member found => items.2 _ (List.of_mem_zip found).2⟩

/-- Both layouts of an event within the limits can be written on a line. A line that holds the
array is an event just if it has all the required fields, no more than there are, and a line that
holds the object with the same values is this event. Only the time may be `null`, which is the
same as no time. What is too much in an array makes it malformed; members of an object that are
no fields do not matter. -/
theorem ofLine_array (kind : String) (values : List Json)
    (fits : Fits (.checked maxDepth) (.array (.string kind :: values))) :
    (∀ front back, Text.AllBlank front → Text.AllBlank back →
      HoldsArray (front ++ write (.array (.string kind :: values)) ++ back)
        (.string kind :: values) ∧
      HoldsArray (front ++ write (.array (.string kind :: Metric.untimed values)) ++ back)
        (.string kind :: Metric.untimed values) ∧
      HoldsObject (front ++ write (.object (membersOf kind values)) ++ back)
        (membersOf kind values)) ∧
    ∀ line other, HoldsArray line (.string kind :: values) →
      HoldsObject other (membersOf kind values) →
        (∀ event, ofLine line = .event event ↔
          requiredOf kind ≤ values.length ∧ values.length ≤ (fieldNamesOf kind).length ∧
            ofLine other = .event event) ∧
        (ofLine line = .malformed ↔ ∀ event, ofLine line ≠ .event event) ∧
        (∀ (i : Nat) name, values[i]? = some .null → (fieldNamesOf kind)[i]? = some name →
          name ≠ "time" → ofLine line = .malformed ∧ ofLine other = .malformed) ∧
        (∀ metric untimed, ofLine line = .event (.metric metric) →
          HoldsArray untimed (.string kind :: Metric.untimed values) →
            ofLine untimed = .event (.metric { metric with time := none })) ∧
        ((fieldNamesOf kind).length < values.length → ofLine line = .malformed) ∧
        ∀ members extended, HoldsObject extended members →
          members.filter (fun member => member.1 ∈ "kind" :: fieldNamesOf kind) =
            membersOf kind values → ofLine extended = ofLine other := by
  refine ⟨fun front back hfront hback => ⟨holdsArray_write fits hfront hback,
    holdsArray_write (fits_untimed fits) hfront hback,
    holdsObject_write (fits_membersOf fits) hfront hback⟩, ?_⟩
  intro line other array object
  have listed (event : Event) : ofLine line = .event event ↔ event.ListedBy kind values :=
    (ofLine_eq_event_iff array).trans ofJson?_array_eq_some_iff
  have malformed : ofLine line = .malformed ↔ ∀ event, ofLine line ≠ .event event := by
    simp only [ofLine_eq_malformed_iff array, ne_eq, ofLine_eq_event_iff array,
      Option.eq_none_iff_forall_ne_some]
  have alike (event : Event) : ofLine line = .event event ↔
      requiredOf kind ≤ values.length ∧ values.length ≤ (fieldNamesOf kind).length ∧
        ofLine other = .event event := by
    constructor
    · intro read
      obtain ⟨enough, few⟩ := ((listed event).1 read).length_bounds
      refine ⟨enough, few, ?_⟩
      rw [ofLine_eq_event_iff object, ofJson?_membersOf few]
      exact (ofLine_eq_event_iff array).1 read
    · rintro ⟨-, few, read⟩
      rw [ofLine_eq_event_iff array, ← ofJson?_membersOf few]
      exact (ofLine_eq_event_iff object).1 read
  refine ⟨alike, malformed, ?_, ?_, ?_, ?_⟩
  · intro i name null field notTime
    have refused : ofLine other = .malformed :=
      (ofLine_eq_malformed_iff object).2 (ofJson?_membersOf_of_null null field notTime)
    refine ⟨malformed.2 fun event read => ?_, refused⟩
    rw [((alike event).1 read).2.2] at refused
    cases refused
  · intro metric untimed read holds
    obtain ⟨rfl, items⟩ := (listed (.metric metric)).1 read
    rw [ofLine_eq_event_iff holds, ofJson?_array_eq_some_iff]
    exact ⟨rfl, items.without_time⟩
  · intro many
    refine malformed.2 fun event read => ?_
    exact absurd ((alike event).1 read).2.1 (Nat.not_le.2 many)
  · intro members extended holds known
    rw [ofLine_of_holdsObject holds, ofLine_of_holdsObject object, ofJson?_of_filter known]

/-- A metric without attributes. -/
def shortItems : List Json :=
  [.string "ups", .string "load", .string "10", .string "%", .ofNat 60, .null]

theorem fits_shortItems :
    Fits (.checked maxDepth) (.array (.string "metric" :: shortItems)) := by
  refine ⟨.checked 126, rfl, fitsItems_iff_forall.2 ?_⟩
  simp only [shortItems, List.forall_mem_cons, List.not_mem_nil, false_imp_iff, forall_const,
    fits_null, fits_string, true_and, and_true]
  exact fits_ofNat _ (by decide)

/-- The array is read as the metric that the object with its values describes. -/
theorem ofLine_shortItems :
    ofLine (write (.array (.string "metric" :: shortItems)) ++ ['\n']) =
      .event (.metric ⟨⟨"ups"⟩, "load", "10", "%", 60, none, .empty⟩) := by
  have blank : Text.AllBlank ['\n'] := by simp [Text.AllBlank]; decide
  have layouts := ofLine_array "metric" shortItems fits_shortItems
  obtain ⟨array, -, object⟩ := layouts.1 [] ['\n'] (by simp [Text.AllBlank]) blank
  refine ((layouts.2 _ _ array object).1 _).2 ⟨by decide, by decide, ?_⟩
  rw [ofLine_eq_event_iff object, ofJson?_object_eq_some_iff]
  refine ⟨rfl, rfl, rfl, rfl, rfl, rfl, ⟨some .null, rfl, .inr rfl⟩, none, rfl, .inl ⟨rfl, rfl⟩⟩

end Event

end AssetWatch
