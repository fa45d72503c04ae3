import AssetWatch.Proofs.Event.Object

/-!
# Events read back

Whatever event is written, it is read again, with any blanks around its text, as long as its
operation does not hide a known name (`decoding_undoes_encoding`). No event that is read hides
one, so a line that has been read once can be written and read any number of times.
-/

namespace AssetWatch

open Json

/-! ## Operations -/

namespace Operation

/-- The names of the operations that are known. -/
def knownNames : List String := ["create", "update", "delete", "retire", "inventory"]

/-- The operation does not pass a known one off as another. -/
def IsPlain : Operation → Prop
  | other name => name ∉ knownNames
  | _ => True

theorem isPlain_ofText (name : String) : (ofText name).IsPlain := by
  unfold ofText
  repeat' split
  all_goals simp_all [IsPlain, knownNames]

theorem ofText_text_eq_self_iff {operation : Operation} :
    ofText operation.text = operation ↔ operation.IsPlain := by
  constructor
  · intro same
    exact same ▸ isPlain_ofText _
  · intro plain
    cases operation with
    | other name =>
      simp only [IsPlain, knownNames, List.mem_cons, List.not_mem_nil, or_false, not_or] at plain
      simp [text, ofText, plain]
    | _ => rfl

end Operation

namespace Event

/-- The event does not pass a known operation off as another. -/
def HasPlainOperation : Event → Prop
  | metric _ => True
  | asset notice => notice.operation.IsPlain

/-- The event with the operation that its operation is taken for. -/
def normalized : Event → Event
  | metric m => metric m
  | asset notice => asset { notice with operation := .ofText notice.operation.text }

theorem normalized_eq_self_iff {event : Event} :
    event.normalized = event ↔ event.HasPlainOperation := by
  cases event with
  | metric m => simp [normalized, HasPlainOperation]
  | asset notice =>
    rw [HasPlainOperation, ← Operation.ofText_text_eq_self_iff, normalized]
    cases notice
    simp

/-! ## Values -/

theorem isAttributes_ofAttributes (attributes : Attributes) :
    IsAttributes (some (ofAttributes attributes)) attributes := by
  refine .inr ⟨attributes.entries, rfl, fun name => ?_⟩
  rw [← SortedMap.get?_ofList, SortedMap.ofList_entries]

theorem isTime_getD (time : Option Seconds) :
    IsTime (some ((time.map fun time => Json.ofNat time.toNat).getD .null)) time := by
  cases time with
  | none => exact .inr rfl
  | some time => rfl

/-- The members of an event describe it. -/
theorem describedBy_toJson (event : Event) :
    ∃ members, event.toJson = .object members ∧ event.normalized.DescribedBy members := by
  cases event with
  | metric m =>
    refine ⟨_, rfl, rfl, rfl, rfl, rfl, rfl, rfl, ?_, ?_⟩
    · exact ⟨some _, rfl, isTime_getD m.time⟩
    · exact ⟨some _, rfl, isAttributes_ofAttributes m.aux⟩
  | asset notice =>
    refine ⟨_, rfl, rfl, rfl, ⟨_, rfl, rfl⟩, ?_, ?_⟩
    · exact ⟨some _, rfl, isAttributes_ofAttributes notice.aux⟩
    · exact ⟨some _, rfl, isAttributes_ofAttributes notice.ext⟩

theorem fits_toJson (event : Event) : Fits (.checked maxDepth) event.toJson := by
  cases event with
  | metric m =>
    refine ⟨.checked 126, rfl, fitsMembers_of_forall ?_⟩
    have time : Fits (.checked 126)
        ((m.time.map fun time => Json.ofNat time.toNat).getD .null) := by
      cases m.time with
      | none => exact fits_null _
      | some time => exact fits_ofNat _ time.toNat_lt
    simp only [Metric.members, List.forall_mem_cons, List.not_mem_nil, false_imp_iff,
      forall_const, fits_string, true_and, and_true]
    exact ⟨fits_ofNat _ m.ttl.toNat_lt, time, fits_ofStrings _ _⟩
  | asset notice =>
    refine ⟨.checked 126, rfl, fitsMembers_of_forall ?_⟩
    simp only [AssetNotice.members, List.forall_mem_cons, List.not_mem_nil, false_imp_iff,
      forall_const, fits_string, true_and, and_true]
    exact ⟨fits_ofStrings _ _, fits_ofStrings _ _⟩

/-! ## Lines -/

/-- A written event is read with the operation that its operation is taken for. -/
theorem ofLine_padded_encode (event : Event) {front back : List Char}
    (hfront : Text.AllBlank front) (hback : Text.AllBlank back) :
    ofLine (front ++ event.encode ++ back) = .event event.normalized := by
  obtain ⟨members, written, described⟩ := describedBy_toJson event
  have fits := fits_toJson event
  rw [written] at fits
  have holds := holdsObject_write fits hfront hback
  rw [encode, written, ofLine_of_holdsObject holds, ofJson?_object_eq_some_iff.2 described]
  rfl

theorem hasPlainOperation_of_ofJson? {value : Json} {event : Event}
    (h : ofJson? value = some event) : event.HasPlainOperation := by
  cases event with
  | metric m => trivial
  | asset notice =>
    rw [ofJson?, Option.bind_eq_bind, Option.bind_eq_some_iff] at h
    obtain ⟨⟨kind, record⟩, -, h⟩ := h
    dsimp only at h
    split at h
    next => simp at h
    split at h
    next =>
      obtain ⟨found, read, same⟩ := Option.map_eq_some_iff.1 h
      cases same
      obtain ⟨operation, _, _, -, named, -⟩ := AssetNotice.ofJson?_eq_some_iff.1 read
      rw [HasPlainOperation, named]
      exact Operation.isPlain_ofText operation
    next => cases h

theorem hasPlainOperation_of_ofLine {line : List Char} {event : Event}
    (h : ofLine line = .event event) : event.HasPlainOperation := by
  unfold ofLine at h
  split at h
  next => cases h
  split at h
  next found =>
    cases h
    obtain ⟨value, -, read⟩ := Option.bind_eq_some_iff.1 found
    exact hasPlainOperation_of_ofJson? read
  next => cases h

/-- An event is read again from its text, whatever blanks stand around it, just when it does not
pass a known operation off as another. All events that are read are of this sort, so writing
and reading them gives them again. -/
theorem decoding_undoes_encoding (event : Event) :
    (event.HasPlainOperation ↔ ∀ front back, Text.AllBlank front → Text.AllBlank back →
      ofLine (front ++ event.encode ++ back) = .event event) ∧
    ∀ line, ofLine line = .event event →
      event.HasPlainOperation ∧ ofLine event.encode = .event event := by
  have again : event.HasPlainOperation → ∀ front back, Text.AllBlank front →
      Text.AllBlank back → ofLine (front ++ event.encode ++ back) = .event event := by
    intro plain front back hfront hback
    rw [ofLine_padded_encode event hfront hback, normalized_eq_self_iff.2 plain]
  have noBlank : Text.AllBlank [] := by
    intro c member
    cases member
  refine ⟨⟨again, fun h => ?_⟩, fun line read => ?_⟩
  · exact hasPlainOperation_of_ofLine (h [] [] noBlank noBlank)
  · have plain := hasPlainOperation_of_ofLine read
    have whole := again plain [] [] noBlank noBlank
    rw [List.nil_append, List.append_nil] at whole
    exact ⟨plain, whole⟩

end Event

end AssetWatch
