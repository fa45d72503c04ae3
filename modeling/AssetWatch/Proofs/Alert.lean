import AssetWatch.Alert
import AssetWatch.Proofs.Calendar.Timestamp
import AssetWatch.Proofs.Json.Value

/-!
# Alerts read back

Every alert is one line: its text holds no newline and is read as that alert, whatever
characters the name of the asset has (`Alert.ofText?_write`). Nothing of an alert is lost on
the way through its line, whatever text it came from (`Alert.line_keeps_alert`).
-/

namespace AssetWatch

theorem Json.seconds?_ofNat (instant : Seconds) :
    Json.seconds? (Json.ofNat instant.toNat) = some instant := by
  have below : instant.toNat < UInt64.size := instant.toNat_lt
  simp [seconds?, natural?, ofNat, Number.ofNat, Number.natural?, below]

namespace Transition

/-- The value of a transition stands for that transition. -/
theorem ofJson?_toJson (transition : Transition) :
    ofJson? transition.toJson = some transition := by
  cases transition with
  | raised asset expiredAt =>
    simp [ofJson?, toJson, Json.tagged?, Json.valuesOf, raisedOfJson?, Json.fields?, Json.single?,
      Json.required?, Json.text?, Json.seconds?_ofNat]
  | resolved asset =>
    simp [ofJson?, toJson, Json.tagged?, Json.valuesOf, resolvedOfJson?, Json.fields?,
      Json.single?, Json.required?, Json.text?]

theorem fits_toJson (transition : Transition) (depth : Nat) :
    Json.Fits (.checked (depth + 1)) transition.toJson := by
  cases transition with
  | raised asset expiredAt =>
    refine ⟨.checked depth, rfl, ?_⟩
    exact ⟨Json.fits_string _ _, Json.fits_string _ _,
      Json.fits_ofNat _ expiredAt.toNat_lt, trivial⟩
  | resolved asset =>
    refine ⟨.checked depth, rfl, ?_⟩
    exact ⟨Json.fits_string _ _, Json.fits_string _ _, trivial⟩

end Transition

namespace Alert

/-- The value of an alert stands for that alert. -/
theorem ofJson?_toJson (alert : Alert) : ofJson? alert.toJson = some alert := by
  obtain ⟨version, timestamp, payload⟩ := alert
  have below : version.toNat < UInt32.size := version.toNat_lt
  simp [ofJson?, toJson, fieldNames, Json.fields?, Json.valuesOf, Json.single?, Json.required?,
    Json.text?, Json.natural?, Json.ofNat, Number.ofNat, Number.natural?, below,
    Calendar.Timestamp.ofText?_text, Transition.ofJson?_toJson]

/-- The text of an alert is read as that alert, also with blanks behind it. -/
theorem ofText?_write_append (alert : Alert) {blanks : List Char}
    (h : ∀ c ∈ blanks, Json.isSpace c = true) :
    ofText? (alert.toJson.write ++ blanks) = some alert := by
  have fits : Json.FitsMembers
      (fun key => if key ∈ fieldNames then .checked (Json.maxDepth - 1) else .skimmed)
      [("api_version", .ofNat alert.version.toNat),
        ("timestamp", .string (String.ofList alert.timestamp.text)),
        ("payload", alert.payload.toJson)] := by
    refine ⟨Json.fits_ofNat _ ?_, Json.fits_string _ _, ?_, trivial⟩
    · exact Nat.lt_of_lt_of_le alert.version.toNat_lt (by decide)
    · exact alert.payload.fits_toJson 125
  rw [ofText?, toJson, Json.parseRecord_write_append fits h]
  exact ofJson?_toJson alert

theorem ofText?_write (alert : Alert) : ofText? alert.toJson.write = some alert := by
  rw [← List.append_nil alert.toJson.write]
  refine ofText?_write_append alert fun c member => ?_
  cases member

theorem line_eq (alert : Alert) : alert.line = alert.toJson.write ++ ['\n'] := rfl

/-- The newline at the end of a line is a blank. -/
theorem ofText?_line (alert : Alert) : ofText? alert.line = some alert := by
  refine ofText?_write_append alert fun c member => ?_
  rw [List.mem_singleton.1 member]
  rfl

/-- The text of an alert is a single line. -/
theorem newline_notMem_write (alert : Alert) : '\n' ∉ alert.toJson.write := fun h =>
  absurd (Json.printable_of_mem_write h) (by decide)

theorem count_newline_line (alert : Alert) : alert.line.count '\n' = 1 := by
  rw [line_eq, List.count_append, List.count_eq_zero_of_not_mem alert.newline_notMem_write]
  simp

/-- What is read back from the line of an alert that has been read is this alert. -/
theorem ofText?_map_line (text : List Char) :
    ((ofText? text).map line).bind ofText? = ofText? text := by
  cases ofText? text with
  | none => rw [Option.map_none, Option.bind_none]
  | some alert => rw [Option.map_some, Option.bind_some, ofText?_line]

/-- The line of an alert has one newline, which ends it, and no other control character, and it
is read as that alert. So whatever text an alert has been read from, the line of this alert is
read as the same alert and leads to the same line again. -/
theorem line_keeps_alert :
    (∀ alert : Alert,
      (∃ text, alert.line = text ++ ['\n'] ∧ ∀ c ∈ text, 0x20 ≤ c.toNat) ∧
      alert.line.count '\n' = 1 ∧ ofText? alert.line = some alert) ∧
    ∀ text : List Char,
      ((ofText? text).map line).bind ofText? = ofText? text ∧
      (((ofText? text).map line).bind ofText?).map line = (ofText? text).map line := by
  refine ⟨fun alert => ⟨?framed, alert.count_newline_line, alert.ofText?_line⟩, fun text => ?again⟩
  case framed =>
    exact ⟨alert.toJson.write, alert.line_eq, fun c member => Json.printable_of_mem_write member⟩
  case again => simp only [ofText?_map_line, and_self]

end Alert

end AssetWatch
