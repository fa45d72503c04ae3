import AssetWatch.Json.Parser
import AssetWatch.Json.Printer
import AssetWatch.Proofs.Json.Number
import AssetWatch.Proofs.Json.Quote

/-!
# JSON values read back

A written value gives itself back when it is read with a care that it fits (`readValue_write`).
What is written holds no control character, so it stays on one line.
-/

namespace AssetWatch.Json

open Text

/-! ## What a reader accepts -/

mutual

/-- Whether a reader with the given care accepts the value: what it checks has numbers in
range and is not nested more deeply than it allows. -/
def Fits : Care → Json → Prop
  | care, .number literal => care.isChecked = true → literal.inRange = true
  | care, .array items => ∃ inner, care.inner? = some inner ∧ FitsItems inner items
  | care, .object members =>
    ∃ inner, care.inner? = some inner ∧ FitsMembers (fun _ => inner) members
  | _, _ => True

/-- Whether a reader accepts all the items. -/
def FitsItems : Care → List Json → Prop
  | _, [] => True
  | care, item :: items => Fits care item ∧ FitsItems care items

/-- Whether a reader accepts all the members, each with the care for its key. -/
def FitsMembers : (String → Care) → List (String × Json) → Prop
  | _, [] => True
  | values, (key, value) :: members => Fits (values key) value ∧ FitsMembers values members

end

theorem fits_string (care : Care) (text : String) : Fits care (.string text) := by
  rw [Fits]
  all_goals simp

theorem fits_null (care : Care) : Fits care .null := by
  rw [Fits]
  all_goals simp

theorem fits_ofNat (care : Care) {n : Nat} (h : n < UInt64.size) : Fits care (ofNat n) := by
  rw [ofNat, Fits]
  exact fun _ => Number.inRange_ofNat h

theorem fitsMembers_of_forall {values : String → Care} {members : List (String × Json)}
    (h : ∀ member ∈ members, Fits (values member.1) member.2) : FitsMembers values members := by
  induction members with
  | nil => exact trivial
  | cons member members ih =>
    obtain ⟨first, others⟩ := List.forall_mem_cons.1 h
    exact ⟨first, ih others⟩

theorem fitsMembers_cons {values : String → Care} {member : String × Json}
    {members : List (String × Json)} :
    FitsMembers values (member :: members) ↔
      Fits (values member.1) member.2 ∧ FitsMembers values members := by
  cases member
  rw [FitsMembers]

theorem fitsItems_iff_forall {care : Care} {items : List Json} :
    FitsItems care items ↔ ∀ item ∈ items, Fits care item := by
  induction items with
  | nil => simp [FitsItems]
  | cons item items ih => rw [FitsItems, ih, List.forall_mem_cons]

theorem writeMember_eq (member : String × Json) :
    writeMember member = Quote.write member.1.toList ++ ':' :: write member.2 := by
  cases member
  rw [writeMember]

theorem sizeOf_value_lt (member : String × Json) : sizeOf member.2 < sizeOf member := by
  cases member
  simp only [Prod.mk.sizeOf_spec]
  omega

/-! ## How written values begin -/

theorem skipSpace_of_not {c : Char} (h : isSpace c = false) (rest : List Char) :
    skipSpace (c :: rest) = c :: rest :=
  (stopsBefore_cons.2 h).dropWhile_eq_self

/-- A written value begins neither with a blank nor with a closing bracket. -/
theorem exists_write_eq_cons (value : Json) :
    ∃ c rest, write value = c :: rest ∧ isSpace c = false ∧ c ≠ ']' := by
  cases value with
  | null => exact ⟨_, _, rfl, by decide, by decide⟩
  | bool value => cases value <;> exact ⟨_, _, rfl, by decide, by decide⟩
  | number literal =>
    obtain ⟨c, rest, same, lead⟩ := literal.exists_text_eq_cons
    refine ⟨c, rest, (by rw [write, same]), ?_⟩
    rcases lead with rfl | digit
    · decide
    · constructor
      · refine Bool.eq_false_iff.2 fun space => ?_
        simp only [isSpace, Bool.or_eq_true, decide_eq_true_eq] at space
        rcases space with ((rfl | rfl) | rfl) | rfl <;> cases digit
      · rintro rfl
        cases digit
  | string text => exact ⟨_, _, rfl, by decide, by decide⟩
  | array items => cases items <;> exact ⟨_, _, rfl, by decide, by decide⟩
  | object members => cases members <;> exact ⟨_, _, rfl, by decide, by decide⟩

theorem skipSpace_write (value : Json) (rest : List Char) :
    skipSpace (write value ++ rest) = write value ++ rest := by
  obtain ⟨c, others, same, space, -⟩ := exists_write_eq_cons value
  rw [same]
  exact skipSpace_of_not space _

theorem stopsBefore_writeItems (items : List Json) (rest : List Char) :
    StopsBefore Number.isPart (writeItems items ++ rest) := by
  cases items <;> rw [writeItems] <;> exact stopsBefore_cons.2 (by decide)

theorem stopsBefore_writeMembers (members : List (String × Json)) (rest : List Char) :
    StopsBefore Number.isPart (writeMembers members ++ rest) := by
  cases members <;> rw [writeMembers] <;> exact stopsBefore_cons.2 (by decide)

theorem length_writeItems_pos (items : List Json) : 0 < (writeItems items).length := by
  cases items <;> rw [writeItems] <;> exact Nat.succ_pos _

theorem length_writeMembers_pos (members : List (String × Json)) :
    0 < (writeMembers members).length := by
  cases members <;> rw [writeMembers] <;> exact Nat.succ_pos _

/-! ## How written arrays and objects end -/

theorem exists_writeItems_eq (items : List Json) :
    ∃ inside, writeItems items = inside ++ [']'] := by
  induction items with
  | nil => exact ⟨[], by rw [writeItems]; rfl⟩
  | cons item items ih =>
    obtain ⟨inside, same⟩ := ih
    refine ⟨',' :: write item ++ inside, ?_⟩
    rw [writeItems, same, List.append_assoc]

/-- A written array stands in brackets. -/
theorem exists_write_array_eq (items : List Json) :
    ∃ inside, write (.array items) = '[' :: (inside ++ [']']) := by
  cases items with
  | nil => exact ⟨[], rfl⟩
  | cons item items =>
    obtain ⟨inside, same⟩ := exists_writeItems_eq items
    refine ⟨write item ++ inside, ?_⟩
    rw [write, same, List.cons_append, List.append_assoc]

theorem exists_writeMembers_eq (members : List (String × Json)) :
    ∃ inside, writeMembers members = inside ++ ['\x7d'] := by
  induction members with
  | nil => exact ⟨[], by rw [writeMembers]; rfl⟩
  | cons member members ih =>
    obtain ⟨inside, same⟩ := ih
    refine ⟨',' :: writeMember member ++ inside, ?_⟩
    rw [writeMembers, same, List.append_assoc]

/-- A written object stands in braces. -/
theorem exists_write_object_eq (members : List (String × Json)) :
    ∃ inside, write (.object members) = '\x7b' :: (inside ++ ['\x7d']) := by
  cases members with
  | nil => exact ⟨[], rfl⟩
  | cons member members =>
    obtain ⟨inside, same⟩ := exists_writeMembers_eq members
    refine ⟨writeMember member ++ inside, ?_⟩
    rw [write, same, List.cons_append, List.append_assoc]

/-! ## Values read back -/

/-- Reading takes back a written literal. -/
theorem readValue_number {care : Care} {literal : Number} (fits : Fits care (.number literal))
    (fuel : Nat) {rest : List Char} (after : StopsBefore Number.isPart rest) :
    readValue (fuel + 1) care (literal.text ++ rest) = some (.number literal, rest) := by
  obtain ⟨c, others, same, lead⟩ := literal.exists_text_eq_cons
  have read := Number.read_text literal after
  have skip := skipSpace_write (.number literal) rest
  rw [write, same] at skip
  have range : (literal.inRange || !care.isChecked) = true := by
    rw [Fits] at fits
    cases checked : care.isChecked with
    | true => rw [fits checked]; rfl
    | false => simp
  rw [same] at read ⊢
  rw [readValue, skip]
  split
  case h_7 =>
    simp only [readNumber, read, Option.bind_eq_bind, Option.bind_some, range, if_true]
    rfl
  -- no other value begins with a sign or a digit
  all_goals
    next found =>
      cases found
      rcases lead with minus | digit
      · cases minus
      · cases digit

theorem readKey_write (checked : Bool) (key : String) (rest : List Char) :
    readKey checked (Quote.write key.toList ++ ':' :: rest) = some (key, rest) := by
  have opened : Quote.write key.toList ++ ':' :: rest =
      '\x22' :: (Quote.writeChars key.toList ++ '\x22' :: ':' :: rest) := by
    simp [Quote.write]
  rw [opened, readKey, skipSpace_of_not (by decide)]
  simp only [Quote.read_writeChars, Option.bind_eq_bind, Option.bind_some,
    skipSpace_of_not (c := ':') (by decide), String.ofList_toList]
  rfl

/-- An object that does not close at once is read by its members. -/
theorem readObject_of_members (fuel : Nat) (keys : Care) (values : String → Care)
    (member : String × Json) (rest : List Char) :
    readObject (fuel + 1) keys values (writeMember member ++ rest) =
      readMembers fuel keys values (writeMember member ++ rest) := by
  have skip : skipSpace (writeMember member ++ rest) = writeMember member ++ rest :=
    writeMember_eq member ▸ skipSpace_of_not (by decide) _
  rw [readObject, skip]
  split
  next closed =>
    rw [writeMember_eq] at closed
    cases closed
  next => rfl

mutual

/-- Reading takes back a written value that the care fits. -/
theorem readValue_write {care : Care} {value : Json} (fits : Fits care value) (fuel : Nat)
    (enough : 2 * (write value).length ≤ fuel) {rest : List Char}
    (after : StopsBefore Number.isPart rest) :
    readValue fuel care (write value ++ rest) = some (value, rest) := by
  obtain ⟨fuel, rfl⟩ : ∃ less, fuel = less + 1 := by
    obtain ⟨c, others, same, -⟩ := exists_write_eq_cons value
    rw [same, List.length_cons] at enough
    exact ⟨fuel - 1, by omega⟩
  cases value with
  | null => simp [write, readValue, skipSpace_of_not (c := 'n') (by decide), readWord]
  | bool value =>
    cases value with
    | true => simp [write, readValue, skipSpace_of_not (c := 't') (by decide), readWord]
    | false => simp [write, readValue, skipSpace_of_not (c := 'f') (by decide), readWord]
  | number literal =>
    rw [write]
    exact readValue_number fits fuel after
  | string text =>
    have opened : write (.string text) ++ rest =
        '\x22' :: (Quote.writeChars text.toList ++ '\x22' :: rest) := by
      simp [write, Quote.write]
    simp [opened, readValue, skipSpace_of_not (c := '\x22') (by decide), Quote.read_writeChars]
  | array items =>
    rw [Fits] at fits
    obtain ⟨inner, opens, fits⟩ := fits
    cases items with
    | nil =>
      simp [write, readValue, opens, skipSpace_of_not (c := '[') (by decide),
        skipSpace_of_not (c := ']') (by decide)]
    | cons item items =>
      rw [write, List.length_append, List.length_cons] at enough
      have read := readItems_write fits fuel (by omega) rest
      obtain ⟨c, others, same, -, notClosing⟩ := exists_write_eq_cons item
      have skip := skipSpace_write item (writeItems items ++ rest)
      rw [write, List.append_assoc, List.cons_append, readValue,
        skipSpace_of_not (by decide)]
      simp only [opens, Option.bind_eq_bind, Option.bind_some, skip]
      rw [same] at read ⊢
      split
      next closed =>
        cases closed
        exact absurd rfl notClosing
      next =>
        rw [read]
        rfl
  | object members =>
    rw [Fits] at fits
    obtain ⟨inner, opens, fits⟩ := fits
    cases members with
    | nil =>
      simp only [write, List.length_cons, List.length_nil] at enough
      obtain ⟨fuel, rfl⟩ : ∃ less, fuel = less + 1 := ⟨fuel - 1, by omega⟩
      simp [write, readValue, readObject, opens, skipSpace_of_not (c := '\x7b') (by decide),
        skipSpace_of_not (c := '\x7d') (by decide)]
    | cons member members =>
      rw [write, List.length_append, List.length_cons] at enough
      obtain ⟨fuel, rfl⟩ : ∃ less, fuel = less + 1 := ⟨fuel - 1, by omega⟩
      have read := readMembers_write inner fits fuel (by omega) rest
      rw [write, List.append_assoc, List.cons_append, readValue,
        skipSpace_of_not (by decide)]
      simp only [opens, Option.bind_eq_bind, Option.bind_some]
      rw [readObject_of_members, read]
      rfl
termination_by sizeOf value

/-- Reading takes back the written items of an array. -/
theorem readItems_write {care : Care} {item : Json} {items : List Json}
    (fits : FitsItems care (item :: items)) (fuel : Nat)
    (enough : 2 * ((write item).length + (writeItems items).length) ≤ fuel) (rest : List Char) :
    readItems fuel care (write item ++ (writeItems items ++ rest)) =
      some (item :: items, rest) := by
  have closing := length_writeItems_pos items
  obtain ⟨fuel, rfl⟩ : ∃ less, fuel = less + 1 := ⟨fuel - 1, by omega⟩
  rw [FitsItems] at fits
  have first := readValue_write fits.1 fuel (by omega)
    (stopsBefore_writeItems items rest)
  rw [readItems, first]
  cases items with
  | nil => simp [writeItems, skipSpace_of_not (c := ']') (by decide)]
  | cons next items =>
    rw [writeItems, List.length_append, List.length_cons] at enough
    have others := readItems_write fits.2 fuel (by omega) rest
    simp only [writeItems, Option.bind_eq_bind, Option.bind_some, List.cons_append,
      List.append_assoc, skipSpace_of_not (c := ',') (by decide), others]
    rfl
termination_by sizeOf (item :: items)

/-- Reading takes back the written members of an object. -/
theorem readMembers_write (keys : Care) {values : String → Care} {member : String × Json}
    {members : List (String × Json)} (fits : FitsMembers values (member :: members))
    (fuel : Nat)
    (enough : 2 * ((writeMember member).length + (writeMembers members).length) ≤ fuel)
    (rest : List Char) :
    readMembers fuel keys values (writeMember member ++ (writeMembers members ++ rest)) =
      some (member :: members, rest) := by
  have closing := length_writeMembers_pos members
  have inside := sizeOf_value_lt member
  obtain ⟨fuel, rfl⟩ : ∃ less, fuel = less + 1 := ⟨fuel - 1, by omega⟩
  rw [writeMember_eq, List.length_append, List.length_cons] at enough
  rw [fitsMembers_cons] at fits
  have first := readValue_write fits.1 fuel (by omega)
    (stopsBefore_writeMembers members rest)
  rw [writeMember_eq, List.append_assoc, List.cons_append, readMembers, readKey_write]
  simp only [Option.bind_eq_bind, Option.bind_some, first]
  cases members with
  | nil => simp [writeMembers, skipSpace_of_not (c := '\x7d') (by decide)]
  | cons next members =>
    rw [writeMembers, List.length_append, List.length_cons] at enough
    have others := readMembers_write keys fits.2 fuel (by omega) rest
    simp only [writeMembers, List.cons_append, List.append_assoc,
      skipSpace_of_not (c := ',') (by decide), others, Option.bind_some]
    rfl
termination_by sizeOf (member :: members)

end

/-! ## Whole texts -/

/-- Every text that is written is read. -/
theorem parse_write {value : Json} (fits : Fits (.checked maxDepth) value) :
    parse (write value) = some value := by
  have read := readValue_write fits (enoughFuel (write value)) (Nat.le_add_right _ _)
    (stopsBefore_nil _)
  rw [List.append_nil] at read
  rw [parse, read]
  rfl

/-- Every record that is written is read, if what is checked of it fits. Blanks behind it do not
matter. -/
theorem parseRecord_write_append {known : List String} {members : List (String × Json)}
    (fits : FitsMembers
      (fun key => if key ∈ known then .checked (maxDepth - 1) else .skimmed) members)
    {blanks : List Char} (h : ∀ c ∈ blanks, isSpace c = true) :
    parseRecord known (write (.object members) ++ blanks) = some (.object members) := by
  have skip : skipSpace blanks = [] := by
    rw [skipSpace, ← List.append_nil blanks, dropWhile_append_eq h (stopsBefore_nil _)]
  cases members with
  | nil =>
    have opened : skipSpace (write (.object []) ++ blanks) = '\x7b' :: '\x7d' :: blanks :=
      skipSpace_of_not (by decide) _
    simp only [parseRecord, opened, enoughFuel, readObject, skipSpace_of_not (c := '\x7d') rfl]
    simp [complete?, skip]
  | cons member members =>
    have enough : 2 * ((writeMember member).length + (writeMembers members).length) ≤
        2 * (write (.object (member :: members)) ++ blanks).length + 2 := by
      rw [write, List.length_append, List.length_append, List.length_cons]
      omega
    have read := readMembers_write (.checked (maxDepth - 1)) fits _ enough blanks
    have opened : skipSpace (write (.object (member :: members)) ++ blanks) =
        '\x7b' :: (writeMember member ++ (writeMembers members ++ blanks)) := by
      rw [write, List.append_assoc, List.cons_append]
      exact skipSpace_of_not (by decide) _
    rw [← readObject_of_members] at read
    simp only [parseRecord, opened, enoughFuel, read]
    simp [complete?, skip]

/-! ## One line -/

/-- What a check of every character says of each of them. -/
theorem printable_of_all {text : List Char}
    (h : (text.all fun c => 0x20 ≤ c.toNat) = true) {c : Char} (member : c ∈ text) :
    0x20 ≤ c.toNat :=
  of_decide_eq_true (List.all_eq_true.1 h c member)

mutual

/-- A written value holds no control character. -/
theorem printable_of_mem_write {value : Json} {c : Char} (h : c ∈ write value) :
    0x20 ≤ c.toNat := by
  cases value with
  | null => exact printable_of_all (by decide) h
  | bool value => cases value <;> exact printable_of_all (by decide) h
  | number literal =>
    rw [write] at h
    exact Number.printable_of_mem_text h
  | string text =>
    rw [write] at h
    exact Quote.printable_of_mem_write h
  | array items =>
    cases items with
    | nil => exact printable_of_all (by decide) h
    | cons item items =>
      rw [write] at h
      rcases List.mem_append.1 h with h | h
      · rcases List.mem_cons.1 h with rfl | h
        · decide
        · exact printable_of_mem_write h
      · exact printable_of_mem_writeItems h
  | object members =>
    cases members with
    | nil => exact printable_of_all (by decide) h
    | cons member members =>
      rw [write] at h
      rcases List.mem_append.1 h with h | h
      · rcases List.mem_cons.1 h with rfl | h
        · decide
        · exact printable_of_mem_writeMember h
      · exact printable_of_mem_writeMembers h
termination_by sizeOf value

theorem printable_of_mem_writeItems {items : List Json} {c : Char} (h : c ∈ writeItems items) :
    0x20 ≤ c.toNat := by
  cases items with
  | nil =>
    rw [writeItems] at h
    rw [List.mem_singleton.1 h]
    decide
  | cons item items =>
    rw [writeItems] at h
    rcases List.mem_append.1 h with h | h
    · rcases List.mem_cons.1 h with rfl | h
      · decide
      · exact printable_of_mem_write h
    · exact printable_of_mem_writeItems h
termination_by sizeOf items

theorem printable_of_mem_writeMember {member : String × Json} {c : Char}
    (h : c ∈ writeMember member) : 0x20 ≤ c.toNat := by
  have inside := sizeOf_value_lt member
  rw [writeMember_eq] at h
  rcases List.mem_append.1 h with h | h
  · exact Quote.printable_of_mem_write h
  · rcases List.mem_cons.1 h with rfl | h
    · decide
    · exact printable_of_mem_write h
termination_by sizeOf member

theorem printable_of_mem_writeMembers {members : List (String × Json)} {c : Char}
    (h : c ∈ writeMembers members) : 0x20 ≤ c.toNat := by
  cases members with
  | nil =>
    rw [writeMembers] at h
    rw [List.mem_singleton.1 h]
    decide
  | cons member members =>
    rw [writeMembers] at h
    rcases List.mem_append.1 h with h | h
    · rcases List.mem_cons.1 h with rfl | h
      · decide
      · exact printable_of_mem_writeMember h
    · exact printable_of_mem_writeMembers h
termination_by sizeOf members

end

end AssetWatch.Json
