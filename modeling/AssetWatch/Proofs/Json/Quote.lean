import AssetWatch.Json.Quote

/-!
# String literals read back

A written literal gives its text back when it is read, with either care, and holds no control
character, so it never breaks a line.
-/

namespace AssetWatch.Json.Quote

open Text

/-- What becomes of a text that is read when one more character precedes it. -/
def prepend (c : Char) : List Char × List Char → List Char × List Char
  | (text, rest) => (c :: text, rest)

theorem hexValue?_of_lt {n : Nat} (h : n < 16) : hexValue? (Nat.digitChar n) = some n :=
  hexValue?_digitChar ⟨n, h⟩

theorem readFrom_step {checked : Bool} {place next : Place} {c : Char} {completed : List Char}
    (inside : ¬(place = .plain ∧ c = '\x22')) (h : step checked place c = some (completed, next))
    (rest : List Char) :
    readFrom checked place (c :: rest) =
      (readFrom checked next rest).map fun (text, rest) => (completed ++ text, rest) := by
  rw [readFrom, if_neg inside, h]
  cases found : readFrom checked next rest <;> simp [found]

/-- An escape by name gives the character that it names. -/
theorem readFrom_named (checked : Bool) {letter c : Char} (numbered : letter ≠ 'u')
    (h : named? letter = some c) (rest : List Char) :
    readFrom checked .plain ('\\' :: letter :: rest) =
      (readFrom checked .plain rest).map (prepend c) := by
  have second : step checked .escape letter = some ([c], .plain) := by
    simp [step, numbered, h]
  rw [readFrom_step (by decide) rfl, readFrom_step (by simp) second, Option.map_map]
  rfl

/-- An escape by number gives the control character with this number. -/
theorem readFrom_control (checked : Bool) {c : Char} (control : c.toNat < 0x20)
    (rest : List Char) :
    readFrom checked .plain ('\\' :: 'u' :: '0' :: '0' :: Nat.digitChar (c.toNat / 16)
        :: Nat.digitChar (c.toNat % 16) :: rest) =
      (readFrom checked .plain rest).map (prepend c) := by
  have high : hexValue? (Nat.digitChar (c.toNat / 16)) = some (c.toNat / 16) :=
    hexValue?_of_lt (by omega)
  have low : hexValue? (Nat.digitChar (c.toNat % 16)) = some (c.toNat % 16) :=
    hexValue?_of_lt (by omega)
  have zero : ∀ missing, 1 < missing → step checked (.number missing 0 none) '0' =
      some ([], .number (missing - 1) 0 none) := by
    intro missing more
    have digit : hexValue? '0' = some 0 := by decide
    simp [step, digit, Nat.not_le.2 more]
  have third : step checked (.number 2 0 none) (Nat.digitChar (c.toNat / 16)) =
      some ([], .number 1 (c.toNat / 16) none) := by
    simp [step, high]
  have fourth : step checked (.number 1 (c.toNat / 16) none) (Nat.digitChar (c.toNat % 16)) =
      some ([c], .plain) := by
    have whole : c.toNat / 16 * 16 + c.toNat % 16 = c.toNat := by omega
    have basic : ¬(0xd800 ≤ c.toNat ∧ c.toNat ≤ 0xdfff) := by omega
    simp [step, low, whole, closeNumber, basic]
  rw [readFrom_step (by decide) rfl, readFrom_step (by simp) rfl,
    readFrom_step (by simp) (zero 4 (by decide)), readFrom_step (by simp) (zero 3 (by decide)),
    readFrom_step (by simp) third, readFrom_step (by simp) fourth]
  simp only [Option.map_map]
  rfl

/-- Reading takes back one written character. -/
theorem readFrom_writeChar (checked : Bool) (c : Char) (rest : List Char) :
    readFrom checked .plain (writeChar c ++ rest) =
      (readFrom checked .plain rest).map (prepend c) := by
  unfold writeChar
  split
  next h => exact readFrom_named checked (by decide) (by subst h; rfl) rest
  split
  next h => exact readFrom_named checked (by decide) (by subst h; rfl) rest
  split
  next h => exact readFrom_named checked (by decide) (by subst h; rfl) rest
  split
  next h => exact readFrom_named checked (by decide) (by subst h; rfl) rest
  split
  next h => exact readFrom_named checked (by decide) (by subst h; rfl) rest
  split
  next h => exact readFrom_named checked (by decide) (by subst h; rfl) rest
  split
  next h => exact readFrom_named checked (by decide) (by subst h; rfl) rest
  split
  next control => exact readFrom_control checked control rest
  next quote backslash _ _ _ _ _ printable =>
    have plain : step checked .plain c = some ([c], .plain) := by
      simp [step, backslash, printable]
    rw [List.singleton_append, readFrom_step (by simp [quote]) plain]
    rfl

/-- Reading takes back a written text and stops behind the closing quote. -/
theorem read_writeChars (checked : Bool) (text rest : List Char) :
    read checked (writeChars text ++ '\x22' :: rest) = some (text, rest) := by
  induction text with
  | nil => rfl
  | cons c text ih =>
    unfold read at ih ⊢
    rw [writeChars, List.flatMap_cons, List.append_assoc, readFrom_writeChar]
    exact congrArg (Option.map (prepend c)) ih

/-- A written character brings no control character with it. -/
theorem printable_of_mem_writeChar {c d : Char} (h : d ∈ writeChar c) : 0x20 ≤ d.toNat := by
  have digit : ∀ n : Fin 16, 0x20 ≤ (Nat.digitChar n).toNat := by decide
  unfold writeChar at h
  repeat' split at h
  all_goals simp only [List.mem_cons, List.not_mem_nil, or_false] at h
  all_goals try (rcases h with rfl | rfl <;> decide)
  · rcases h with rfl | rfl | rfl | rfl | rfl | rfl
    · decide
    · decide
    · decide
    · decide
    · exact digit ⟨c.toNat / 16, by omega⟩
    · exact digit ⟨c.toNat % 16, by omega⟩
  · subst h
    omega

theorem printable_of_mem_write {text : List Char} {d : Char} (h : d ∈ write text) :
    0x20 ≤ d.toNat := by
  rcases List.mem_cons.1 h with rfl | h
  · decide
  · rcases List.mem_append.1 h with h | h
    · obtain ⟨c, -, h⟩ := List.mem_flatMap.1 h
      exact printable_of_mem_writeChar h
    · rw [List.mem_singleton.1 h]
      decide

end AssetWatch.Json.Quote
