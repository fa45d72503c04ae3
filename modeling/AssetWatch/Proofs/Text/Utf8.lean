import AssetWatch.Text.Utf8

/-!
# UTF-8 read back

Every text is found again in its bytes (`decode_encode`), and a newline stands in the bytes
only where it stands in the text.
-/

namespace AssetWatch.Text.Utf8

/-! ## Bytes of a sequence -/

/-- The byte with the given value. -/
theorem toNat_byte {n : Nat} (h : n < 256) : (UInt8.ofNat n).toNat = n := by
  rw [UInt8.toNat_ofNat', Nat.mod_eq_of_lt h]

section Continuation

variable (position : Nat) {byte : UInt8} (rest : List UInt8)

theorem decodeFrom_ascii (h : byte.toNat < 0x80) :
    decodeFrom position none (byte :: rest) =
      (decodeFrom (position + 1) none rest).map (Char.ofNat byte.toNat :: ·) := by
  simp only [decodeFrom, if_pos h]

theorem decodeFrom_open {p : Partial} (h : open? position byte = some p)
    (lead : 0x80 ≤ byte.toNat) :
    decodeFrom position none (byte :: rest) = decodeFrom (position + 1) (some p) rest := by
  simp only [decodeFrom, if_neg (Nat.not_lt.2 lead), h]

variable {start seen missing bits low high more : Nat} (hbyte : byte.toNat = more + 0x80)
  (h : low ≤ more + 0x80 ∧ more + 0x80 ≤ high)

include hbyte h

/-- A byte inside a sequence adds six bits. -/
theorem decodeFrom_more (hmissing : 1 < missing) :
    decodeFrom position (some ⟨start, seen, missing, bits, low, high⟩) (byte :: rest) =
      decodeFrom (position + 1)
        (some ⟨start, seen + 1, missing - 1, bits * 64 + more, 0x80, 0xbf⟩) rest := by
  rw [decodeFrom]
  simp [hbyte, h, Nat.not_le.2 hmissing]

/-- The last byte of a sequence completes its character. -/
theorem decodeFrom_last (hmissing : missing ≤ 1) :
    decodeFrom position (some ⟨start, seen, missing, bits, low, high⟩) (byte :: rest) =
      (decodeFrom (position + 1) none rest).map (Char.ofNat (bits * 64 + more) :: ·) := by
  rw [decodeFrom]
  simp [hbyte, h, hmissing]

end Continuation

/-! ## Leading bytes -/

section Lead

variable (position : Nat) {byte : UInt8} {v : Nat}

theorem open?_two (hbyte : byte.toNat = v / 64 + 0xc0) (h : 0x80 ≤ v ∧ v < 0x800) :
    open? position byte = some ⟨position, 1, 1, v / 64, 0x80, 0xbf⟩ := by
  have lead : 0xc2 ≤ v / 64 + 0xc0 ∧ v / 64 + 0xc0 ≤ 0xdf := by omega
  simp [open?, hbyte, lead]

/-- The leading byte of a sequence of three allows the second one. -/
theorem open?_three (hbyte : byte.toNat = v / 4096 + 0xe0) (h : 0x800 ≤ v ∧ v < 0x10000)
    (scalar : v < 0xd800 ∨ 0xdfff < v) :
    ∃ low high, open? position byte = some ⟨position, 1, 2, v / 4096, low, high⟩ ∧
      low ≤ v / 64 % 64 + 0x80 ∧ v / 64 % 64 + 0x80 ≤ high := by
  by_cases first : v / 4096 = 0
  · refine ⟨0xa0, 0xbf, ?_, by omega, by omega⟩
    simp [open?, hbyte, first]
  by_cases surrogates : v / 4096 = 0xd
  · refine ⟨0x80, 0x9f, ?_, by omega, by omega⟩
    simp [open?, hbyte, surrogates]
  · refine ⟨0x80, 0xbf, ?_, by omega, by omega⟩
    have lead : 0xe1 ≤ v / 4096 + 0xe0 ∧ v / 4096 + 0xe0 ≤ 0xef := by omega
    have two : ¬v / 4096 + 0xe0 ≤ 0xdf := by omega
    have other : ¬v / 4096 + 0xe0 = 0xe0 ∧ ¬v / 4096 + 0xe0 = 0xed := by omega
    simp only [open?, hbyte, two, other, lead]
    simp

/-- The leading byte of a sequence of four allows the second one. -/
theorem open?_four (hbyte : byte.toNat = v / 262144 + 0xf0)
    (h : 0x10000 ≤ v ∧ v < 0x110000) :
    ∃ low high, open? position byte = some ⟨position, 1, 3, v / 262144, low, high⟩ ∧
      low ≤ v / 4096 % 64 + 0x80 ∧ v / 4096 % 64 + 0x80 ≤ high := by
  by_cases first : v / 262144 = 0
  · refine ⟨0x90, 0xbf, ?_, by omega, by omega⟩
    simp [open?, hbyte, first]
  by_cases last : v / 262144 = 4
  · refine ⟨0x80, 0x8f, ?_, by omega, by omega⟩
    simp [open?, hbyte, last]
  · refine ⟨0x80, 0xbf, ?_, by omega, by omega⟩
    have lead : 0xf1 ≤ v / 262144 + 0xf0 ∧ v / 262144 + 0xf0 ≤ 0xf3 := by omega
    have fewer : ¬v / 262144 + 0xf0 ≤ 0xdf ∧ ¬v / 262144 + 0xf0 ≤ 0xef := by omega
    have other : ¬v / 262144 + 0xf0 = 0xe0 ∧ ¬v / 262144 + 0xf0 = 0xed ∧
        ¬v / 262144 + 0xf0 = 0xf0 := by omega
    simp only [open?, hbyte, fewer, other, lead]
    simp

end Lead

/-! ## Characters -/

/-- Decoding takes back the bytes of a character. -/
theorem decodeFrom_utf8EncodeChar (position : Nat) (c : Char) (rest : List UInt8) :
    decodeFrom position none (String.utf8EncodeChar c ++ rest) =
      (decodeFrom (position + (String.utf8EncodeChar c).length) none rest).map (c :: ·) := by
  have scalar : c.toNat < 0xd800 ∨ 0xdfff < c.toNat ∧ c.toNat < 0x110000 := c.valid
  have self := Char.ofNat_toNat c
  unfold String.utf8EncodeChar
  change c.toNat < 0xd800 ∨ _ at scalar
  simp only [show c.val.toNat = c.toNat from rfl]
  generalize c.toNat = v at scalar self ⊢
  split
  next =>
    have byte := toNat_byte (show v < 256 by omega)
    rw [List.singleton_append, decodeFrom_ascii position rest (by omega), byte, self]
    rfl
  split
  next =>
    have lead := toNat_byte (show v / 64 % 32 + 0xc0 < 256 by omega)
    have last := toNat_byte (show v % 64 + 0x80 < 256 by omega)
    have opened := open?_two position (v := v) (lead.trans (by omega)) (by omega)
    have whole : v / 64 * 64 + v % 64 = v := by omega
    rw [List.cons_append, List.singleton_append, decodeFrom_open _ _ opened (by omega),
      decodeFrom_last _ _ last ⟨by omega, by omega⟩ (by decide), whole, self]
    rfl
  split
  next =>
    have lead := toNat_byte (show v / 4096 % 16 + 0xe0 < 256 by omega)
    have second := toNat_byte (show v / 64 % 64 + 0x80 < 256 by omega)
    have last := toNat_byte (show v % 64 + 0x80 < 256 by omega)
    obtain ⟨low, high, opened, bounds⟩ := open?_three position (v := v)
      (lead.trans (by omega)) (by omega) (by omega)
    have whole : (v / 4096 * 64 + v / 64 % 64) * 64 + v % 64 = v := by omega
    simp only [List.cons_append, List.nil_append]
    rw [decodeFrom_open _ _ opened (by omega), decodeFrom_more _ _ second bounds (by decide),
      decodeFrom_last _ _ last ⟨by omega, by omega⟩ (by decide), whole, self]
    rfl
  next =>
    have lead := toNat_byte (show v / 262144 % 8 + 0xf0 < 256 by omega)
    have second := toNat_byte (show v / 4096 % 64 + 0x80 < 256 by omega)
    have third := toNat_byte (show v / 64 % 64 + 0x80 < 256 by omega)
    have last := toNat_byte (show v % 64 + 0x80 < 256 by omega)
    obtain ⟨low, high, opened, bounds⟩ := open?_four position (v := v)
      (lead.trans (by omega)) (by omega)
    have whole : ((v / 262144 * 64 + v / 4096 % 64) * 64 + v / 64 % 64) * 64 + v % 64 = v := by
      omega
    simp only [List.cons_append, List.nil_append]
    rw [decodeFrom_open _ _ opened (by omega), decodeFrom_more _ _ second bounds (by decide),
      decodeFrom_more _ _ third ⟨by omega, by omega⟩ (by decide),
      decodeFrom_last _ _ last ⟨by omega, by omega⟩ (by decide), whole, self]
    rfl

/-- Decoding takes back every text. -/
theorem decode_encode (text : List Char) : decode (encode text) = .ok text := by
  suffices ∀ position, decodeFrom position none (encode text) = .ok text from this 0
  induction text with
  | nil => exact fun _ => rfl
  | cons c text ih =>
    intro position
    rw [encode, List.flatMap_cons, decodeFrom_utf8EncodeChar]
    exact congrArg (Except.map (c :: ·)) (ih _)

theorem encode_append (text more : List Char) :
    encode (text ++ more) = encode text ++ encode more := List.flatMap_append

theorem encode_newline : encode ['\n'] = [10] := rfl

/-- Only a character below U+0080 has bytes below 0x80. -/
theorem toNat_eq_of_mem_utf8EncodeChar {c : Char} {byte : UInt8}
    (h : byte ∈ String.utf8EncodeChar c) (ascii : byte.toNat < 0x80) : c.toNat = byte.toNat := by
  unfold String.utf8EncodeChar at h
  simp only [show c.val.toNat = c.toNat from rfl] at h
  repeat' split at h
  all_goals simp only [List.mem_cons, List.not_mem_nil, or_false] at h
  · rw [h, toNat_byte (by omega)]
  -- every byte of a longer sequence is at least 0x80
  · rcases h with rfl | rfl <;> rw [toNat_byte (by omega)] at ascii <;> omega
  · rcases h with rfl | rfl | rfl <;> rw [toNat_byte (by omega)] at ascii <;> omega
  · rcases h with rfl | rfl | rfl | rfl <;> rw [toNat_byte (by omega)] at ascii <;> omega

/-- The byte of the newline belongs to no other character. -/
theorem newline_notMem_encode {text : List Char} (h : '\n' ∉ text) : 10 ∉ encode text := by
  intro member
  obtain ⟨c, hc, byte⟩ := List.mem_flatMap.1 member
  have same : c.toNat = '\n'.toNat := toNat_eq_of_mem_utf8EncodeChar byte (by decide)
  exact h (Char.toNat_inj.1 same ▸ hc)

end AssetWatch.Text.Utf8
