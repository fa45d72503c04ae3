/-!
# UTF-8

Reads a list of bytes as characters. Bytes that are no UTF-8 are refused with the place of
the first fault: the number of bytes before it, and the length of the faulty sequence, or
nothing when the text ends within a sequence that could still have been completed. Where
faults do not matter, `decodeLossy` puts the replacement character for each.
-/

namespace AssetWatch.Text.Utf8

/-- Why bytes are no UTF-8. -/
structure Fault where
  /-- The number of bytes before the faulty sequence. -/
  position : Nat
  /-- The length of the faulty sequence; `none` if the text ends inside a sequence. -/
  length : Option Nat
deriving DecidableEq, Repr

/-- A sequence of which at least one byte is still to come. -/
structure Partial where
  /-- Where the sequence begins. -/
  start : Nat
  /-- The number of bytes seen. -/
  seen : Nat
  /-- The number of bytes to come. -/
  missing : Nat
  /-- The bits collected. -/
  bits : Nat
  /-- The least value allowed for the next byte. -/
  low : Nat
  /-- The greatest value allowed for the next byte. -/
  high : Nat

/-- The sequence that a leading byte opens. The bounds on the second byte keep out overlong
forms, surrogates and values past the last code point. -/
def open? (position : Nat) (byte : UInt8) : Option Partial :=
  let n := byte.toNat
  if 0xc2 ≤ n && n ≤ 0xdf then some ⟨position, 1, 1, n - 0xc0, 0x80, 0xbf⟩
  else if n = 0xe0 then some ⟨position, 1, 2, 0, 0xa0, 0xbf⟩
  else if n = 0xed then some ⟨position, 1, 2, 0xd, 0x80, 0x9f⟩
  else if 0xe1 ≤ n && n ≤ 0xef then some ⟨position, 1, 2, n - 0xe0, 0x80, 0xbf⟩
  else if n = 0xf0 then some ⟨position, 1, 3, 0, 0x90, 0xbf⟩
  else if 0xf1 ≤ n && n ≤ 0xf3 then some ⟨position, 1, 3, n - 0xf0, 0x80, 0xbf⟩
  else if n = 0xf4 then some ⟨position, 1, 3, 4, 0x80, 0x8f⟩
  else none

/-- Reads the bytes from `position` on, inside `sequence` if one is open. -/
def decodeFrom (position : Nat) (sequence : Option Partial) :
    List UInt8 → Except Fault (List Char)
  | [] =>
    match sequence with
    | none => .ok []
    | some p => .error ⟨p.start, none⟩
  | byte :: rest =>
    match sequence with
    | none =>
      if byte.toNat < 0x80 then
        (decodeFrom (position + 1) none rest).map (Char.ofNat byte.toNat :: ·)
      else
        match open? position byte with
        | some p => decodeFrom (position + 1) (some p) rest
        | none => .error ⟨position, some 1⟩
    | some p =>
      if p.low ≤ byte.toNat && byte.toNat ≤ p.high then
        let bits := p.bits * 64 + (byte.toNat - 0x80)
        if p.missing ≤ 1 then
          (decodeFrom (position + 1) none rest).map (Char.ofNat bits :: ·)
        else
          let next := { p with seen := p.seen + 1, missing := p.missing - 1,
                               bits := bits, low := 0x80, high := 0xbf }
          decodeFrom (position + 1) (some next) rest
      else .error ⟨p.start, some p.seen⟩

/-- The characters that the bytes stand for, or the first fault. -/
def decode (bytes : List UInt8) : Except Fault (List Char) := decodeFrom 0 none bytes

/-- The text that the bytes stand for, if they are UTF-8. -/
def text? (bytes : List UInt8) : Option String :=
  (decode bytes).toOption.map String.ofList

/-- The characters that the bytes stand for; each faulty sequence stands for U+FFFD. -/
def decodeLossy (bytes : List UInt8) : List Char :=
  match h : decode bytes with
  | .ok text => text
  | .error fault =>
    have : 0 < bytes.length := by
      cases bytes with
      | nil => simp [decode, decodeFrom] at h
      | cons byte rest => simp
    let before := (decode (bytes.take fault.position)).toOption.getD []
    let after :=
      match fault.length with
      | some length => decodeLossy (bytes.drop (fault.position + max 1 length))
      | none => []
    before ++ '\ufffd' :: after
termination_by bytes.length
decreasing_by
  simp only [List.length_drop]
  omega

/-- The bytes of a text. -/
def encode (text : List Char) : List UInt8 := text.flatMap String.utf8EncodeChar

end AssetWatch.Text.Utf8
