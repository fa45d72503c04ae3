import AssetWatch.Text.Utf8

/-!
# Control sequences

A terminal takes some characters as commands: control characters, and sequences that begin
with an escape. `strip` leaves them out of a text that is not written to a terminal. A
sequence that is not finished takes in what follows it.

Blanks that are control characters are kept inside a sequence, too. The text behind them is
shown up to the next control character, though the sequence is still open then and goes on
behind that character.
-/

namespace AssetWatch.Text.ControlSequence

/-- Where a terminal is while it reads. -/
inductive State
  /-- In plain text. -/
  | ground
  /-- Behind an escape. -/
  | escape
  /-- Behind an escape and signs that are not its last one. -/
  | escapeSigns
  /-- In a control sequence. -/
  | control
  /-- At the beginning of a command to the device. -/
  | device
  /-- In the parameters of a command to the device. -/
  | deviceParameters
  /-- Behind the parameters of a command to the device. -/
  | deviceSigns
  /-- In a text that only its terminator ends. -/
  | string
  /-- In a command to the operating system, which a bell ends. -/
  | system
deriving DecidableEq, Repr

/-- Whether the character is a blank and a control character. -/
def isBlankControl (c : Char) : Bool := c = '\t' || c = '\n' || c = '\x0c' || c = '\r'

namespace State

/-- Whether the number of a character lies between two bounds. -/
def within (low high : Nat) (c : Char) : Bool := low ≤ c.toNat && c.toNat ≤ high

/-- Whether a character that is read in the state is shown. -/
def shows (c : Char) : State → Bool
  | ground => isBlankControl c || (0x20 ≤ c.toNat && c.toNat ≠ 0x7f)
  | escape | escapeSigns | control => isBlankControl c
  | device | deviceParameters | deviceSigns | string | system => false

/-- The state after a character that neither begins nor cancels a sequence. -/
def proceed (c : Char) : State → State
  | ground => ground
  | escape =>
    if within 0x20 0x2f c then escapeSigns
    else if c = '[' then control
    else if c = ']' then system
    else if c = 'P' then device
    else if c = 'X' || c = '^' || c = '_' then string
    else if within 0x30 0x7e c then ground
    else escape
  | escapeSigns => if within 0x30 0x7e c then ground else escapeSigns
  | control => if within 0x40 0x7e c then ground else control
  | device =>
    if within 0x20 0x2f c then deviceSigns
    else if within 0x30 0x3f c then deviceParameters
    else if within 0x40 0x7e c then string
    else device
  | deviceParameters =>
    if within 0x20 0x2f c then deviceSigns
    else if within 0x3c 0x7e c then string
    else deviceParameters
  | deviceSigns => if within 0x30 0x7e c then string else deviceSigns
  | string => if (Utf8.encode [c]).contains 0x9c then ground else string
  | system => if c = '\x07' then ground else system

/-- The state after a character. -/
def next (state : State) (c : Char) : State :=
  if c = '\x1b' then escape
  else if c = '\x18' || c = '\x1a' then ground
  else state.proceed c

end State

/-- What is shown of a text that is read from a state on; `shown` tells whether the character
before it was shown. -/
def stripFrom (state : State) (shown : Bool) : List Char → List Char
  | [] => []
  | c :: rest =>
    if shown && State.ground.shows c then
      c :: stripFrom (if c.toNat < 0x80 then state else .ground) true rest
    else if state.shows c then c :: stripFrom (state.next c) true rest
    else stripFrom (state.next c) false rest

/-- A text without control characters and sequences. -/
def strip (text : List Char) : List Char := stripFrom .ground false text

end AssetWatch.Text.ControlSequence
