import AssetWatch.Log.Pattern.Depth
import AssetWatch.Text.Alphanumeric
import AssetWatch.Text.Hexadecimal
import AssetWatch.Text.Scan

/-!
# Patterns

The regular expressions that a directive of a log filter may ask the value of a field to
match. Only spans have values that are asked for, and there are none, so a pattern is never
matched: what counts is whether it is one. `fault?` tells what keeps a text from being a
pattern.

Two things are no part of the language: look-around and back references. Two more are only
available for ASCII, that is, after the flag `u` has been taken away: the classes `\d`, `\s`
and `\w`, and characters that match in either case. In turn, ASCII patterns hold no negated
classes and no dot, because these would match parts of characters. Nor may a pattern be deeper
than `greatestDepth`.
-/

namespace AssetWatch.Log.Pattern

open Text Text.Scan

/-- Why a text is no pattern. -/
inductive Fault
  /-- It is against the rules of the language. -/
  | malformed
  /-- It asks for a word boundary among all characters, not only the ones of ASCII. -/
  | wordBoundary
deriving DecidableEq, Repr

/-- What is said about a text that is no pattern. -/
def Fault.message : Fault → String
  | malformed => "error building NFA"
  | wordBoundary =>
    "unsupported regex feature for DFAs: cannot build DFAs for regexes with Unicode word "
      ++ "boundaries; switch to ASCII word boundaries, or heuristically enable Unicode word "
      ++ "boundaries or use a different regex engine"

/-! ## Modes -/

/-- The flags that bear on what is allowed. -/
structure Mode where
  /-- Whether letters match in either case. -/
  anyCase : Bool
  /-- Whether the pattern is about all characters, not only the ones of ASCII. -/
  unicode : Bool
  /-- Whether blanks and comments are skipped. -/
  spaced : Bool
deriving DecidableEq, Repr

namespace Mode

/-- The mode in which a pattern begins. -/
def initial : Mode := ⟨false, true, false⟩

/-- The flags. -/
def flags : List Char := ['i', 'm', 's', 'U', 'u', 'R', 'x']

/-- The mode with a flag set or taken away. -/
def change (mode : Mode) (value : Bool) (flag : Char) : Mode :=
  if flag = 'i' then { mode with anyCase := value }
  else if flag = 'u' then { mode with unicode := value }
  else if flag = 'x' then { mode with spaced := value }
  else mode

/-- The mode after a list of flags; those behind the minus sign are taken away. -/
def apply (mode : Mode) (list : List Char) : Mode :=
  (list.dropWhile (· ≠ '-')).foldl (change · false)
    ((list.takeWhile (· ≠ '-')).foldl (change · true) mode)

/-- A text without the blanks and comments that it begins with. -/
def dropSpacing : Nat → List Char → List Char
  | 0, text => text
  | fuel + 1, text =>
    match trimStart text with
    | '#' :: rest => dropSpacing fuel ((rest.dropWhile (· ≠ '\n')).drop 1)
    | rest => rest

/-- Skips what does not count. -/
def skip (mode : Mode) : Scan Unit := do
  if mode.spaced then modify fun text => dropSpacing text.length text

end Mode

/-! ## Single characters and their classes -/

/-- What an escape or a plain character stands for. -/
inductive Piece
  /-- A character; `byte` if it is written as a number of two digits. -/
  | char (c : Char) (byte : Bool)
  /-- A class of digits, blanks or word characters. -/
  | named (negated : Bool)
  /-- The beginning or the end of the text. -/
  | anchor
  /-- A place where a word begins or ends, or where none does. -/
  | boundary
deriving DecidableEq, Repr

/-- The characters with a meaning of their own. -/
def metaCharacters : List Char :=
  "\\.+*?()|[]^$#&-~".toList ++ ['\x7b', '\x7d']

/-- Whether a backslash may stand in front of the character, which then means itself. -/
def isEscapable (c : Char) : Bool :=
  metaCharacters.contains c || (c.toNat < 0x80 && !c.isAlphanum && c ≠ '<' && c ≠ '>')

/-- Takes the given number of hexadecimal digits and adds them to a number. -/
def hexNumber (mode : Mode) : Nat → Nat → Scan Nat
  | 0, n => return n
  | count + 1, n => do
    mode.skip
    match hexValue? (← next) with
    | some digit => hexNumber mode count (16 * n + digit)
    | none => failure

/-- Takes the number of a character. -/
def numbered (mode : Mode) (count : Nat) : Scan Piece := do
  let n ← hexNumber mode count 0
  require (n < 0xd800 || (0xdfff < n && n < 0x110000))
  return .char (Char.ofNat n) (count = 2)

/-- Takes what follows a backslash. -/
def escape (mode : Mode) : Scan Piece := do
  let c ← next
  if c = 'x' then numbered mode 2
  else if c = 'u' then numbered mode 4
  else if c = 'U' then numbered mode 8
  else if ['d', 's', 'w'].contains c then return .named false
  else if ['D', 'S', 'W'].contains c then return .named true
  else if ['A', 'z'].contains c then return .anchor
  else if ['b', 'B', '<', '>'].contains c then return .boundary
  else
    require (isEscapable c || ['a', 'f', 't', 'n', 'r', 'v'].contains c)
    return .char c false

/-! ## Classes in brackets -/

/-- Takes a character or an escape in a class. -/
def member (mode : Mode) : Scan Piece := do
  if ← takes '\\' then escape mode else return .char (← next) false

/-- Whether the piece may stand in a class. -/
def Piece.fitsClass (mode : Mode) : Piece → Bool
  | char c _ => mode.unicode || c.toNat < 0x80
  | named negated => !mode.unicode && !negated
  | anchor | boundary => false

/-- Whether the two pieces are the ends of a range. -/
def Piece.rangeTo : Piece → Piece → Bool
  | char first _, char last _ => first ≤ last
  | _, _ => false

/-- Whether a range is under way: a dash stands next, and behind it neither the end of the
class nor another dash. -/
def rangeGoesOn (mode : Mode) : Scan Bool := do
  match ← get with
  | '-' :: rest =>
    let behind :=
      if mode.spaced then
        match trimStart rest with
        | '#' :: comment => trimStart comment
        | others => others
      else rest
    return behind.head? ≠ some ']' && behind.head? ≠ some '-'
  | _ => return false

/-- Takes a member of a class or a range of them. -/
def memberOrRange (mode : Mode) : Scan Unit := do
  let first ← member mode
  require (first.fitsClass mode)
  mode.skip
  if ← rangeGoesOn mode then
    literal '-'
    mode.skip
    let last ← member mode
    require (last.fitsClass mode && first.rangeTo last)

/-- The names of classes. -/
def classNames : List String :=
  ["alnum", "alpha", "ascii", "blank", "cntrl", "digit", "graph", "lower", "print", "punct",
    "space", "upper", "word", "xdigit"]

/-- Takes the name of a class between colons, in brackets of its own, and tells whether the
class is negated. -/
def classByName : Scan Bool := do
  word "[:".toList
  let negated ← takes '^'
  let name ← takeWhile (· ≠ ':')
  word ":]".toList
  require (classNames.contains (String.ofList name))
  return negated

/-- Takes dashes, and tells how many there are. -/
def dashes (mode : Mode) : Nat → Scan Nat
  | 0 => return 0
  | fuel + 1 => do
    if ← takes '-' then
      mode.skip
      return (← dashes mode fuel) + 1
    else return 0

/-- Takes the beginning of a class after its bracket: a sign of negation, and dashes or a
closing bracket that are members because they stand first. -/
def classOpening (mode : Mode) : Scan Operands := do
  mode.skip
  if ← takes '^' then
    require mode.unicode
    mode.skip
  let count ← dashes mode (← get).length
  if count ≠ 0 then return .ofCharacters count
  else if ← takes ']' then
    mode.skip
    return .ofCharacters 1
  else return .ofCharacters 0

/-- Takes the rest of a class and tells how deep it is; `outer` holds what has been read in
the open classes around it, the innermost first. Between two members there may be an
operator. -/
def classRest (mode : Mode) : Nat → Operands → List Operands → Scan Nat
  | 0, _, _ => failure
  | fuel + 1, operands, outer => do
    mode.skip
    match ← get with
    | ']' :: rest =>
      set rest
      match outer with
      | [] => return operands.depth + 1
      | around :: outer => classRest mode fuel (around.add (operands.depth + 1)) outer
    | '[' :: rest =>
      match ← attempt classByName with
      | some negated =>
        require (mode.unicode || !negated)
        classRest mode fuel (operands.add 0) outer
      | none =>
        set rest
        classRest mode fuel (← classOpening mode) (operands :: outer)
    | '&' :: '&' :: rest | '-' :: '-' :: rest | '~' :: '~' :: rest =>
      set rest
      classRest mode fuel operands.endOperand outer
    | _ =>
      memberOrRange mode
      classRest mode fuel (operands.add 0) outer

/-- Takes a class after its bracket and tells how deep it is. In a class of all characters no
letter can match in either case. -/
def bracketed (mode : Mode) : Scan Nat := do
  require (!(mode.unicode && mode.anyCase))
  let operands ← classOpening mode
  classRest mode ((← get).length + 1) operands []

/-! ## Groups -/

/-- Whether the character may stand in the name of a group, at its beginning or later. -/
def isNameChar (first : Bool) (c : Char) : Bool :=
  c = '_' || (if first then isAlphabetic c
    else isAlphanumeric c || c = '.' || c = '[' || c = ']')

/-- Takes the name of a group and the bracket behind it. -/
def groupName : Scan (List Char) := do
  let name ← takeWhile (· ≠ '>')
  literal '>'
  require (!name.isEmpty && (name.take 1).all (isNameChar true)
    && (name.drop 1).all (isNameChar false))
  return name

/-- Takes flags, each at most once. A flag has to follow the minus sign. -/
def flagList : Scan (List Char) := do
  let list ← takeWhile fun c => c ≠ ':' && c ≠ ')'
  require (list.all (fun c => c = '-' || Mode.flags.contains c) && list.Nodup
    && list.getLast? ≠ some '-')
  return list

/-- What an opening parenthesis begins. -/
inductive Opening
  | group
  | namedGroup (name : List Char)
  /-- A group in which other flags hold. -/
  | flagGroup (flags : List Char)
  /-- No group: from here on other flags hold. -/
  | flags (flags : List Char)

/-- Takes the beginning of a group after its parenthesis. -/
def opening (mode : Mode) : Scan Opening := do
  mode.skip
  if (← attempt (word "?P<".toList)).isSome then return .namedGroup (← groupName)
  else if (← attempt (word "?<".toList)).isSome then return .namedGroup (← groupName)
  else if ← takes '?' then
    let list ← flagList
    if ← takes ':' then return .flagGroup list
    else
      literal ')'
      require (!list.isEmpty)
      return .flags list
  else return .group

/-! ## Whole patterns -/

/-- What is known after a part of a pattern. -/
structure Progress where
  mode : Mode
  /-- The depths of what stands in the innermost open group. -/
  level : Level
  /-- The modes that come back at the ends of the open groups, and what stands before these
  groups, the innermost first. -/
  outer : List (Mode × Level)
  /-- Whether the part ends with something that can be repeated. -/
  repeatable : Bool
  /-- The names of the groups. -/
  names : List (List Char)
  /-- Whether there is a word boundary among all characters. -/
  boundary : Bool

namespace Progress

/-- Nothing is known yet. -/
def initial : Progress := ⟨.initial, .empty, [], false, [], false⟩

/-- After the beginning of a group. -/
def openGroup (progress : Progress) (list : List Char) : Progress :=
  { progress with
    mode := progress.mode.apply list
    level := .empty
    outer := (progress.mode, progress.level) :: progress.outer
    repeatable := false }

/-- After the end of a group, if one is open. -/
def closeGroup? (progress : Progress) : Option Progress :=
  match progress.outer with
  | [] => none
  | (mode, level) :: outer =>
    some { progress with
      mode := mode
      level := level.addGroup progress.level
      outer := outer
      repeatable := true }

/-- After flags that hold from here on. They cannot be repeated. -/
def addFlags (progress : Progress) (list : List Char) : Progress :=
  { progress with
    mode := progress.mode.apply list
    level := progress.level.add 0
    repeatable := false }

/-- After a part of the given depth that can be repeated. -/
def add (progress : Progress) (depth : Nat) : Progress :=
  { progress with level := progress.level.add depth, repeatable := true }

/-- After a piece, if it is allowed. -/
def addPiece? (progress : Progress) (piece : Piece) : Option Progress :=
  let mode := progress.mode
  let allowed := match piece with
    | .char c byte => if mode.unicode then !mode.anyCase else !byte || c.toNat < 0x80
    | .named negated => !mode.unicode && !negated
    | .anchor | .boundary => true
  if allowed then
    some { progress.add 0 with
      boundary := progress.boundary || (piece = .boundary && mode.unicode) }
  else none

/-- Takes the next part of a pattern. -/
def step (progress : Progress) : Scan Progress := do
  let mode := progress.mode
  match ← next with
  | '(' =>
    match ← opening mode with
    | .group => return progress.openGroup []
    | .flagGroup list => return progress.openGroup list
    | .flags list => return progress.addFlags list
    | .namedGroup name =>
      require (!progress.names.contains name)
      return { progress.openGroup [] with names := name :: progress.names }
  | ')' =>
    match progress.closeGroup? with
    | some progress => return progress
    | none => failure
  | '|' => return { progress with level := progress.level.endBranch, repeatable := false }
  | '[' => return progress.add (← bracketed mode)
  | '?' | '*' | '+' =>
    require progress.repeatable
    let _ ← takes '?'
    return { progress with level := progress.level.repeatLast }
  | '\x7b' => failure
  | '.' =>
    require mode.unicode
    return progress.add 0
  | '^' | '$' => return progress.add 0
  | c =>
    let piece ← if c = '\\' then escape mode else pure (.char c false)
    match progress.addPiece? piece with
    | some progress => return progress
    | none => failure

/-- Takes the parts of a pattern to its end. -/
def run : Nat → Progress → Scan Progress
  | 0, _ => failure
  | fuel + 1, progress => do
    progress.mode.skip
    if (← get).isEmpty then
      require (progress.outer.isEmpty && progress.level.depth ≤ greatestDepth)
      return progress
    else run fuel (← progress.step)

end Progress

/-- What keeps a text from being a pattern. -/
def fault? (text : List Char) : Option Fault :=
  match (Progress.run (text.length + 1) .initial).whole? text with
  | none => some .malformed
  | some progress => if progress.boundary then some .wordBoundary else none

end AssetWatch.Log.Pattern
