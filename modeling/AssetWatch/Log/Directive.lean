import AssetWatch.Log.Entry
import AssetWatch.Log.Pattern
import AssetWatch.Text.Blank
import AssetWatch.Text.Bytes

/-!
# Directives of a log filter

A directive names a target, a span, a field and a level, of which all but one may be missing:
`target[span{field}]=level`. A text that is a level by itself is the directive for all targets
with that level; without a level everything is let through.

A directive may be padded with blanks. Where its parts lie is found in the text without them,
but the parts are then cut out of the padded text at the same places, so that blanks in front
shift the parts.
-/

namespace AssetWatch.Log

open Text

/-- Why a text is no directive. -/
inductive DirectiveError
  | malformed
  | badLevel
  /-- The value of a field is neither a number nor a pattern. -/
  | badField (fault : Pattern.Fault)
deriving DecidableEq, Repr

/-- What is said about a text that is no directive. -/
def DirectiveError.message : DirectiveError → String
  | malformed => "invalid filter directive"
  | badLevel =>
    "error parsing level filter: expected one of \"off\", \"error\", \"warn\", \"info\", "
      ++ "\"debug\", \"trace\", or a number 0-5"
  | badField fault => "invalid field filter: " ++ fault.message

/-- A field that a directive asks for. -/
structure Field where
  name : String
  /-- Whether a value is asked for as well. -/
  valued : Bool
deriving DecidableEq, Repr

namespace Field

/-- Whether digits follow, perhaps after a sign, and nothing else. -/
def isExponent (text : List Char) : Bool :=
  let digits := match text with
    | '+' :: rest | '-' :: rest => rest
    | _ => text
  !digits.isEmpty && digits.all Char.isDigit

/-- Whether the text is a decimal fraction, which may have an exponent. -/
def isFraction (text : List Char) : Bool :=
  let (whole, rest) := Decimal.span text
  let (fraction, rest) := match rest with
    | '.' :: rest => Decimal.span rest
    | _ => ([], rest)
  !(whole.isEmpty && fraction.isEmpty) && match rest with
    | [] => true
    | c :: exponent => (c = 'e' || c = 'E') && isExponent exponent

/-- Whether the text is a number, infinity or no number at all, with or without a sign. -/
def isNumber (text : List Char) : Bool :=
  let unsigned := match text with
    | '+' :: rest | '-' :: rest => rest
    | _ => text
  ["inf", "infinity", "nan"].contains (String.ofList (unsigned.map Char.toLower))
    || isFraction unsigned

/-- Reads a field: a name, and after an equals sign a value. What follows a second equals
sign does not count. -/
def ofText (text : List Char) : Except DirectiveError Field :=
  match text.splitOn '=' with
  | name :: value :: _ =>
    match Pattern.fault? value with
    | some fault =>
      if isNumber value then .ok ⟨String.ofList name, true⟩ else .error (.badField fault)
    | none => .ok ⟨String.ofList name, true⟩
  | _ => .ok ⟨String.ofList text, false⟩

end Field

/-- A directive. -/
structure Directive where
  /-- The beginning of the targets that are meant. -/
  target : String
  /-- The name of the span that is meant. -/
  span : Option String
  field : Option Field
  /-- The greatest rank of a level that is let through. -/
  rank : Nat
deriving DecidableEq, Repr

namespace Directive

/-- The rank that lets everything through. -/
def everything : Nat := Level.trace.rank

/-- The rank up to which a level lets entries through: its name in either case, or the rank
itself. -/
def rank? (level : List Char) : Option Nat :=
  match Decimal.natural? level with
  | some n => if n ≤ everything then some n else none
  | none =>
    let names := ["off", "error", "warn", "info", "debug", "trace"]
    names.idxOf? (String.ofList (level.map Char.toLower))

/-- The part of a text from one place up to another. -/
def cut (text : List Char) (start stop : Nat) : Except DirectiveError (List Char) :=
  match slice? text start stop with
  | some part => .ok part
  | none => .error .malformed

/-- Reads the level that begins at the given place. -/
def levelFrom (text : List Char) (start : Nat) : Except DirectiveError Nat := do
  let level ← cut text start (byteLength text)
  if level.isEmpty then return everything
  else
    match rank? level with
    | some rank => return rank
    | none => throw .badLevel

/-- Whether a target may begin with the character. -/
def beginsTarget (c : Char) : Bool := c = '-' || c = ':' || c = '_' || isAlphanumeric c

/-- Reads what follows the brackets: nothing, or a level. The rest begins at the place
`start`. -/
def levelAfter (text rest : List Char) (start : Nat) : Except DirectiveError Nat :=
  match rest with
  | [] => .ok everything
  | '=' :: _ => levelFrom text (start + 1)
  | _ => .error .malformed

/-- Reads what follows the opening bracket. The rest begins at the place `start`. -/
def bracketed (text : List Char) (target : String) (rest : List Char) (start : Nat) :
    Except DirectiveError Directive := do
  let inside (c : Char) : Bool := c ≠ ']' && c ≠ '\x7b'
  let stop := start + byteLength (rest.takeWhile inside)
  let span := String.ofList (← cut text start stop)
  match rest.dropWhile inside with
  | ']' :: rest => return ⟨target, some span, none, ← levelAfter text rest (stop + 1)⟩
  | '\x7b' :: rest =>
    let start := stop + 1
    let stop := start + byteLength (rest.takeWhile (· ≠ '\x7d'))
    match rest.dropWhile (· ≠ '\x7d') with
    | _ :: rest =>
      if stop = start then throw .malformed
      let field ← Field.ofText (← cut text start stop)
      match rest with
      | ']' :: rest =>
        let level ← levelAfter text rest (stop + 2)
        return ⟨target, if span.isEmpty then none else some span, some field, level⟩
      | _ => throw .malformed
    | [] => throw .malformed
  | _ => throw .malformed

/-- Reads a directive. -/
def ofText (directive : String) : Except DirectiveError Directive := do
  let text := directive.toList
  let inTarget (c : Char) : Bool := c ≠ '=' && c ≠ '['
  let head := (trim text).takeWhile inTarget
  let start := byteLength head + 1
  if !(head.take 1).all beginsTarget then throw .malformed
  match (trim text).dropWhile inTarget with
  | [] =>
    if head.isEmpty then throw .malformed
    match rank? text with
    | some rank => return ⟨"", none, none, rank⟩
    | none => return ⟨directive, none, none, everything⟩
  | '=' :: _ =>
    if head.isEmpty then throw .malformed
    let target ← cut text 0 (byteLength head)
    return ⟨String.ofList target, none, none, ← levelFrom text start⟩
  | _ :: rest =>
    let target ← cut text 0 (byteLength head)
    bracketed text (String.ofList target) rest start

/-- Whether a directive is about spans alone. Only spans have names and values. -/
def onlySpans (directive : Directive) : Bool :=
  directive.span.isSome || directive.field.any (·.valued)

/-- Whether a directive is about an entry. -/
def appliesTo (directive : Directive) (entry : Entry) : Bool :=
  !directive.onlySpans && directive.target.toList.isPrefixOf entry.target.toList
    && directive.field.all fun field => entry.fieldNames.contains field.name

/-- Whether the first of two directives that are about the same entry is more specific: its
target is longer, or else it asks for a field, or else for one with a greater name. -/
def isMoreSpecific (a b : Directive) : Bool :=
  if a.target = b.target then
    match a.field, b.field with
    | some first, some second => second.name < first.name
    | some _, none => true
    | none, _ => false
  else b.target.utf8ByteSize < a.target.utf8ByteSize

end Directive

end AssetWatch.Log
