/-!
# Depth of patterns

A pattern is put together from parts, and parts that lie too deep inside one another are
refused. While a pattern is read, only the depths of its parts are kept: `Level` holds those
of one level of groups, `Operands` those of one level of classes in brackets.
-/

namespace AssetWatch.Log.Pattern

/-- The greatest depth of a pattern. -/
def greatestDepth : Nat := 250

/-- The depth of parts that stand side by side. A single part is not put together. -/
def joined : List Nat → Nat
  | [] => 0
  | [depth] => depth
  | depths => depths.foldl max 0 + 1

/-- The depths of the parts that have been read on one level of groups. -/
structure Level where
  /-- The parts since the last bar, the last one first. -/
  parts : List Nat
  /-- The branches that end at a bar, the last one first. -/
  branches : List Nat
deriving DecidableEq, Repr

namespace Level

/-- Nothing has been read. -/
def empty : Level := ⟨[], []⟩

/-- After one more part. -/
def add (level : Level) (depth : Nat) : Level :=
  { level with parts := depth :: level.parts }

/-- After a sign that repeats the last part. -/
def repeatLast (level : Level) : Level :=
  match level.parts with
  | [] => level
  | depth :: parts => { level with parts := (depth + 1) :: parts }

/-- After a bar. -/
def endBranch (level : Level) : Level := ⟨[], joined level.parts :: level.branches⟩

/-- The depth of all that has been read. -/
def depth (level : Level) : Nat := joined level.endBranch.branches

/-- A group is one deeper than what is in it. -/
def addGroup (outer inner : Level) : Level := outer.add (inner.depth + 1)

end Level

/-- The depths of the members of a class between its brackets. -/
structure Operands where
  /-- All that stands before the last operator, if there is one. -/
  before : Option Nat
  /-- The members that follow. -/
  members : List Nat
deriving DecidableEq, Repr

namespace Operands

/-- After the given number of characters and nothing else. -/
def ofCharacters (count : Nat) : Operands := ⟨none, List.replicate count 0⟩

/-- After one more member. -/
def add (operands : Operands) (depth : Nat) : Operands :=
  { operands with members := depth :: operands.members }

/-- The depth of all that has been read. An operator joins what stands before it, other
operators included, with the members behind it. -/
def depth (operands : Operands) : Nat :=
  match operands.before with
  | none => joined operands.members
  | some before => max before (joined operands.members) + 1

/-- After an operator. -/
def endOperand (operands : Operands) : Operands := ⟨some operands.depth, []⟩

end Operands

end AssetWatch.Log.Pattern
