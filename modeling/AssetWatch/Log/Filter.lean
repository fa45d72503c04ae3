import AssetWatch.Log.Directive

/-!
# Log filters

A filter is a list of directives separated by commas. Of the directives that are about an
entry the most specific one decides, and of equally specific ones the last. Where no directive
is about an entry it is not let through; a filter without any directives lets errors through.
-/

namespace AssetWatch.Log

/-- A filter. -/
structure Filter where
  directives : List Directive
deriving DecidableEq, Repr

namespace Filter

/-- The texts of the directives. -/
def parts (text : String) : List String :=
  ((text.toList.splitOn ',').map String.ofList).filter (!·.isEmpty)

/-- The filter of a text, if all its directives can be read. -/
def ofText? (text : String) : Option Filter := do
  return ⟨← (parts text).mapM fun part => (Directive.ofText part).toOption⟩

/-- The filter of the directives that can be read, and the texts of the others with what is
wrong with them. -/
def ofTextLenient (text : String) : Filter × List (String × DirectiveError) :=
  (⟨(parts text).filterMap fun part => (Directive.ofText part).toOption⟩,
    (parts text).filterMap fun part =>
      match Directive.ofText part with
      | .ok _ => none
      | .error error => some (part, error))

/-- Of two directives the one that decides, where the second comes later. -/
def prefer (a b : Directive) : Directive := if a.isMoreSpecific b then a else b

/-- The rank up to which entries like the given one are let through. -/
def rankFor (filter : Filter) (entry : Entry) : Nat :=
  if filter.directives.isEmpty then Level.error.rank
  else
    match filter.directives.filter (·.appliesTo entry) with
    | [] => 0
    | first :: rest => (rest.foldl prefer first).rank

/-- Whether an entry is let through. -/
def allows (filter : Filter) (entry : Entry) : Bool :=
  entry.level.rank ≤ filter.rankFor entry

end Filter

end AssetWatch.Log
