import AssetWatch.SortedMap

/-!
# Asset names

The name of a monitored asset, a device or a sensor. Any text is a name, and names are
compared and ordered by code points.
-/

namespace AssetWatch

/-- The unique name of a monitored asset. -/
structure AssetName where
  text : String
deriving DecidableEq, Repr, Inhabited

namespace AssetName

instance : LT AssetName := ⟨fun a b => a.text < b.text⟩

instance : DecidableLT AssetName := fun a b => inferInstanceAs (Decidable (a.text < b.text))

/-- Names are ordered as their texts are. -/
instance : KeyOrder AssetName where
  irrefl a := KeyOrder.irrefl a.text
  trans h₁ h₂ := KeyOrder.trans (κ := String) h₁ h₂
  eq_of_not_lt {a b} h₁ h₂ := by
    cases a
    cases b
    exact congrArg AssetName.mk (KeyOrder.eq_of_not_lt h₁ h₂)

/-- Inserts a name into a list that is ordered. -/
def insertSorted (name : AssetName) : List AssetName → List AssetName
  | [] => [name]
  | other :: rest =>
    if other < name then other :: insertSorted name rest else name :: other :: rest

/-- The names in ascending order. -/
def sort (names : List AssetName) : List AssetName := names.foldr insertSorted []

end AssetName

end AssetWatch
