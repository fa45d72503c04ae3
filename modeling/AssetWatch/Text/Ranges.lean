/-!
# Character properties given by ranges

A property of characters is written as the list of its code point ranges, both ends included.
-/

namespace AssetWatch.Text

/-- Whether the code point of `c` lies in one of the ranges, ends included. -/
def inRanges (ranges : List (Nat × Nat)) (c : Char) : Bool :=
  ranges.any fun range => range.1 ≤ c.toNat && c.toNat ≤ range.2

end AssetWatch.Text
