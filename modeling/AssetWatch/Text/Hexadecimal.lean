/-!
# Hexadecimal digits

The value of a hexadecimal digit in either case. The digits that are written, which are in
lower case, can be read back (`hexValue?_digitChar`).
-/

namespace AssetWatch.Text

/-- The value of a hexadecimal digit. -/
def hexValue? (c : Char) : Option Nat :=
  if '0' ≤ c ∧ c ≤ '9' then some (c.toNat - 48)
  else if 'a' ≤ c ∧ c ≤ 'f' then some (c.toNat - 87)
  else if 'A' ≤ c ∧ c ≤ 'F' then some (c.toNat - 55)
  else none

theorem hexValue?_digitChar (d : Fin 16) : hexValue? (Nat.digitChar d) = some d.val := by
  revert d
  decide

end AssetWatch.Text
