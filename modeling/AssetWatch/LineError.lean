/-!
# Line errors

What can go wrong between events or alerts and the lines of text that carry them.
-/

namespace AssetWatch

/-- Why a line cannot be read or written, with the details. -/
inductive LineError
  /-- The line holds no event. -/
  | undecodable (details : String)
  /-- The fault lies within the program. -/
  | internal (details : String)
deriving DecidableEq, Repr

/-- The error in words. -/
def LineError.message : LineError → String
  | undecodable details => "Decode error: " ++ details
  | internal details => "Internal error: " ++ details

end AssetWatch
