import AssetWatch.Seconds

/-!
# Clocks set by hand

A clock that stands still until it is set or moved on. It counts whole seconds and starts
again at zero after the last one it can show.
-/

namespace AssetWatch

/-- A clock that is set by hand. -/
structure Clock where
  /-- What the clock shows. -/
  now : Seconds := 0
deriving DecidableEq, Repr

namespace Clock

instance : Inhabited Clock := ⟨{}⟩

/-- Sets the clock to an instant. -/
def set (_ : Clock) (instant : Seconds) : Clock := ⟨instant⟩

/-- Moves the clock on by a length of time. -/
def advance (clock : Clock) (length : Seconds) : Clock := ⟨clock.now + length⟩

end Clock

end AssetWatch
