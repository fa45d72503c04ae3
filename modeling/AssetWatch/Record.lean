import AssetWatch.Event

/-!
# Expiration records

What is remembered of a watched asset: the smallest time to live that any of its metrics has
promised, the latest observation, and the notice that began the watch. Two times to live may
pass after the last observation before the asset counts as expired. `toNat_expiration` says
when that is, over the natural numbers.
-/

namespace AssetWatch

/-- The liveness of one watched asset. -/
structure Record where
  /-- The smallest time to live promised so far. -/
  ttl : Seconds
  /-- The latest observation accepted so far. -/
  lastSeen : Seconds
  /-- The notice that began the watch. -/
  snapshot : AssetNotice
deriving DecidableEq

namespace Record

/-- The record of an asset that has not been seen. -/
def ofNotice (ttl : Seconds) (notice : AssetNotice) : Record := ⟨ttl, 0, notice⟩

/-- Keeps the smaller time to live. -/
def narrow (record : Record) (ttl : Seconds) : Record :=
  if ttl < record.ttl then { record with ttl := ttl } else record

/-- Keeps the later observation. -/
def observe (record : Record) (time : Seconds) : Record :=
  if record.lastSeen < time then { record with lastSeen := time } else record

/-- The instant from which on the asset counts as expired. -/
def expiration (record : Record) : Seconds := record.lastSeen.addSat record.ttl.twiceSat

/-- Whether the asset counts as expired. -/
def isExpired (record : Record) (now : Seconds) : Bool := record.expiration ≤ now

theorem toNat_expiration (record : Record) :
    record.expiration.toNat =
      min (record.lastSeen.toNat + 2 * record.ttl.toNat) (UInt64.size - 1) := by
  rw [expiration, Seconds.toNat_addSat, Seconds.toNat_twiceSat]
  omega

theorem toNat_ttl_narrow (record : Record) (ttl : Seconds) :
    (record.narrow ttl).ttl.toNat = min record.ttl.toNat ttl.toNat := by
  unfold narrow
  split
  next smaller =>
    have := UInt64.lt_iff_toNat_lt.1 smaller
    simp only
    omega
  next notSmaller =>
    have := UInt64.le_iff_toNat_le.1 (UInt64.not_lt.1 notSmaller)
    omega

theorem toNat_lastSeen_observe (record : Record) (time : Seconds) :
    (record.observe time).lastSeen.toNat = max record.lastSeen.toNat time.toNat := by
  unfold observe
  split
  next later =>
    have := UInt64.lt_iff_toNat_lt.1 later
    simp only
    omega
  next notLater =>
    have := UInt64.le_iff_toNat_le.1 (UInt64.not_lt.1 notLater)
    omega

end Record

end AssetWatch
