import AssetWatch.Log.Logged
import AssetWatch.Record

/-!
# The cache

The watched assets with their records. A notice begins or ends the watch of an asset; a
metric concerns only assets that are watched. What the clock shows is an argument of every
operation that needs it. Verbosity decides what is reported and nothing else.
-/

namespace AssetWatch

/-- The watched assets. -/
structure Cache where
  records : SortedMap AssetName Record
  /-- The time to live of an asset whose watch begins. -/
  defaultExpiry : Seconds
  /-- Whether every change is reported. -/
  verbose : Bool
deriving DecidableEq

namespace Cache

/-- A cache that watches nothing. -/
def new : Cache := ⟨.empty, Settings.standardExpiry, false⟩

instance : Inhabited Cache := ⟨new⟩

/-! ## Looking at the cache -/

/-- The record of an asset, if it is watched. -/
def record? (cache : Cache) (name : AssetName) : Option Record := cache.records.get? name

/-- Whether an asset is watched. -/
def contains (cache : Cache) (name : AssetName) : Bool := cache.records.contains name

/-- The number of watched assets. -/
def size (cache : Cache) : Nat := cache.records.size

/-- Whether nothing is watched. -/
def isEmpty (cache : Cache) : Bool := cache.records.entries.isEmpty

/-- The instant from which on an asset counts as expired, if it is watched. -/
def expiration? (cache : Cache) (name : AssetName) : Option Seconds :=
  (cache.record? name).map Record.expiration

/-- The sensors on a port of a device, ascending. -/
def sensors (cache : Cache) (port parent : String) : List AssetName :=
  (cache.records.entries.filter fun entry =>
    entry.2.snapshot.port = port && entry.2.snapshot.parentName 1 = parent).map
      (·.2.snapshot.name)

/-- The expired assets, ascending. -/
def expired (cache : Cache) (now : Seconds) : List AssetName :=
  (cache.records.entries.filter fun entry => entry.2.isExpired now).map (·.1)

/-- The expired assets, ascending; a verbose cache reports every asset it looks at. -/
def findExpired (cache : Cache) (now : Seconds) : Logged (List AssetName) := do
  Logged.reportIf cache.verbose (.expirySought now)
  if cache.verbose then
    Logged.reportAll <| cache.records.entries.map fun entry =>
      .assetChecked entry.1 entry.2.ttl entry.2.expiration
  return cache.expired now

/-! ## Changing the cache -/

/-- Sets the time to live of the assets whose watch begins from now on. -/
def setDefaultExpiry (cache : Cache) (expiry : Seconds) : Cache :=
  { cache with defaultExpiry := expiry }

/-- Sets whether every change is reported. -/
def setVerbose (cache : Cache) (verbose : Bool) : Cache := { cache with verbose := verbose }

/-- Stores the record of an asset. -/
def store (cache : Cache) (name : AssetName) (record : Record) : Cache :=
  { cache with records := cache.records.insert name record }

/-- The cache without an asset. -/
def remove (cache : Cache) (name : AssetName) : Cache :=
  { cache with records := cache.records.erase name }

/-- Ends the watch of an asset and tells whether it was watched. -/
def delete (cache : Cache) (name : AssetName) : Logged (Cache × Bool) := do
  let existed := cache.contains name
  Logged.reportIf (existed && cache.verbose) (.assetRemoved name)
  return (cache.remove name, existed)

/-- Applies a metric. The time to live counts even if the time lies ahead of the clock. -/
def putMetric (cache : Cache) (now : Seconds) (metric : Metric) :
    Logged (Cache × Outcome) := do
  match cache.record? metric.source with
  | none => return (cache, .untracked)
  | some record =>
    let narrowed := record.narrow metric.ttl
    Logged.reportIf cache.verbose (.ttlApplied metric.source narrowed.ttl)
    let time := metric.timeOr now
    if now < time then
      Logged.report (.futureMetric metric.source metric.quantity time now)
      return (cache.store metric.source narrowed, .futureTimestamp metric.source time now)
    else
      let observed := narrowed.observe time
      Logged.reportIf cache.verbose
        (.timeApplied metric.source observed.lastSeen observed.expiration)
      return (cache.store metric.source observed, .refreshed metric.source)

/-- Applies a notice. Of the notices that would begin a watch only the first one counts. -/
def putNotice (cache : Cache) (now : Seconds) (notice : AssetNotice) :
    Logged (Cache × Outcome) := do
  Logged.reportIf cache.verbose (.noticeReceived notice.name notice.operation)
  if notice.isRemoval then
    let (cache, existed) ← cache.delete notice.name
    return (cache, .removed notice.name existed)
  else if !notice.isTrackedKind then return (cache, .ignored)
  else if cache.contains notice.name then return (cache, .alreadyTracked notice.name)
  else
    let record := (Record.ofNotice cache.defaultExpiry notice).observe now
    Logged.reportIf cache.verbose (.assetAdded notice.name now record.expiration)
    return (cache.store notice.name record, .tracked notice.name)

/-- Applies an event. -/
def put (cache : Cache) (now : Seconds) : Event → Logged (Cache × Outcome)
  | .metric metric => cache.putMetric now metric
  | .asset notice => cache.putNotice now notice

/-! ## Lookups after a change -/

theorem record?_store (cache : Cache) (name other : AssetName) (record : Record) :
    (cache.store name record).record? other =
      if name = other then some record else cache.record? other :=
  SortedMap.get?_insert _ _ _ _

theorem record?_remove (cache : Cache) (name other : AssetName) :
    (cache.remove name).record? other = if name = other then none else cache.record? other :=
  SortedMap.get?_erase _ _ _

end Cache

end AssetWatch
