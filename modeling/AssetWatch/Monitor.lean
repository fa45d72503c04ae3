import AssetWatch.Cache

/-!
# The monitor

A cache together with the assets whose outage has been raised. A tick compares them with the
assets that are expired now and tells what has changed, so every outage is raised once and
resolved once.
-/

namespace AssetWatch

/-- A change in the state of an asset. -/
inductive Transition
  /-- The asset has expired. -/
  | raised (asset : AssetName) (expiredAt : Seconds)
  /-- The asset is alive again, or is not watched any longer. -/
  | resolved (asset : AssetName)
deriving DecidableEq, Repr

/-- The asset that has changed. -/
def Transition.asset : Transition → AssetName
  | raised asset _ => asset
  | resolved asset => asset

/-- A cache and the assets with an outage. -/
structure Monitor where
  cache : Cache
  /-- The assets whose outage has been raised and not resolved, ascending. -/
  active : List AssetName
deriving DecidableEq

namespace Monitor

/-- A monitor that watches nothing yet. -/
def new (settings : Settings) : Logged Monitor := do
  Logged.report (.monitorStarted settings.defaultExpiry settings.verbose)
  let cache := (Cache.new.setDefaultExpiry settings.defaultExpiry).setVerbose settings.verbose
  return ⟨cache, []⟩

/-- Applies an event to the cache. -/
def handle (monitor : Monitor) (now : Seconds) (event : Event) :
    Logged (Monitor × Outcome) := do
  let (cache, outcome) ← monitor.cache.put now event
  return ({ monitor with cache := cache }, outcome)

/-- The assets that had an outage and are not among the expired ones. -/
def recovered (monitor : Monitor) (expired : List AssetName) : List AssetName :=
  monitor.active.filter fun asset => asset ∉ expired

/-- The assets among the expired ones that had no outage. -/
def fresh (monitor : Monitor) (expired : List AssetName) : List AssetName :=
  expired.filter fun asset => asset ∉ monitor.active

/-- When an expired asset expired. -/
def expiredAt (monitor : Monitor) (asset : AssetName) : Seconds :=
  (monitor.cache.expiration? asset).getD 0

/-- Compares the expired assets with those that had an outage: what is over comes first, then
what has begun, each in ascending order. -/
def tick (monitor : Monitor) (now : Seconds) : Logged (Monitor × List Transition) := do
  let expired ← monitor.cache.findExpired now
  let recovered := monitor.recovered expired
  let fresh := monitor.fresh expired
  Logged.reportAll <| recovered.map fun asset =>
    .outageResolved asset (monitor.cache.contains asset)
  Logged.reportAll <| fresh.map fun asset => .outageRaised asset (monitor.expiredAt asset)
  return ({ monitor with active := expired },
    recovered.map .resolved ++ fresh.map fun asset => .raised asset (monitor.expiredAt asset))

end Monitor

end AssetWatch
