import AssetWatch.Calendar.Display
import AssetWatch.Config.Settings
import AssetWatch.Event
import AssetWatch.Log.Entry
import AssetWatch.Outcome

/-!
# Diagnostics

Everything that the program reports about its own work, as data, and the log entry of each
report. The reports of a cache that is not verbose are left out by the cache itself.
-/

namespace AssetWatch

/-- A signal that ends the agent. -/
inductive Signal
  | terminate
  | interrupt
  | hangup
deriving DecidableEq, Repr

/-- The name of a signal. -/
def Signal.text : Signal → String
  | .terminate => "SIGTERM"
  | .interrupt => "SIGINT"
  | .hangup => "SIGHUP"

/-- A report of the program about its own work. -/
inductive Diagnostic
  /-- The cache was given a notice. -/
  | noticeReceived (asset : AssetName) (operation : Operation)
  /-- The watch of an asset began. -/
  | assetAdded (asset : AssetName) (now expiresAt : Seconds)
  /-- The watch of an asset ended. -/
  | assetRemoved (asset : AssetName)
  /-- A metric's time to live was applied. -/
  | ttlApplied (asset : AssetName) (ttl : Seconds)
  /-- A metric's time was applied. -/
  | timeApplied (asset : AssetName) (lastSeen expiresAt : Seconds)
  /-- A metric's time lay ahead of the clock. -/
  | futureMetric (asset : AssetName) (quantity : String) (time now : Seconds)
  /-- The expired assets are looked for. -/
  | expirySought (now : Seconds)
  /-- An asset is looked at. -/
  | assetChecked (asset : AssetName) (ttl expiresAt : Seconds)
  /-- A monitor was set up. -/
  | monitorStarted (defaultExpiry : Seconds) (verbose : Bool)
  /-- An outage is over. -/
  | outageResolved (asset : AssetName) (tracked : Bool)
  /-- An outage has begun. -/
  | outageRaised (asset : AssetName) (expiredAt : Seconds)
  /-- A line of input made the agent watch an asset. -/
  | trackingStarted (asset : AssetName)
  /-- A line of input made the agent stop watching an asset. -/
  | trackingStopped (asset : AssetName)
  /-- A line of input had another outcome. -/
  | eventProcessed (outcome : Outcome)
  /-- A line of input held no event. -/
  | lineDropped
  | agentStarted (version : String)
  /-- There is no configuration file at the default path. -/
  | defaultsUsed (path : String)
  | fileLoading (path : String)
  | mockTimeEnabled (time : String)
  | mockTimeInvalid (time format : String)
  | settingsResolved (settings : Settings) (mockTime : Bool)
  | agentRunning
  | inputClosed
  | signalReceived (signal : Signal)
  | agentStopped (tracked active : Nat)
deriving DecidableEq

namespace Diagnostic

open Log

/-- An entry of the cache. -/
def cacheEntry (level : Level) (message : String) (fields : List (String × Value)) : Entry :=
  ⟨level, "outage_core::cache", message, fields⟩

/-- An entry of the monitor. -/
def monitorEntry (level : Level) (message : String) (fields : List (String × Value)) : Entry :=
  ⟨level, "outage_core::monitor", message, fields⟩

/-- An entry of the agent. -/
def agentEntry (level : Level) (message : String) (fields : List (String × Value)) : Entry :=
  ⟨level, "outage_agent", message, fields⟩

/-- The field that names an asset. -/
def assetField (asset : AssetName) : String × Value := ("asset", .shown asset.text)

/-- A field that holds seconds. -/
def secondsField (name : String) (seconds : Seconds) : String × Value :=
  (name, .number seconds.toNat)

/-- The log entry of a report. -/
def entry : Diagnostic → Entry
  | noticeReceived asset operation =>
    cacheEntry .debug "Asset notification"
      [assetField asset, ("operation", .shown operation.text)]
  | assetAdded asset now expiresAt =>
    cacheEntry .debug "Asset added"
      [assetField asset, secondsField "now" now, ("expires_at", .shown expiresAt.dateText)]
  | assetRemoved asset => cacheEntry .debug "Asset removed" [assetField asset]
  | ttlApplied asset ttl =>
    cacheEntry .debug "TTL updated" [assetField asset, secondsField "ttl_secs" ttl]
  | timeApplied asset lastSeen expiresAt =>
    cacheEntry .debug "Last seen updated"
      [assetField asset, secondsField "last_seen_secs" lastSeen,
        secondsField "expires_at" expiresAt]
  | futureMetric asset quantity time now =>
    cacheEntry .info "Metric from the future, ignoring its timestamp"
      [assetField asset, ("quantity", .shown quantity), secondsField "time" time,
        secondsField "now" now]
  | expirySought now => cacheEntry .debug "Evaluating dead assets" [secondsField "now" now]
  | assetChecked asset ttl expiresAt =>
    cacheEntry .debug "Checking asset"
      [assetField asset, secondsField "ttl_secs" ttl, secondsField "expires_at" expiresAt]
  | monitorStarted defaultExpiry verbose =>
    monitorEntry .info "Outage monitor initialized"
      [secondsField "default_expiry_secs" defaultExpiry, ("verbose", .flag verbose)]
  | outageResolved asset tracked =>
    monitorEntry .info "Outage resolved" [assetField asset, ("tracked", .flag tracked)]
  | outageRaised asset expiredAt =>
    monitorEntry .warn "Asset is not responding"
      [assetField asset, secondsField "expired_at" expiredAt]
  | trackingStarted asset => agentEntry .info "Tracking asset" [assetField asset]
  | trackingStopped asset => agentEntry .info "Stopped tracking asset" [assetField asset]
  | eventProcessed outcome =>
    agentEntry .debug "Event processed" [("outcome", .shown outcome.text)]
  | lineDropped => agentEntry .warn "Dropping malformed event" [("error", .withheld)]
  | agentStarted version =>
    agentEntry .info "outage-agent starting" [("version", .quoted version)]
  | defaultsUsed path =>
    agentEntry .info "No configuration file, using defaults" [("path", .shown path)]
  | fileLoading path =>
    ⟨.debug, "outage_config", "Loading configuration", [("path", .shown path)]⟩
  | mockTimeEnabled time =>
    ⟨.info, "outage_util::time", "Mock time enabled",
      [("mock_time", .shown time), ("offset_secs", .withheld)]⟩
  | mockTimeInvalid time format =>
    ⟨.warn, "outage_util::time", "Invalid mock time format",
      [("mock_time", .shown time), ("expected_format", .quoted format)]⟩
  | settingsResolved settings mockTime =>
    agentEntry .info "Configuration resolved"
      [("default_expiry", .shown settings.defaultExpiry.lengthText),
        ("check_interval", .shown settings.checkInterval.lengthText),
        ("mock_time", .flag mockTime)]
  | agentRunning => agentEntry .info "Agent running" []
  | inputClosed => agentEntry .info "Event input closed" []
  | signalReceived signal =>
    agentEntry .info ("Received " ++ signal.text ++ ", shutting down gracefully") []
  | agentStopped tracked active =>
    agentEntry .info "Shutdown complete"
      [("tracked_assets", .number tracked), ("active_outages", .number active)]

end Diagnostic

end AssetWatch
