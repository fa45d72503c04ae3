import AssetWatch.Config.Settings
import AssetWatch.Files
import AssetWatch.Log.Logged
import AssetWatch.Toml.Parser

/-!
# Configurations

What a configuration file says. The text is TOML; unknown keys do not count. The version is
looked at before the values are, and the values are checked with the defaults in the place of
those that are missing.
-/

namespace AssetWatch

/-- What a configuration file says. -/
structure Configuration where
  version : UInt32
  defaultExpiry : Option Seconds
  checkInterval : Option Seconds
  verbose : Bool
deriving DecidableEq, Repr

/-- Why a configuration cannot be used. -/
inductive ConfigError
  | unreadable (reason : ReadFailure)
  /-- The text is no TOML, or a key is missing or has a value of the wrong type. -/
  | unparsable
  | unsupportedVersion (version : UInt32)
  | invalid (problems : List Problem)
deriving DecidableEq, Repr

namespace ConfigError

/-- What is wrong. The details of a text that cannot be parsed are left out. -/
def message : ConfigError → String
  | unreadable reason => "Failed to read config file: " ++ reason.message
  | unparsable => "Failed to parse TOML:"
  | unsupportedVersion version =>
    "Unsupported config version: " ++ Text.Decimal.text version.toNat
  | invalid problems =>
    "Validation failed: [" ++ ", ".intercalate (problems.map Problem.text) ++ "]"

end ConfigError

namespace Configuration

/-- The version that is supported. -/
def currentVersion : UInt32 := 1

/-! ## Reading -/

/-- The natural number below `bound` that a value stands for. -/
def natural? (bound : Nat) : Toml → Option Nat
  | .integer n => if 0 ≤ n ∧ n < bound then some n.toNat else none
  | _ => none

/-- The number of seconds that a value stands for. -/
def seconds? (value : Toml) : Option Seconds := (natural? UInt64.size value).map UInt64.ofNat

/-- The truth value that a value stands for. -/
def flag? : Toml → Option Bool
  | .boolean value => some value
  | _ => none

/-- The value under a key that may be missing. -/
def optional? {α : Type} (read : Toml → Option α) : Option Toml → Option (Option α)
  | none => some none
  | some value => (read value).map some

/-- The settings of the agent: expiry, interval and verbosity. -/
abbrev AgentValues := Option Seconds × Option Seconds × Bool

/-- The settings in a table. -/
def ofTable? (entries : Toml.Entries) : Option AgentValues := do
  let expiry ← optional? seconds? (Toml.find? "default_expiry_seconds" entries)
  let interval ← optional? seconds? (Toml.find? "check_interval_seconds" entries)
  let verbose ← optional? flag? (Toml.find? "verbose" entries)
  return (expiry, interval, verbose.getD false)

/-- The settings in an array, in their order. The verbosity may be missing, and further items
do not count. -/
def ofItems? : List Toml → Option AgentValues
  | expiry :: interval :: rest => do
    let expiry ← seconds? expiry
    let interval ← seconds? interval
    let verbose ← optional? flag? rest.head?
    return (some expiry, some interval, verbose.getD false)
  | _ => none

/-- The settings that a value holds. A date or time holds none. -/
def agentValues? : Toml → Option AgentValues
  | .table _ entries => ofTable? entries
  | .array items => ofItems? items
  | .tables elements => ofItems? (elements.map (Toml.table .header))
  | .moment _ => some (none, none, false)
  | _ => none

/-- What the table of a whole text says. -/
def ofEntries? (entries : Toml.Entries) : Option Configuration := do
  let version ← (Toml.find? "config_version" entries).bind (natural? UInt32.size)
  let agent ← optional? agentValues? (Toml.find? "agent" entries)
  let (expiry, interval, verbose) := agent.getD (none, none, false)
  return ⟨UInt32.ofNat version, expiry, interval, verbose⟩

/-- What a text says. -/
def ofText? (text : List Char) : Option Configuration := (Toml.parse text).bind ofEntries?

/-! ## Using -/

/-- The rules that the configuration breaks. -/
def problems (config : Configuration) : List Problem :=
  problemsOf (config.defaultExpiry.getD Settings.standardExpiry)
    (config.checkInterval.getD Settings.standardInterval)

/-- The settings that the configuration asks for. -/
def settings (config : Configuration) : Settings :=
  ⟨config.defaultExpiry.getD Settings.standardExpiry,
    config.checkInterval.getD Settings.standardInterval, config.verbose⟩

/-- The settings, if the version is supported and no rule is broken. -/
def check (config : Configuration) : Except ConfigError Settings :=
  if config.version ≠ currentVersion then .error (.unsupportedVersion config.version)
  else if !config.problems.isEmpty then .error (.invalid config.problems)
  else .ok config.settings

end Configuration

namespace Settings

/-- The settings that the text of a configuration file asks for. -/
def ofText (text : List Char) : Except ConfigError Settings :=
  match Configuration.ofText? text with
  | none => .error .unparsable
  | some config => config.check

/-- The settings that the file under a path asks for. -/
def load (files : Files) (path : String) : Logged (Except ConfigError Settings) := do
  Logged.report (.fileLoading path)
  match files.text path with
  | .error reason => return .error (.unreadable reason)
  | .ok text => return ofText text

end Settings

end AssetWatch
