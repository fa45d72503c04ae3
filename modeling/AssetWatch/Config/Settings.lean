import AssetWatch.Seconds
import AssetWatch.Text.Decimal

/-!
# Settings

The settings that the agent runs with and the rules they have to obey. `problemsOf` lists
every rule that is broken, in a fixed order.
-/

namespace AssetWatch

/-- The settings of the agent. -/
structure Settings where
  /-- The time to live of an asset whose watch begins. -/
  defaultExpiry : Seconds
  /-- The time between two checks for expired assets. -/
  checkInterval : Seconds
  /-- Whether every change of the cache is logged. -/
  verbose : Bool
deriving DecidableEq, Repr

/-- A rule that settings break. -/
inductive Problem
  | zeroDefaultExpiry
  | zeroCheckInterval
  /-- An asset could stay expired for longer than the alert window without being noticed. -/
  | checkIntervalTooLong (interval window : Seconds)
deriving DecidableEq, Repr

/-- The rules that a default expiry and a check interval break. The interval is measured
against the alert window of two expiries only if there is such a window. -/
def problemsOf (expiry interval : Seconds) : List Problem :=
  (if expiry = 0 then [.zeroDefaultExpiry] else [])
    ++ (if interval = 0 then [.zeroCheckInterval] else [])
    ++ (if 0 < expiry ∧ expiry.twiceSat < interval then
        [.checkIntervalTooLong interval expiry.twiceSat] else [])

namespace Settings

/-- The window in which an outage has to be noticed when nothing is configured. -/
def baselineWindow : Seconds := 15 * 60

/-- The default expiry when none is configured. Two of them make up the window. -/
def standardExpiry : Seconds := baselineWindow / 2

/-- The check interval when none is configured. -/
def standardInterval : Seconds := 1

/-- The settings when nothing is configured. -/
def standard : Settings := ⟨standardExpiry, standardInterval, false⟩

instance : Inhabited Settings := ⟨standard⟩

/-- The rules that the settings break. -/
def problems (settings : Settings) : List Problem :=
  problemsOf settings.defaultExpiry settings.checkInterval

end Settings

namespace Problem

/-- What the rule demands. -/
def message : Problem → String
  | zeroDefaultExpiry => "default_expiry_seconds must be greater than zero"
  | zeroCheckInterval => "check_interval_seconds must be greater than zero"
  | checkIntervalTooLong interval window =>
    "check_interval_seconds (" ++ Text.Decimal.text interval.toNat
      ++ "s) exceeds the alert window of 2 x default_expiry_seconds ("
      ++ Text.Decimal.text window.toNat ++ "s)"

/-- The name of the rule. -/
def label : Problem → String
  | zeroDefaultExpiry => "ZeroDefaultExpiry"
  | zeroCheckInterval => "ZeroCheckInterval"
  | checkIntervalTooLong _ _ => "CheckIntervalTooLong"

/-- The name of the rule with the numbers that break it. -/
def text : Problem → String
  | checkIntervalTooLong interval window =>
    "CheckIntervalTooLong \x7b interval: " ++ Text.Decimal.text interval.toNat ++ ", window: "
      ++ Text.Decimal.text window.toNat ++ " \x7d"
  | problem => problem.label

end Problem

end AssetWatch
