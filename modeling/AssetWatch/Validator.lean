import AssetWatch.Calendar.Display
import AssetWatch.Config.Resolve
import AssetWatch.Program

/-!
# The validator

A program of its own that looks at one configuration file and says whether the agent would
accept it, and if so with which settings.
-/

namespace AssetWatch.Validator

open Text

/-- The explanation that is given when no file is named. -/
def usage (environment : Environment) : String :=
  joinLines ["Usage: validate-config [config-file]", "",
    "Validates an outage agent configuration file.", "",
    "If no path is provided, uses: " ++ environment.configPath]

/-- The settings of a valid file. -/
def summary (settings : Settings) : String :=
  joinLines ["✓ Configuration is valid", "", "Summary:",
    "  Config version: " ++ Decimal.text Configuration.currentVersion.toNat,
    "  Default expiry: " ++ settings.defaultExpiry.lengthText ++ " (alert after "
      ++ settings.defaultExpiry.twiceSat.lengthText ++ ")",
    "  Check interval: " ++ settings.checkInterval.lengthText,
    "  Verbose: " ++ (if settings.verbose then "true" else "false")]

/-- What is wrong with a file. The details of a text that cannot be parsed are left out. -/
def complaint : ConfigError → List String
  | .unreadable reason => ["Failed to read file: " ++ reason.message]
  | .unparsable => ["TOML parse error:"]
  | .invalid problems =>
    ("Validation errors (" ++ Decimal.text problems.length ++ "):") ::
      problems.map fun problem => "  - " ++ problem.message
  | .unsupportedVersion version =>
    ["Unsupported config version: " ++ Decimal.text version.toNat ++ " (expected "
      ++ Decimal.text Configuration.currentVersion.toNat ++ ")"]

/-- Looks at the file under a path. -/
def examine (files : Files) (path : String) : Result :=
  if !files.present path then
    ⟨1, "", joinLines ["Error: Configuration file not found: " ++ path]⟩
  else
    match (Settings.load files path).value with
    | .ok settings => ⟨0, summary settings, ""⟩
    | .error error =>
      ⟨1, "", joinLines ("✗ Configuration validation failed" :: "" :: complaint error)⟩

/-- Runs the program. Only the first argument counts. -/
def run (arguments : List String) (environment : Environment) (files : Files) : Result :=
  match arguments with
  | [] => ⟨2, "", usage environment⟩
  | path :: _ => examine files path

end AssetWatch.Validator
