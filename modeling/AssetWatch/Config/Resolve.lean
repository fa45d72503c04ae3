import AssetWatch.CommandLine
import AssetWatch.Config.Configuration

/-!
# Resolving the settings

The settings come from a configuration file, if there is one, and from the command line,
which has the last word. A file that is named has to be there; the one at the default path
may be missing. What results is checked once more.
-/

namespace AssetWatch

/-- Why no settings can be found. -/
inductive ResolveError
  /-- The configuration file cannot be used. -/
  | unloadable (path : String) (cause : ConfigError)
  /-- The settings with those of the command line break rules. -/
  | invalid (problems : List Problem)
deriving DecidableEq, Repr

/-- What is wrong, without its cause. -/
def ResolveError.message : ResolveError → String
  | unloadable path _ => "Failed to load config from " ++ Text.quoted path
  | invalid problems =>
    "Invalid configuration: " ++ "; ".intercalate (problems.map Problem.message)

namespace Settings

/-- The settings of the file under a path, which has to be there. -/
def loadNamed (files : Files) (path : String) : Logged (Except ResolveError Settings) := do
  match ← load files path with
  | .ok settings => return .ok settings
  | .error cause => return .error (.unloadable path cause)

/-- The settings of the configuration file. -/
def fromFile (arguments : Arguments) (environment : Environment) (files : Files) :
    Logged (Except ResolveError Settings) := do
  match arguments.config with
  | some path => loadNamed files path
  | none =>
    let path := environment.configPath
    if files.present path then loadNamed files path
    else
      Logged.report (.defaultsUsed path)
      return .ok standard

/-- The settings with those of the command line. -/
def override (settings : Settings) (arguments : Arguments) : Settings :=
  { settings with
    defaultExpiry := arguments.defaultExpiry.getD settings.defaultExpiry
    verbose := settings.verbose || arguments.verbose }

/-- The settings, if they break no rule. -/
def checked (settings : Settings) : Except ResolveError Settings :=
  if settings.problems.isEmpty then .ok settings else .error (.invalid settings.problems)

/-- The settings that file and command line ask for. -/
def resolve (arguments : Arguments) (environment : Environment) (files : Files) :
    Logged (Except ResolveError Settings) := do
  match ← fromFile arguments environment files with
  | .error error => return .error error
  | .ok settings => return (settings.override arguments).checked

end Settings

end AssetWatch
