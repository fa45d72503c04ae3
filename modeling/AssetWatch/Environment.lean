import AssetWatch.Text.Utf8

/-!
# The environment

Environment variables hold bytes. A variable whose bytes are no text counts as unset where a
text is wanted. The default path of the configuration file is found from three of them.
-/

namespace AssetWatch

/-- The values of the variables that are set. -/
structure Environment where
  bindings : List (String × List UInt8)

namespace Environment

/-- The bytes of a variable, if it is set. -/
def bytes? (environment : Environment) (name : String) : Option (List UInt8) :=
  (environment.bindings.find? (fun entry => entry.1 = name)).map (·.2)

/-- The text of a variable, if it is set and holds text. -/
def text? (environment : Environment) (name : String) : Option String :=
  (environment.bytes? name).bind Text.Utf8.text?

/-- What can be shown of a variable: nothing if it is not set. -/
def lossyText (environment : Environment) (name : String) : String :=
  String.ofList (Text.Utf8.decodeLossy ((environment.bytes? name).getD []))

end Environment

/-- Appends a name to a path. -/
def joinPath (path name : String) : String :=
  if path.isEmpty then name
  else if path.toList.getLast? = some '/' then path ++ name
  else path ++ "/" ++ name

namespace Environment

/-- The file below a directory for configuration files. -/
def configFileIn (directory : String) : String :=
  joinPath (joinPath directory "outage-agent") "config.toml"

/-- The path of the configuration file below the user's own directory, or below the one for
the whole system if there is no other. -/
def standardConfigPath (environment : Environment) : String :=
  match environment.text? "XDG_CONFIG_HOME" with
  | some directory => configFileIn directory
  | none =>
    match environment.text? "HOME" with
    | some home => configFileIn (joinPath home ".config")
    | none => configFileIn "/etc"

/-- The path of the configuration file if none is named on the command line. -/
def configPath (environment : Environment) : String :=
  (environment.text? "OUTAGE_CONFIG").getD environment.standardConfigPath

end Environment

end AssetWatch
