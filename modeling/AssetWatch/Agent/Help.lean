import AssetWatch.CommandLine
import AssetWatch.Program
import AssetWatch.Text.ControlSequence

/-!
# Help

The explanation of the agent's command line. `styledHelp` is written for a terminal, with
control sequences around what is emphasised; `help` is without them. As the text shows the
default expiry that the environment gives, a sequence in there may take in a part of the text.
-/

namespace AssetWatch.Agent

namespace Help

/-- The control sequence that ends all emphasis. -/
def plain : String := "\x1b[0m"

/-- A text in bold. -/
def bold (text : String) : String := "\x1b[1m" ++ text ++ plain

/-- A heading, in bold and underlined. -/
def heading (text : String) : String := "\x1b[1m\x1b[4m" ++ text ++ plain

/-- An explanation, whose lines are indented. -/
def paragraph (text : String) : String :=
  let margin := List.replicate 10 ' '
  String.ofList (margin ++ text.toList.flatMap fun c => if c = '\n' then c :: margin else [c])

/-- The lines about an option: its two names, what its value is called, and what it does. -/
def option (short long value text : String) : List String :=
  ["  " ++ bold short ++ ", " ++ bold long ++ value, paragraph text]

end Help

open Help in
/-- The explanation for a terminal, with the default expiry that the environment gives. -/
def styledHelp (environment : Environment) : String :=
  let setting := Arguments.expiryVariable ++ "=" ++ environment.lossyText Arguments.expiryVariable
  joinLines (["Alerts on monitored assets that stop reporting metrics", "",
    heading "Usage:" ++ " " ++ bold "outage-agent" ++ " [OPTIONS]", "",
    heading "Options:"]
    ++ option "-c" "--config" " <CONFIG>"
      "Configuration file path (default: ~/.config/outage-agent/config.toml)"
    ++ option "-d" "--default-expiry" " <DEFAULT_EXPIRY>"
      ("Default asset expiry in seconds (or set OUTAGE_DEFAULT_EXPIRY env var) [env: "
        ++ setting ++ "]")
    ++ option "-v" "--verbose" "" "Log every cache update"
    ++ option "-l" "--log-level" " <LOG_LEVEL>" "Log level [default: info]"
    ++ option "-h" "--help" "" "Print help")

/-- The explanation without control sequences. -/
def help (environment : Environment) : String :=
  String.ofList (Text.ControlSequence.strip (styledHelp environment).toList)

end AssetWatch.Agent
