import AssetWatch.Environment
import AssetWatch.Seconds
import AssetWatch.Text.Decimal

/-!
# The command line

The agent takes options in a long and a short form. A value may be attached to its option, or
it is the argument that follows. An option whose value follows is settled only when the next
known option, or the end of the line, is reached; an unknown argument is refused before that.
-/

namespace AssetWatch

/-- The arguments of the agent. -/
structure Arguments where
  /-- The path of the configuration file. -/
  config : Option String
  defaultExpiry : Option Seconds
  verbose : Bool
  logLevel : String
deriving DecidableEq, Repr

/-- Why a command line is refused. -/
inductive ArgumentError
  /-- An option that is not known, or an argument that belongs to no option. -/
  | unknown
  /-- An option is given twice. -/
  | conflict
  /-- An option has no value, or an empty one where that makes no sense. -/
  | missingValue
  /-- A value is not a number of seconds. -/
  | badValue
  /-- An option that takes no value has one. -/
  | unwantedValue
  /-- The value of an environment variable is no text. -/
  | notText
  /-- Help is asked for, which is no mistake. -/
  | help
deriving DecidableEq, Repr

/-- What is wrong with the command line. -/
def ArgumentError.message : ArgumentError → String
  | unknown => "unexpected argument"
  | conflict => "an option is given more than once"
  | missingValue => "an option lacks its value"
  | badValue => "a value is not a number of seconds"
  | unwantedValue => "an option has a value but takes none"
  | notText => "the value of an environment variable is no text"
  | help => "help is asked for"

/-- The number of seconds that a text of digits stands for; a plus sign may precede them. -/
def Seconds.ofText? (text : String) : Option Seconds :=
  match Text.Decimal.natural? text.toList with
  | some n => if n < UInt64.size then some (UInt64.ofNat n) else none
  | none => none

namespace CommandLine

/-- The options. -/
inductive Switch
  | config
  | defaultExpiry
  | verbose
  | logLevel
  | help
deriving DecidableEq, Repr

namespace Switch

/-- Whether the option takes a value. -/
def takesValue : Switch → Bool
  | config | defaultExpiry | logLevel => true
  | verbose | help => false

/-- The option with a long name. -/
def ofLong? (name : String) : Option Switch :=
  if name = "config" then some config
  else if name = "default-expiry" then some defaultExpiry
  else if name = "verbose" then some verbose
  else if name = "log-level" then some logLevel
  else if name = "help" then some help
  else none

/-- The option with a short name. -/
def ofShort? (name : Char) : Option Switch :=
  if name = 'c' then some config
  else if name = 'd' then some defaultExpiry
  else if name = 'v' then some verbose
  else if name = 'l' then some logLevel
  else if name = 'h' then some help
  else none

end Switch

/-- What is known after a part of the line. -/
structure Draft where
  config : Option String := none
  defaultExpiry : Option Seconds := none
  verbose : Bool := false
  logLevel : Option String := none
  /-- The last option, if it has not been settled, and its value, if it has been given. -/
  pending : Option (Switch × Option String) := none
deriving DecidableEq

namespace Draft

/-- Fails unless an option is given for the first time. -/
def once (given : Bool) : Except ArgumentError Unit :=
  if given then .error .conflict else .ok ()

/-- Records an option with its value. -/
def record (draft : Draft) (switch : Switch) (value : Option String) :
    Except ArgumentError Draft :=
  match switch, value with
  | .help, _ => .error .help
  | .verbose, _ => do
    once draft.verbose
    return { draft with verbose := true }
  | _, none => .error .missingValue
  | .config, some value => do
    once draft.config.isSome
    if value.isEmpty then .error .missingValue
    else return { draft with config := some value }
  | .defaultExpiry, some value => do
    once draft.defaultExpiry.isSome
    match Seconds.ofText? value with
    | some seconds => return { draft with defaultExpiry := some seconds }
    | none => .error .badValue
  | .logLevel, some value => do
    once draft.logLevel.isSome
    return { draft with logLevel := some value }

/-- Settles the last option. -/
def settle (draft : Draft) : Except ArgumentError Draft :=
  match draft.pending with
  | none => .ok draft
  | some (switch, value) => { draft with pending := none }.record switch value

/-- Takes an option that is complete. -/
def take (draft : Draft) (switch : Switch) (value : Option String) :
    Except ArgumentError Draft := do
  (← draft.settle).record switch value

/-- Takes an option whose value is to follow. -/
def await (draft : Draft) (switch : Switch) : Except ArgumentError Draft := do
  return { ← draft.settle with pending := some (switch, none) }

/-- Takes an argument in the long form. -/
def takeLong (draft : Draft) (argument : List Char) : Except ArgumentError Draft :=
  let name := String.ofList (argument.takeWhile (· ≠ '='))
  let value := match argument.dropWhile (· ≠ '=') with
    | [] => none
    | _ :: value => some (String.ofList value)
  match Switch.ofLong? name with
  | none => .error .unknown
  | some switch =>
    if switch.takesValue then
      match value with
      | some value => draft.take switch (some value)
      | none => draft.await switch
    else if value.isSome then .error .unwantedValue
    else draft.take switch none

/-- Takes an argument in the short form, in which several options may stand together. -/
def takeShort (draft : Draft) : List Char → Except ArgumentError Draft
  | [] => .ok draft
  | name :: rest =>
    match Switch.ofShort? name with
    | none => .error .unknown
    | some switch =>
      if switch.takesValue then
        match rest with
        | [] => draft.await switch
        | '=' :: value => draft.take switch (some (String.ofList value))
        | value => draft.take switch (some (String.ofList value))
      else do (← draft.take switch none).takeShort rest

/-- Takes an argument that is no option: the value that the last option waits for. -/
def takeValue (draft : Draft) (argument : String) : Except ArgumentError Draft :=
  match draft.pending with
  | some (switch, none) => .ok { draft with pending := some (switch, some argument) }
  | _ => .error .unknown

/-- Takes an argument. -/
def takeArgument (draft : Draft) (argument : String) : Except ArgumentError Draft :=
  match argument.toList with
  | '-' :: '-' :: rest => draft.takeLong rest
  | '-' :: name :: rest => draft.takeShort (name :: rest)
  | _ => draft.takeValue argument

/-- Takes all arguments. After two hyphens no options follow, and there is nothing else that
could. -/
def takeAll (draft : Draft) : List String → Except ArgumentError Draft
  | [] => draft.settle
  | argument :: rest =>
    if argument = "--" then
      if rest.isEmpty then draft.settle else .error .unknown
    else do (← draft.takeArgument argument).takeAll rest

end Draft

end CommandLine

namespace Arguments

/-- The variable that holds the default expiry if no option gives it. -/
def expiryVariable : String := "OUTAGE_DEFAULT_EXPIRY"

/-- The default expiry that the environment gives. -/
def expiryFrom (environment : Environment) : Except ArgumentError (Option Seconds) :=
  match environment.bytes? expiryVariable with
  | none => .ok none
  | some bytes =>
    match Text.Utf8.text? bytes with
    | none => .error .notText
    | some text =>
      match Seconds.ofText? text with
      | some seconds => .ok (some seconds)
      | none => .error .badValue

/-- The arguments of a command line. The environment is asked only for what the line leaves
open. -/
def parse (line : List String) (environment : Environment) :
    Except ArgumentError Arguments := do
  let draft ← CommandLine.Draft.takeAll {} line
  let expiry ← match draft.defaultExpiry with
    | some expiry => pure (some expiry)
    | none => expiryFrom environment
  return ⟨draft.config, expiry, draft.verbose, draft.logLevel.getD "info"⟩

end Arguments

end AssetWatch
