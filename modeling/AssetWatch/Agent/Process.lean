import AssetWatch.Agent
import AssetWatch.Agent.Help
import AssetWatch.Config.Resolve
import AssetWatch.Log.Filter
import AssetWatch.MockTime
import AssetWatch.Program

/-!
# The agent as a process

A run of the agent from its command line to its end: it finds its settings, takes in lines
until the input ends or a signal arrives, and says what it is still watching. Bytes of a line
that are no text end the run with a failure.
-/

namespace AssetWatch.Agent

open Text

/-- The version of the agent. -/
def version : String := "0.1.0"

/-! ## The log -/

/-- The filter of the log: the one that the environment gives, if it can be read, or else the
level of the command line. With it come the directives that cannot be read. -/
def logFilter (arguments : Arguments) (environment : Environment) :
    Log.Filter × List (String × Log.DirectiveError) :=
  match (environment.text? "RUST_LOG").bind Log.Filter.ofText? with
  | some filter => (filter, [])
  | none => Log.Filter.ofTextLenient arguments.logLevel

/-- What is said about a directive that cannot be read. -/
def badDirective (directive : String × Log.DirectiveError) : String :=
  "ignoring \x60" ++ directive.1 ++ "\x60: " ++ directive.2.message

/-- The lines of the reports that the filter lets through. -/
def logLines (filter : Log.Filter) (log : List Diagnostic) : List String :=
  ((log.map Diagnostic.entry).filter filter.allows).map Log.Entry.text

/-! ## Failures -/

/-- What caused an error of the configuration, the error itself first. -/
def causes : ConfigError → List String
  | .unreadable reason => [ConfigError.message (.unreadable reason), reason.message]
  | error => [error.message]

/-- The failure of a run without settings. -/
def failureOf : ResolveError → Failure
  | .unloadable path cause =>
    let several := match cause with
      | .unreadable _ | .unparsable => true
      | _ => false
    ⟨(ResolveError.unloadable path cause).message, causes cause, several⟩
  | error => ⟨error.message, [], false⟩

/-- The fault of bytes that are no text. -/
def faultText (fault : Utf8.Fault) : String :=
  match fault.length with
  | some length =>
    "invalid utf-8 sequence of " ++ Decimal.text length ++ " bytes from index "
      ++ Decimal.text fault.position
  | none => "incomplete utf-8 byte sequence from index " ++ Decimal.text fault.position

/-- The failure of a run whose input is no text. -/
def inputFailure (fault : Utf8.Fault) : Failure :=
  ⟨"Failed to read events from stdin", [faultText fault], false⟩

/-! ## The input -/

/-- The lines of the input, each with its end, which the last one need not have. -/
def splitLines : List UInt8 → List (List UInt8)
  | [] => []
  | byte :: rest =>
    if byte = 10 then [byte] :: splitLines rest
    else
      match splitLines rest with
      | [] => [[byte]]
      | line :: others => (byte :: line) :: others

/-- A line without its end: a newline, or a carriage return and a newline. -/
def withoutEnd (line : List UInt8) : List UInt8 :=
  match line.reverse with
  | 10 :: 13 :: rest => rest.reverse
  | 10 :: rest => rest.reverse
  | _ => line

/-- Takes in lines, whose ends do not count, until one of them is no text. -/
def takeLines (monitor : Monitor) (now : Seconds) :
    List (List UInt8) → Logged (Monitor × Option Utf8.Fault)
  | [] => return (monitor, none)
  | bytes :: rest => do
    match Utf8.decode (withoutEnd bytes) with
    | .error fault => return (monitor, some fault)
    | .ok line =>
      let monitor ← takeLine monitor now line
      takeLines monitor now rest

/-! ## The run -/

/-- An agent that is about to take in its input. -/
structure Session where
  settings : Settings
  monitor : Monitor
  /-- The time that the clock was set to, if it was. -/
  mockTime : Option Int

/-- Finds the settings and sets up the monitor. The mock time is looked for when somebody
first wants to know it: the report of the settings says whether there is one, but if the log
does not show that report, the running agent is the first to look at the clock. -/
def start (filter : Log.Filter) (arguments : Arguments) (environment : Environment)
    (files : Files) : Logged (Except ResolveError Session) := do
  Logged.report (.agentStarted version)
  match ← Settings.resolve arguments environment files with
  | .error error => return .error error
  | .ok settings =>
    let mockTime := MockTime.find environment
    let resolved := Diagnostic.settingsResolved settings mockTime.value.isSome
    let shown := filter.allows resolved.entry
    if shown then Logged.reportAll mockTime.log
    Logged.report resolved
    let monitor ← Monitor.new settings
    Logged.report .agentRunning
    if !shown then Logged.reportAll mockTime.log
    return .ok ⟨settings, monitor, mockTime.value⟩

/-- Says what is still watched. -/
def stop (monitor : Monitor) : Logged Unit :=
  Logged.report (.agentStopped monitor.cache.size monitor.active.length)

/-- What the agent is given. -/
inductive Input
  /-- Bytes, after which the input ends. -/
  | stream (bytes : List UInt8)
  /-- Nothing before a signal. -/
  | signal (signal : Signal)

/-- A run of the agent and the clock it goes by. -/
structure Invocation where
  line : List String
  environment : Environment
  files : Files
  input : Input
  now : Seconds
  timestamp : Calendar.Timestamp

/-- Takes in the input. The first check is due at once. What is written, and the failure that
ends the run, if there is one. -/
def serve (session : Session) (run : Invocation) :
    Logged (List (List Char) × Option Failure) := do
  let now := (session.mockTime.map MockTime.reading).getD run.now
  let (monitor, written) ← check session.monitor now run.timestamp
  match run.input with
  | .signal signal =>
    Logged.report (.signalReceived signal)
    stop monitor
    return (written, none)
  | .stream bytes =>
    match ← takeLines monitor now (splitLines bytes) with
    | (_, some fault) => return (written, some (inputFailure fault))
    | (monitor, none) =>
      Logged.report .inputClosed
      stop monitor
      return (written, none)

/-- Starts the agent and takes in the input. -/
def startAndServe (filter : Log.Filter) (arguments : Arguments) (run : Invocation) :
    Logged (List (List Char) × Option Failure) := do
  match ← start filter arguments run.environment run.files with
  | .error error => return ([], some (failureOf error))
  | .ok session => serve session run

/-- Runs the agent. A command line that cannot be understood ends it before it says anything
of its own. -/
def run (invocation : Invocation) : Result :=
  match Arguments.parse invocation.line invocation.environment with
  | .error .help => ⟨0, help invocation.environment, ""⟩
  | .error _ => ⟨2, "", ""⟩
  | .ok arguments =>
    let (filter, bad) := logFilter arguments invocation.environment
    let ⟨(written, failure), log⟩ := startAndServe filter arguments invocation
    let report := (failure.map Failure.report).getD []
    ⟨if failure.isSome then 1 else 0, String.ofList written.flatten,
      joinLines (bad.map badDirective ++ logLines filter log ++ report)⟩

end AssetWatch.Agent
