import AssetWatch.Agent.Process
import AssetWatch.Validator
import Std.Async.Signal
import Std.Time.DateTime.Timestamp

/-!
# The programs

The agent as a program: events come line by line on standard input, alerts go to standard
output, the log goes to standard error. Under the name of the validator the same program looks
at a configuration file instead. All that is decided is decided by the library; here bytes are
read and written and the clock is looked at.
-/

namespace AssetWatch.Shell

/-! ## Looking at the surroundings -/

/-- The environment variables that matter. -/
def variableNames : List String :=
  ["HOME", "XDG_CONFIG_HOME", "OUTAGE_CONFIG", Arguments.expiryVariable, MockTime.timeVariable,
    "RUST_LOG"]

/-- Looks at the environment. -/
def environment : IO Environment := do
  let found ← variableNames.mapM fun name => do
    return (← IO.getEnv name).map fun value => (name, Text.Utf8.encode value.toList)
  return ⟨found.filterMap id⟩

/-- Why a file cannot be read. -/
def readFailure : IO.Error → ReadFailure
  | .noFileOrDirectory .. => .notFound
  | .inappropriateType _ code details | .invalidArgument _ code details =>
    if code = 20 then .notADirectory
    else if code = 21 then .isADirectory
    else if code = 36 then .nameTooLong
    else .other details
  | error => .other (toString error)

/-- Looks at the file under a path. -/
def readFile (path : String) : IO Files := do
  match ← (IO.FS.readBinFile path).toBaseIO with
  | .ok content => return .single (.ok content.toList)
  | .error error => return .single (.error (readFailure error))

/-- The present instant. -/
def timestamp : IO Calendar.Timestamp := do
  let nanos := (← Std.Time.Timestamp.now).toNanosecondsSinceUnixEpoch.val
  return (Calendar.Timestamp.ofParts? (nanos / 1000000000) (nanos % 1000000000).toNat).getD
    default

/-! ## Reading lines -/

/-- Lines that have been read and not been taken in; `none` stands for the end of the input. -/
abbrev Inbox := IO.Ref (Array (Option (List UInt8)))

/-- Reads the rest of a line, with its end. -/
partial def readLine (input : IO.FS.Stream) (begun : ByteArray) : IO ByteArray := do
  match (← input.read 1).toList with
  | [] => return begun
  | byte :: _ =>
    let line := begun.push byte
    if byte = 10 then return line else readLine input line

/-- Reads lines until the input ends. -/
partial def fill (inbox : Inbox) (input : IO.FS.Stream) : IO Unit := do
  let line ← readLine input .empty
  if line.isEmpty then inbox.modify (·.push none)
  else
    inbox.modify (·.push (some line.toList))
    fill inbox input

/-! ## The running agent -/

/-- Writes the reports that the filter lets through. -/
def writeLog (filter : Log.Filter) (log : List Diagnostic) : IO Unit := do
  let error ← IO.getStderr
  for line in Agent.logLines filter log do
    error.putStrLn (String.ofList (← timestamp).text ++ " " ++ line)

/-- The signals that end the agent. -/
def signals : List (Signal × Std.Async.Signal) :=
  [(.terminate, .sigterm), (.interrupt, .sigint), (.hangup, .sighup)]

/-- What stays the same while the agent runs. -/
structure Service where
  filter : Log.Filter
  /-- What the mock time is ahead of the real one, in seconds. -/
  shift : Int
  /-- Milliseconds between two checks. -/
  interval : Nat
  inbox : Inbox
  /-- The signals that have arrived. -/
  arrived : IO (List Signal)

namespace Service

/-- The present instant of the agent's own time. -/
def moment (service : Service) : IO Calendar.Timestamp := do
  let present ← timestamp
  return (Calendar.Timestamp.ofParts? (present.seconds + service.shift) present.nanos).getD present

/-- What the clock shows. -/
def now (service : Service) : IO Seconds := do
  return MockTime.reading (← service.moment).seconds

/-- Writes what was reported and goes on with the value. -/
def unlog {α : Type} (service : Service) (logged : Logged α) : IO α := do
  writeLog service.filter logged.log
  return logged.value

/-- Looks for transitions. -/
def check (service : Service) (monitor : Monitor) : IO Monitor := do
  let (monitor, lines) ← service.unlog
    (Agent.check monitor (← service.now) (← service.moment))
  let output ← IO.getStdout
  for line in lines do
    output.putStr (String.ofList line)
  output.flush
  return monitor

/-- Takes in what has been read: the monitor, and how the run ends if it does. -/
def takeIn (service : Service) (monitor : Monitor) :
    List (Option (List UInt8)) → IO (Monitor × Option (Option Failure))
  | [] => return (monitor, none)
  | none :: _ => do
    service.unlog (Logged.report .inputClosed)
    return (monitor, some none)
  | some line :: rest => do
    match ← service.unlog (Agent.takeLines monitor (← service.now) [line]) with
    | (monitor, some fault) => return (monitor, some (some (Agent.inputFailure fault)))
    | (monitor, none) => service.takeIn monitor rest

/-- Runs until the input ends, a signal arrives or a line is no text. -/
partial def run (service : Service) (monitor : Monitor) (due : Nat) :
    IO (Monitor × Option Failure) := do
  if let signal :: _ ← service.arrived then
    service.unlog (Logged.report (.signalReceived signal))
    return (monitor, none)
  let time ← IO.monoMsNow
  let (monitor, due) ←
    if due ≤ time then pure (← service.check monitor, due + service.interval)
    else pure (monitor, due)
  let lines ← service.inbox.modifyGet fun lines => (lines, #[])
  match ← service.takeIn monitor lines.toList with
  | (monitor, some ending) => return (monitor, ending)
  | (monitor, none) =>
    IO.sleep 20
    service.run monitor due

end Service

/-- Serves a session to its end: the failure that ends it, if there is one. -/
def serve (filter : Log.Filter) (session : Agent.Session) : IO (Option Failure) := do
  let begun := (← timestamp).seconds
  let inbox ← IO.mkRef #[]
  let waiting ← signals.mapM fun signal => do
    return (signal.1, ← (← Std.Async.Signal.Waiter.mk signal.2 false).wait)
  let arrived := do
    return (← waiting.filterM fun signal => IO.hasFinished signal.2).map (·.1)
  let _ ← IO.asTask (fill inbox (← IO.getStdin)) .dedicated
  let service : Service :=
    { filter := filter
      shift := (session.mockTime.map (· - begun)).getD 0
      interval := 1000 * session.settings.checkInterval.toNat
      inbox := inbox
      arrived := arrived }
  let (monitor, failure) ← service.run session.monitor (← IO.monoMsNow)
  if failure.isNone then service.unlog (Agent.stop monitor)
  return failure

/-- The agent. -/
def agent (line : List String) : IO UInt32 := do
  let environment ← environment
  match Arguments.parse line environment with
  | .error .help =>
    IO.print (Agent.help environment)
    return 0
  | .error error =>
    IO.eprintln ("error: " ++ error.message)
    return 2
  | .ok arguments =>
    let (filter, bad) := Agent.logFilter arguments environment
    for directive in bad do
      IO.eprintln (Agent.badDirective directive)
    let files ← readFile (arguments.config.getD environment.configPath)
    let started := Agent.start filter arguments environment files
    writeLog filter started.log
    let failure ← match started.value with
      | .error error => pure (some (Agent.failureOf error))
      | .ok session => serve filter session
    for line in (failure.map Failure.report).getD [] do
      IO.eprintln line
    return if failure.isSome then 1 else 0

/-- The validator. -/
def validator (line : List String) : IO UInt32 := do
  let environment ← environment
  let files ← readFile (line.headD "")
  let result := Validator.run line environment files
  IO.print result.output
  IO.eprint result.errors
  return UInt32.ofNat result.exitCode

end AssetWatch.Shell

/-- Runs the program under whose name it was started. -/
def main (line : List String) : IO UInt32 := do
  if (← IO.appPath).fileName = some "validate-config" then AssetWatch.Shell.validator line
  else AssetWatch.Shell.agent line
