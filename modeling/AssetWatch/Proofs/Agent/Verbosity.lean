import AssetWatch.Agent
import AssetWatch.Proofs.Cache.Verbosity
import AssetWatch.Proofs.Monitor.History

/-!
# Verbosity only observes

An agent, the monitor in it and the cache in that are asked things in any order, and the verbosity
is changed from time to time. What is answered, what is known afterwards and what is reported,
apart from the details of a verbose cache, do not depend on the verbosity: the scene may be muted
before any request (`observe_muted`), so two runs that differ in nothing but verbosity cannot be
told apart (`verbosity_only_observes`).
-/

namespace AssetWatch

/-- The report that tells of a transition. -/
def Transition.report (cache : Cache) : Transition → Diagnostic
  | raised asset expiredAt => .outageRaised asset expiredAt
  | resolved asset => .outageResolved asset (cache.contains asset)

/-- The log entry that tells of a transition. The cache says whether an asset whose outage is over
is still watched. -/
def Transition.entry (cache : Cache) : Transition → Log.Entry
  | raised asset expiredAt =>
    ⟨.warn, "outage_core::monitor", "Asset is not responding",
      [("asset", .shown asset.text), ("expired_at", .number expiredAt.toNat)]⟩
  | resolved asset =>
    ⟨.info, "outage_core::monitor", "Outage resolved",
      [("asset", .shown asset.text), ("tracked", .flag (cache.contains asset))]⟩

theorem Transition.entry_report (cache : Cache) (transition : Transition) :
    (transition.report cache).entry = transition.entry cache := by
  cases transition <;> rfl

namespace Monitor

/-- The monitor as it would be if its cache were not verbose. -/
def muted (monitor : Monitor) : Monitor := { monitor with cache := monitor.cache.muted }

/-- The scene as it would be if the cache were not verbose. -/
def Scene.muted (scene : Scene) : Scene := { scene with monitor := scene.monitor.muted }

/-- Apart from details a tick reports the transitions that it tells. -/
theorem essentials_log_tick (monitor : Monitor) (now : Seconds) :
    essentials (monitor.tick now).log =
      (monitor.tick now).value.2.map (Transition.report monitor.cache) := by
  have plain (transitions : List Transition) :
      essentials (transitions.map (Transition.report monitor.cache)) =
        transitions.map (Transition.report monitor.cache) := by
    apply essentials_eq_self
    intro diagnostic member
    obtain ⟨transition, -, rfl⟩ := List.mem_map.1 member
    cases transition <;> rfl
  rw [← plain, value_tick]
  simp only [tick, Logged.log_bind, Logged.log_reportAll, Logged.log_pure, essentials_append,
    Cache.essentials_log_findExpired, Cache.value_findExpired, List.map_append, List.map_map,
    List.nil_append, List.append_nil, Function.comp_def, Transition.report]

theorem value_tick_muted (monitor : Monitor) (now : Seconds) :
    (monitor.muted.tick now).value =
      ((monitor.tick now).value.1.muted, (monitor.tick now).value.2) := by
  rw [value_tick, value_tick]
  rfl

theorem essentials_log_tick_muted (monitor : Monitor) (now : Seconds) :
    essentials (monitor.muted.tick now).log = essentials (monitor.tick now).log := by
  rw [essentials_log_tick, essentials_log_tick, value_tick_muted]
  rfl

theorem value_handle_muted (monitor : Monitor) (now : Seconds) (event : Event) :
    (monitor.muted.handle now event).value =
      ((monitor.handle now event).value.1.muted, (monitor.handle now event).value.2) := by
  have put := monitor.cache.value_put_muted now event
  simp only [handle, muted, Logged.value_bind, Logged.value_pure, put]

theorem essentials_log_handle_muted (monitor : Monitor) (now : Seconds) (event : Event) :
    essentials (monitor.muted.handle now event).log =
      essentials (monitor.handle now event).log := by
  have put := monitor.cache.essentials_log_put_muted now event
  simp only [handle, muted, Logged.log_bind, Logged.log_pure, List.append_nil, put]

end Monitor

namespace Agent

open Monitor

/-! ## Requests -/

/-- What can be asked of an agent, of the monitor in it, of the cache in that, and of the clock. -/
inductive Request
  /-- A line of input is to be taken in. -/
  | line (text : List Char)
  /-- A check is to be made, with what the calendar shows at each alert. -/
  | check (calendar : Nat → Calendar.Timestamp)
  | handle (event : Event)
  | tick
  | findExpired
  | behind (command : Cache.Command)

/-- What a request is answered. -/
inductive Answer
  | lines (lines : List (List Char))
  | outcome (outcome : Outcome)
  | transitions (transitions : List Transition)
  | names (names : List AssetName)
  | behind (answer : Cache.Answer)
  /-- There is nothing to say. -/
  | done

/-- Whether a request is about nothing but verbosity. -/
def Request.setsVerbosity : Request → Bool
  | behind (.setVerbose _) => true
  | _ => false

/-- Complies with a request: the scene that it leads to and the answer, with the reports. -/
def obey (scene : Monitor.Scene) : Request → Logged (Monitor.Scene × Answer)
  | .line text => do
    let monitor ← takeLine scene.monitor scene.now text
    return ({ scene with monitor := monitor }, .done)
  | .check calendar => do
    let (monitor, lines) ← checkBy scene.monitor scene.now calendar
    return ({ scene with monitor := monitor }, .lines lines)
  | .handle event => do
    let (monitor, outcome) ← scene.monitor.handle scene.now event
    return ({ scene with monitor := monitor }, .outcome outcome)
  | .tick => do
    let (monitor, transitions) ← scene.monitor.tick scene.now
    return ({ scene with monitor := monitor }, .transitions transitions)
  | .findExpired => do
    let names ← scene.monitor.cache.findExpired scene.now
    return (scene, .names names)
  | .behind command => do
    let (after, answer) ← scene.behind.take command
    return (⟨{ scene.monitor with cache := after.cache }, after.clock⟩, .behind answer)

/-- What is seen of a request if verbosity is left out of account. -/
structure Observation where
  answer : Answer
  /-- The scene afterwards, muted. -/
  after : Monitor.Scene
  /-- The reports without details. -/
  log : List Diagnostic

/-- Looks at what becomes of a request. -/
def observe (scene : Monitor.Scene) (request : Request) : Observation where
  answer := (obey scene request).value.2
  after := (obey scene request).value.1.muted
  log := essentials (obey scene request).log

/-- What is seen of requests that are made one after the other. Those that are about verbosity
are not looked at. -/
def observationsFrom (scene : Monitor.Scene) : List Request → List Observation
  | [] => []
  | request :: rest =>
    (if request.setsVerbosity then [] else [observe scene request]) ++
      observationsFrom (obey scene request).value.1 rest

/-- What is seen of requests to a new agent. -/
def observations (settings : Settings) (clock : Clock) (requests : List Request) :
    List Observation :=
  observationsFrom ⟨(Monitor.new settings).value, clock⟩ requests

/-- The requests without those that are about verbosity. -/
def unspoken (requests : List Request) : List Request :=
  requests.filter fun request => !request.setsVerbosity

/-! ## One request -/

theorem value_takeLine_muted (monitor : Monitor) (now : Seconds) (text : List Char) :
    (takeLine monitor.muted now text).value = (takeLine monitor now text).value.muted := by
  unfold takeLine
  cases Event.ofLine text with
  | blank => rfl
  | malformed => rfl
  | event event =>
    simp only [Logged.value_bind, Logged.value_pure, value_handle_muted]

theorem essentials_log_takeLine_muted (monitor : Monitor) (now : Seconds) (text : List Char) :
    essentials (takeLine monitor.muted now text).log =
      essentials (takeLine monitor now text).log := by
  unfold takeLine
  cases Event.ofLine text with
  | blank => rfl
  | malformed => rfl
  | event event =>
    simp only [Logged.log_bind, Logged.log_pure, Logged.log_report, essentials_append,
      value_handle_muted, essentials_log_handle_muted]

/-- The log of a check is that of the tick in it. -/
theorem log_checkBy (monitor : Monitor) (now : Seconds) (calendar : Nat → Calendar.Timestamp) :
    (checkBy monitor now calendar).log = (monitor.tick now).log := by
  rw [checkBy, Logged.log_bind]
  exact List.append_nil _

/-- A muted scene gives the same answer, and but for verbosity it leads to the same scene. -/
theorem value_obey_muted (scene : Monitor.Scene) (request : Request) :
    (obey scene.muted request).value.1.muted = (obey scene request).value.1.muted ∧
      (obey scene.muted request).value.2 = (obey scene request).value.2 := by
  cases request with
  | line text =>
    have taken := value_takeLine_muted scene.monitor scene.now text
    have after := congrArg (fun monitor => Monitor.Scene.muted ⟨monitor, scene.clock⟩) taken
    exact ⟨after, rfl⟩
  | check calendar =>
    have ticked := value_tick_muted scene.monitor scene.now
    constructor
    · exact congrArg (fun ticked => Monitor.Scene.muted ⟨ticked.1, scene.clock⟩) ticked
    · exact congrArg (fun ticked => Answer.lines ((alerts calendar ticked.2).map Alert.line)) ticked
  | handle event =>
    have handled := value_handle_muted scene.monitor scene.now event
    constructor
    · exact congrArg (fun handled => Monitor.Scene.muted ⟨handled.1, scene.clock⟩) handled
    · exact congrArg (fun handled => Answer.outcome handled.2) handled
  | tick =>
    have ticked := value_tick_muted scene.monitor scene.now
    constructor
    · exact congrArg (fun ticked => Monitor.Scene.muted ⟨ticked.1, scene.clock⟩) ticked
    · exact congrArg (fun ticked => Answer.transitions ticked.2) ticked
  | findExpired =>
    refine ⟨rfl, congrArg Answer.names ?_⟩
    rw [Cache.value_findExpired, Cache.value_findExpired]
    rfl
  | behind command =>
    obtain ⟨after, answer⟩ := scene.behind.value_take_muted command
    constructor
    · exact congrArg (fun after : Cache.Scene =>
        Monitor.Scene.mk { scene.monitor with cache := after.cache } after.clock) after
    · exact congrArg Answer.behind answer

/-- The log of a request is that of the operation that answers it. -/
theorem log_obey (scene : Monitor.Scene) (request : Request) :
    (obey scene request).log =
      match request with
      | .line text => (takeLine scene.monitor scene.now text).log
      | .check _ => (scene.monitor.tick scene.now).log
      | .handle event => (scene.monitor.handle scene.now event).log
      | .tick => (scene.monitor.tick scene.now).log
      | .findExpired => (scene.monitor.cache.findExpired scene.now).log
      | .behind command => (scene.behind.take command).log := by
  cases request with
  | check calendar =>
    rw [obey, Logged.log_bind, log_checkBy]
    exact List.append_nil _
  | _ =>
    rw [obey, Logged.log_bind]
    exact List.append_nil _

theorem essentials_log_obey_muted (scene : Monitor.Scene) (request : Request) :
    essentials (obey scene.muted request).log = essentials (obey scene request).log := by
  rw [log_obey, log_obey]
  cases request with
  | line text => exact essentials_log_takeLine_muted scene.monitor scene.now text
  | check calendar => exact essentials_log_tick_muted scene.monitor scene.now
  | handle event => exact essentials_log_handle_muted scene.monitor scene.now event
  | tick => exact essentials_log_tick_muted scene.monitor scene.now
  | findExpired => rw [Cache.essentials_log_findExpired, Cache.essentials_log_findExpired]
  | behind command => exact scene.behind.essentials_log_take_muted command

/-- What is seen of a request does not depend on the verbosity. -/
theorem observe_muted (scene : Monitor.Scene) (request : Request) :
    observe scene.muted request = observe scene request := by
  obtain ⟨after, answer⟩ := value_obey_muted scene request
  rw [observe, observe, after, answer, essentials_log_obey_muted]

theorem observe_congr {one other : Monitor.Scene} (alike : one.muted = other.muted)
    (request : Request) : observe one request = observe other request := by
  rw [← observe_muted one, alike, observe_muted]

/-- A request about verbosity changes nothing else. -/
theorem muted_obey_of_setsVerbosity {request : Request} (h : request.setsVerbosity = true)
    (scene : Monitor.Scene) : (obey scene request).value.1.muted = scene.muted := by
  cases request with
  | behind command =>
    cases command with
    | setVerbose verbose => rfl
    | _ => cases h
  | _ => cases h

/-! ## Runs -/

/-- Scenes that differ in nothing but verbosity cannot be told apart by any requests. -/
theorem observationsFrom_congr {one other : Monitor.Scene} (alike : one.muted = other.muted)
    (requests : List Request) :
    observationsFrom one requests = observationsFrom other requests := by
  induction requests generalizing one other with
  | nil => rfl
  | cons request rest ih =>
    have seen := observe_congr alike request
    have after : (obey one request).value.1.muted = (obey other request).value.1.muted :=
      congrArg Observation.after seen
    rw [observationsFrom, observationsFrom, seen, ih after]

/-- Requests that are about verbosity can be left out. -/
theorem observationsFrom_unspoken (scene : Monitor.Scene) (requests : List Request) :
    observationsFrom scene (unspoken requests) = observationsFrom scene requests := by
  induction requests generalizing scene with
  | nil => rfl
  | cons request rest ih =>
    rw [observationsFrom]
    cases sets : request.setsVerbosity with
    | true =>
      have same := muted_obey_of_setsVerbosity sets scene
      rw [unspoken, List.filter_cons_of_neg (by simp [sets]), if_pos rfl, List.nil_append,
        observationsFrom_congr same]
      exact ih scene
    | false =>
      rw [unspoken, List.filter_cons_of_pos (by simp [sets]), observationsFrom, sets]
      exact congrArg _ (ih _)

/-- Two runs of a new agent that differ in nothing but verbosity, be it at the start or later on,
cannot be told apart: each request is answered alike and leaves the same records, default expiry,
active assets and clock, and the reports are the same but for the details of a verbose cache. What
a check reports apart from details are the transitions that it tells, one report for each and in
their order. The log entry of an outage that has begun is a warning with the asset and the instant
at which it expired; that of an outage that is over is an information with the asset and whether
the cache still watches it. -/
theorem verbosity_only_observes (settings : Settings) (verbose verbose' : Bool) (clock : Clock)
    (requests others : List Request) (same : unspoken requests = unspoken others) :
    observations { settings with verbose := verbose } clock requests =
        observations { settings with verbose := verbose' } clock others ∧
      ∀ (monitor : Monitor) (now : Seconds) (calendar : Nat → Calendar.Timestamp),
        let checked := checkBy monitor now calendar
        essentials checked.log = (monitor.tick now).value.2.map
            (Transition.report checked.value.1.cache) ∧
          (essentials checked.log).map Diagnostic.entry = (monitor.tick now).value.2.map
            (Transition.entry checked.value.1.cache) ∧
          ∀ diagnostic ∈ essentials checked.log,
            diagnostic.entry.level = .info ∨ diagnostic.entry.level = .warn := by
  constructor
  · rw [observations, observations, ← observationsFrom_unspoken _ requests, same,
      observationsFrom_unspoken]
    refine observationsFrom_congr ?_ others
    -- Muted, new monitors are the same whatever the settings say about verbosity.
    rfl
  · intro monitor now calendar checked
    have reported : essentials checked.log = (monitor.tick now).value.2.map
        (Transition.report checked.value.1.cache) := by
      rw [log_checkBy, essentials_log_tick]
      rfl
    have entries := congrArg (List.map Diagnostic.entry) reported
    simp only [List.map_map, Function.comp_def, Transition.entry_report] at entries
    refine ⟨reported, entries, ?_⟩
    intro diagnostic member
    rw [reported] at member
    obtain ⟨transition, -, rfl⟩ := List.mem_map.1 member
    cases transition with
    | raised asset expiredAt => exact .inr rfl
    | resolved asset => exact .inl rfl

/-- A device is announced, falls silent and is heard of again. -/
def silentSpell : List Request :=
  [.handle (.asset (sampleNotice ⟨"ups"⟩)), .behind (.setClock 1200), .check fun _ => default,
    .handle (.metric (sampleMetric ⟨"ups"⟩ 50 none)), .tick]

/-- The same, and the cache is made verbose on the way. -/
def loudSpell : List Request :=
  [.handle (.asset (sampleNotice ⟨"ups"⟩)), .behind (.setVerbose true), .behind (.setClock 1200),
    .check fun _ => default, .behind (.setVerbose false),
    .handle (.metric (sampleMetric ⟨"ups"⟩ 50 none)), .behind (.setVerbose true), .tick]

theorem loud_spell_looks_silent :
    unspoken loudSpell = unspoken silentSpell ∧
      observations ⟨100, 1, true⟩ ⟨1000⟩ loudSpell =
        observations ⟨100, 1, false⟩ ⟨1000⟩ silentSpell ∧
      (observations ⟨100, 1, true⟩ ⟨1000⟩ loudSpell).map Observation.log =
        [[], [], [.outageRaised ⟨"ups"⟩ 1200], [], [.outageResolved ⟨"ups"⟩ true]] := by
  refine ⟨rfl, ?_, by decide +kernel⟩
  exact (verbosity_only_observes ⟨100, 1, false⟩ true false ⟨1000⟩ loudSpell silentSpell rfl).1

end Agent

end AssetWatch
