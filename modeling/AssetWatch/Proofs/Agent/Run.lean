import AssetWatch.Agent
import AssetWatch.Clock
import AssetWatch.Proofs.Alert
import AssetWatch.Proofs.Monitor.Alternation
import AssetWatch.Proofs.Text.Utf8

/-!
# Runs of the agent

Lines of input, checks and changes of the clock follow one another in any order. Whatever has
been written so far is a sequence of lines that announce what the ticks have told, and about
each asset raised and resolved alternate; the outages that are open by the announcements are
the active ones (`output_tells_outages`).
-/

namespace AssetWatch.Agent

open Text AssetName Monitor

/-! ## Lines of output -/

/-- The alert that a line of output stands for, without its end. -/
def alert? (line : List UInt8) : Option Alert :=
  (Utf8.decode line).toOption.bind Alert.ofText?

/-- The bytes are whole lines, each with a newline at its end and nowhere else, and the lines
stand for the alerts. -/
def Announces (output : List UInt8) (alerts : List Alert) : Prop :=
  ∃ lines : List (List UInt8), output = lines.flatMap (· ++ [10]) ∧
    (∀ line ∈ lines, 10 ∉ line) ∧ lines.map alert? = alerts.map some

theorem announces_nil : Announces [] [] :=
  ⟨[], rfl, fun _ h => absurd h List.not_mem_nil, rfl⟩

theorem Announces.append {output more : List UInt8} {alerts others : List Alert}
    (h : Announces output alerts) (h' : Announces more others) :
    Announces (output ++ more) (alerts ++ others) := by
  obtain ⟨lines, rfl, single, read⟩ := h
  obtain ⟨lines', rfl, single', read'⟩ := h'
  refine ⟨lines ++ lines', List.flatMap_append.symm, fun line member => ?_, ?_⟩
  · exact (List.mem_append.1 member).elim (single line) (single' line)
  · rw [List.map_append, List.map_append, read, read']

/-- The bytes of the line of an alert stand for the alert. -/
theorem announces_line (alert : Alert) : Announces (Utf8.encode alert.line) [alert] := by
  refine ⟨[Utf8.encode alert.toJson.write], ?_, fun line member => ?_, ?_⟩
  · rw [Alert.line, Utf8.encode_append, Utf8.encode_newline, List.flatMap_singleton]
  · rw [List.mem_singleton.1 member]
    exact Utf8.newline_notMem_encode alert.newline_notMem_write
  · have read : alert? (Utf8.encode alert.toJson.write) = some alert := by
      rw [alert?, Utf8.decode_encode, Except.toOption, Option.bind_some, alert.ofText?_write]
    rw [List.map_singleton, List.map_singleton, read]

theorem announces_lines (alerts : List Alert) :
    Announces (Utf8.encode (alerts.map Alert.line).flatten) alerts := by
  induction alerts with
  | nil => exact announces_nil
  | cons alert alerts ih =>
    rw [List.map_cons, List.flatten_cons, Utf8.encode_append]
    exact (announces_line alert).append ih

theorem payload_alerts (calendar : Nat → Calendar.Timestamp) (transitions : List Transition) :
    (alerts calendar transitions).map Alert.payload = transitions := by
  refine List.ext_getElem? fun i => ?_
  rw [alerts, List.getElem?_map, List.getElem?_mapIdx, Option.map_map]
  cases transitions[i]? <;> rfl

/-! ## Runs -/

/-- What can happen to the agent and to the clock that it goes by. -/
inductive Command
  /-- A line of input is taken in. -/
  | line (text : List Char)
  /-- A check, and what the calendar shows at each alert. -/
  | check (calendar : Nat → Calendar.Timestamp)
  /-- The clock shows another instant from now on, be it earlier or later. -/
  | setClock (now : Seconds)

/-- The agent, the clock that it goes by, and what has come of the checks so far. -/
structure Scene where
  monitor : Monitor
  clock : Clock
  /-- The bytes that have been written. -/
  output : List UInt8
  /-- What the ticks have told. -/
  told : List Transition

namespace Scene

/-- What the clock shows. -/
def now (scene : Scene) : Seconds := scene.clock.now

/-- Carries out a command, with the reports that it makes. -/
def take (scene : Scene) : Command → Logged Scene
  | .line text => do
    let monitor ← takeLine scene.monitor scene.now text
    return { scene with monitor := monitor }
  | .check calendar => do
    let (monitor, lines) ← checkBy scene.monitor scene.now calendar
    return { scene with
      monitor := monitor
      output := scene.output ++ Utf8.encode lines.flatten
      told := scene.told ++ (scene.monitor.tick scene.now).value.2 }
  | .setClock now => return { scene with clock := scene.clock.set now }

/-- Carries out a command. -/
def step (scene : Scene) (command : Command) : Scene := (scene.take command).value

end Scene

/-- The agent at its start. -/
def opening (settings : Settings) (clock : Clock) : Scene :=
  ⟨(Monitor.new settings).value, clock, [], []⟩

/-- Where commands lead from the start of the agent. -/
def course (settings : Settings) (clock : Clock) (commands : List Command) : Scene :=
  commands.foldl Scene.step (opening settings clock)

/-! ## One step -/

section Line

variable {monitor : Monitor} {now : Seconds} {line : List Char}

theorem takeLine_of_blank (h : Event.ofLine line = .blank) :
    takeLine monitor now line = ⟨monitor, []⟩ := by
  rw [takeLine, h]
  rfl

theorem takeLine_of_malformed (h : Event.ofLine line = .malformed) :
    takeLine monitor now line = ⟨monitor, [.lineDropped]⟩ := by
  rw [takeLine, h]
  rfl

/-- A line that holds an event does what the event does, and its outcome is reported. -/
theorem takeLine_of_event {event : Event} (h : Event.ofLine line = .event event) :
    takeLine monitor now line =
      ⟨(monitor.handle now event).value.1,
        (monitor.handle now event).log ++ [reportOutcome (monitor.handle now event).value.2]⟩ := by
  rw [takeLine, h]
  rfl

end Line

/-- Lines of input leave the active assets as they are. -/
theorem active_takeLine (monitor : Monitor) (now : Seconds) (text : List Char) :
    (takeLine monitor now text).value.active = monitor.active := by
  unfold takeLine
  cases Event.ofLine text <;> rfl

/-- What has been written and told so far agrees with the active assets. -/
structure Scene.Consistent (scene : Scene) : Prop where
  ascending : Ascending scene.monitor.active
  announced : ∃ alerts, Announces scene.output alerts ∧ alerts.map Alert.payload = scene.told
  alternating : ∀ name, Alternating (about name scene.told)
  active : ∀ name, EndsRaised (about name scene.told) ↔ name ∈ scene.monitor.active

theorem Scene.Consistent.step {scene : Scene} (h : scene.Consistent) (command : Command) :
    (scene.step command).Consistent := by
  cases command with
  | line text =>
    have same : (scene.step (.line text)).monitor.active = scene.monitor.active :=
      active_takeLine _ _ _
    exact ⟨same ▸ h.ascending, h.announced, h.alternating, fun name => same ▸ h.active name⟩
  | setClock now => exact ⟨h.ascending, h.announced, h.alternating, h.active⟩
  | check calendar =>
    have tells := tells_tick h.ascending scene.now
    have active : (scene.step (.check calendar)).monitor.active =
        scene.monitor.cache.expired scene.now :=
      congrArg (fun ticked => ticked.1.active) (value_tick scene.monitor scene.now)
    have goes := fun name => (h.alternating name).append (h.active name) tells
      fun ⟨instant, found, _⟩ => ⟨instant, found⟩
    refine ⟨active ▸ Cache.ascending_expired _ _, ?_, fun name => ?_, fun name => ?_⟩
    · obtain ⟨written, announced, payloads⟩ := h.announced
      refine ⟨written ++ alerts calendar (scene.monitor.tick scene.now).value.2, ?_, ?_⟩
      · exact announced.append (announces_lines _)
      · rw [List.map_append, payloads, payload_alerts]
        rfl
    · exact about_append name _ _ ▸ (goes name).1
    · rw [active, Cache.mem_expired]
      exact about_append name _ _ ▸ (goes name).2

@[simp] theorem course_concat (settings : Settings) (clock : Clock) (commands : List Command)
    (command : Command) :
    course settings clock (commands ++ [command]) =
      (course settings clock commands).step command := by
  simp [course, List.foldl_append]

theorem consistent_course (settings : Settings) (clock : Clock) (commands : List Command) :
    (course settings clock commands).Consistent := by
  induction commands using List.reverseRecOn with
  | nil =>
    refine ⟨List.Pairwise.nil, ⟨[], announces_nil, rfl⟩, fun _ => alternating_nil, fun name => ?_⟩
    exact iff_of_false not_endsRaised_nil List.not_mem_nil
  | append_singleton commands command ih =>
    rw [course_concat]
    exact ih.step command

/-- Whatever lines come in and whenever checks are made, what has been written is a sequence of
lines that stand for alerts, and their payloads are what the ticks have told, in order. The
alerts about any asset alternate, beginning with a raised outage, and the assets about which
the latest alert has raised one are the active ones. -/
theorem output_tells_outages (settings : Settings) (clock : Clock) (commands : List Command) :
    let scene := course settings clock commands
    ∃ alerts : List Alert, Announces scene.output alerts ∧
      alerts.map Alert.payload = scene.told ∧
      ∀ name, Alternating (about name (alerts.map Alert.payload)) ∧
        (name ∈ scene.monitor.active ↔ EndsRaised (about name (alerts.map Alert.payload))) := by
  intro scene
  have consistent := consistent_course settings clock commands
  obtain ⟨alerts, announced, payloads⟩ := consistent.announced
  refine ⟨alerts, announced, payloads, fun name => ?_⟩
  rw [payloads]
  exact ⟨consistent.alternating name, (consistent.active name).symm⟩

end AssetWatch.Agent
