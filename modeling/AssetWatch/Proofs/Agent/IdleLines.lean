import AssetWatch.Proofs.Agent.Intake
import AssetWatch.Proofs.Agent.Verbosity
import AssetWatch.Proofs.Text.Blank

/-!
# Lines without an event

A line that is blank throughout, or that holds no event, is idle: the agent takes it in and goes
on as if it had not been there, but for one warning about a line that is not blank. So idle lines
may be put in and taken out anywhere, and whatever the other commands lead to, write and report
stays the same (`idle_lines_change_nothing`).
-/

namespace AssetWatch

namespace Event

/-- A line is blank if its characters are, and only then. -/
theorem ofLine_eq_blank_iff {line : List Char} : ofLine line = .blank ↔ Text.AllBlank line := by
  rw [← Text.trim_eq_nil_iff]
  unfold ofLine
  split
  next gone => exact iff_of_true rfl gone
  next visible =>
    refine iff_of_false (fun blank => ?_) visible
    split at blank <;> cases blank

/-- Blanks around a line do not matter. -/
theorem ofLine_padded {front back : List Char} (hfront : Text.AllBlank front)
    (hback : Text.AllBlank back) (line : List Char) :
    ofLine (front ++ line ++ back) = ofLine line := by
  rw [ofLine, ofLine, Text.trim_padded hfront hback]

end Event

namespace Agent

open Text

/-! ## What is seen of a run -/

namespace Command

/-- Whether the command is a line that is not blank and holds no event. -/
def isRejected : Command → Bool
  | line text => Event.ofLine text = .malformed
  | _ => false

/-- Whether the command is a line without an event. -/
def isIdle : Command → Bool
  | line text => Event.ofLine text = .blank || Event.ofLine text = .malformed
  | _ => false

end Command

/-- The commands without the idle lines. -/
def heeded (commands : List Command) : List Command :=
  commands.filter fun command => !command.isIdle

/-- A command that was carried out, and what came of it. -/
structure Move where
  command : Command
  /-- What became of the event, if the command is a line that holds one. -/
  outcome? : Option Outcome
  /-- The agent and the clock afterwards, with all that has been written. -/
  after : Scene
  log : List Diagnostic

namespace Scene

/-- What becomes of the event in a line that is taken in. -/
def outcome? (scene : Scene) : Command → Option Outcome
  | .line text =>
    match Event.ofLine text with
    | .event event => some (scene.monitor.handle scene.now event).value.2
    | _ => none
  | _ => none

/-- Carries out a command and looks at what comes of it. -/
def move (scene : Scene) (command : Command) : Move :=
  ⟨command, scene.outcome? command, scene.step command, (scene.take command).log⟩

/-- What comes of commands that are carried out one after the other. -/
def moves (scene : Scene) : List Command → List Move
  | [] => []
  | command :: rest => scene.move command :: (scene.step command).moves rest

/-- The reports that are made while commands are carried out. -/
def reports (scene : Scene) (commands : List Command) : List Diagnostic :=
  (scene.moves commands).flatMap Move.log

end Scene

/-! ## One command -/

/-- The report about a line without an event is made for no other reason. -/
theorem lineDropped_notMem_handle (monitor : Monitor) (now : Seconds) (event : Event) :
    Diagnostic.lineDropped ∉ (monitor.handle now event).log := by
  intro member
  have essential : Diagnostic.lineDropped ∈ essentials (monitor.cache.put now event).log :=
    List.mem_filter.2 ⟨by simpa [Monitor.handle] using member, rfl⟩
  cases event with
  | metric metric =>
    rw [Cache.put, Cache.essentials_log_putMetric] at essential
    split at essential <;> simp at essential
  | asset notice =>
    rw [Cache.put, Cache.essentials_log_putNotice] at essential
    cases essential

theorem lineDropped_notMem_tick (monitor : Monitor) (now : Seconds) :
    Diagnostic.lineDropped ∉ (monitor.tick now).log := by
  intro member
  have essential : Diagnostic.lineDropped ∈ essentials (monitor.tick now).log :=
    List.mem_filter.2 ⟨member, rfl⟩
  rw [Monitor.essentials_log_tick] at essential
  obtain ⟨transition, -, report⟩ := List.mem_map.1 essential
  cases transition <;> cases report

theorem reportOutcome_ne_lineDropped (outcome : Outcome) :
    reportOutcome outcome ≠ .lineDropped := by
  cases outcome with
  | removed name existed => cases existed <;> simp [reportOutcome]
  | _ => simp [reportOutcome]

namespace Scene

variable {command : Command}

/-- An idle line changes nothing, and a rejected one makes one report. -/
theorem take_of_isIdle (idle : command.isIdle = true) (scene : Scene) :
    scene.take command = ⟨scene, if command.isRejected then [.lineDropped] else []⟩ := by
  cases command with
  | line text =>
    cases held : Event.ofLine text with
    | blank => simp [take, Command.isRejected, held, takeLine_of_blank held]; rfl
    | malformed => simp [take, Command.isRejected, held, takeLine_of_malformed held]; rfl
    | event event => simp [Command.isIdle, held] at idle
  | _ => cases idle

theorem step_of_isIdle (idle : command.isIdle = true) (scene : Scene) :
    scene.step command = scene := by
  rw [step, take_of_isIdle idle]

theorem lineDropped_notMem_take (kept : command.isIdle = false) (scene : Scene) :
    Diagnostic.lineDropped ∉ (scene.take command).log := by
  cases command with
  | line text =>
    cases held : Event.ofLine text with
    | event event =>
      have other := reportOutcome_ne_lineDropped (scene.monitor.handle scene.now event).value.2
      simp [take, takeLine_of_event held, lineDropped_notMem_handle, other.symm]
    | _ => simp [Command.isIdle, held] at kept
  | check calendar => simp [take, log_checkBy, lineDropped_notMem_tick]
  | setClock now => simp [take]

end Scene

theorem Command.isRejected_eq_false {command : Command} (kept : command.isIdle = false) :
    command.isRejected = false := by
  cases command with
  | line text =>
    simp only [isIdle, Bool.or_eq_false_iff] at kept
    exact kept.2
  | _ => rfl

theorem heeded_cons_of_isIdle {command : Command} (idle : command.isIdle = true)
    (rest : List Command) : heeded (command :: rest) = heeded rest := by
  simp [heeded, idle]

theorem heeded_cons {command : Command} (kept : command.isIdle = false) (rest : List Command) :
    heeded (command :: rest) = command :: heeded rest := by
  simp [heeded, kept]

/-- Idle lines may be put in anywhere. -/
theorem heeded_insert {idle : List Command} (h : ∀ command ∈ idle, command.isIdle = true)
    (before after : List Command) : heeded (before ++ idle ++ after) = heeded (before ++ after) := by
  have none : heeded idle = [] := by
    apply List.filter_eq_nil_iff.2
    intro command member
    simp [h command member]
  have split (commands rest : List Command) :
      heeded (commands ++ rest) = heeded commands ++ heeded rest := List.filter_append _ _
  rw [split, split, none, List.append_nil, split]

/-! ## All commands -/

namespace Scene

/-- Commands lead where they lead without the idle lines. -/
theorem foldl_heeded (scene : Scene) (commands : List Command) :
    (heeded commands).foldl step scene = commands.foldl step scene := by
  induction commands generalizing scene with
  | nil => rfl
  | cons command rest ih =>
    cases idle : command.isIdle with
    | true => rw [heeded_cons_of_isIdle idle, List.foldl_cons, step_of_isIdle idle, ih]
    | false => rw [heeded_cons idle, List.foldl_cons, List.foldl_cons, ih]

/-- What comes of the other commands is what comes of them without the idle lines. -/
theorem moves_heeded (scene : Scene) (commands : List Command) :
    scene.moves (heeded commands) =
      (scene.moves commands).filter fun move => !move.command.isIdle := by
  induction commands generalizing scene with
  | nil => rfl
  | cons command rest ih =>
    cases idle : command.isIdle with
    | true =>
      rw [heeded_cons_of_isIdle idle, moves, step_of_isIdle idle, ih]
      simp [move, idle]
    | false =>
      rw [heeded_cons idle, moves, moves, ih]
      simp [move, idle]

theorem reports_cons (scene : Scene) (command : Command) (rest : List Command) :
    scene.reports (command :: rest) =
      (scene.take command).log ++ (scene.step command).reports rest :=
  List.flatMap_cons

/-- But for the reports about rejected lines those are made that are made without the idle
lines. -/
theorem otherReports_reports (scene : Scene) (commands : List Command) :
    otherReports (scene.reports commands) = scene.reports (heeded commands) := by
  induction commands generalizing scene with
  | nil => rfl
  | cons command rest ih =>
    cases idle : command.isIdle with
    | true =>
      rw [heeded_cons_of_isIdle idle, reports_cons, step_of_isIdle idle, take_of_isIdle idle, ← ih]
      cases command.isRejected <;> simp [otherReports]
    | false =>
      have others := lineDropped_notMem_take idle scene
      have kept : otherReports (scene.take command).log = (scene.take command).log := by
        refine List.filter_eq_self.2 fun report member => decide_eq_true ?_
        rintro rfl
        exact others member
      rw [heeded_cons idle, reports_cons, reports_cons, ← ih, otherReports, List.filter_append]
      exact congrArg (· ++ _) kept

/-- There is one report about each rejected line. -/
theorem count_lineDropped (scene : Scene) (commands : List Command) :
    (scene.reports commands).count .lineDropped = commands.countP Command.isRejected := by
  induction commands generalizing scene with
  | nil => rfl
  | cons command rest ih =>
    rw [reports_cons, List.count_append, ih, List.countP_cons]
    cases idle : command.isIdle with
    | true =>
      rw [take_of_isIdle idle]
      cases command.isRejected <;> simp [Nat.add_comm]
    | false =>
      rw [List.count_eq_zero.2 (lineDropped_notMem_take idle scene),
        Command.isRejected_eq_false idle]
      simp

end Scene

/-- Two runs that differ in nothing but idle lines, of which there may be any number anywhere,
agree on everything else: the other commands have the same outcomes, lead to the same monitor and
the same clock, write the same lines and make the same reports, and so do the runs as a whole. There
is one warning about each rejected line. A line is blank just if all its characters are; then it
does nothing. A rejected line makes the warning, and a line with an event does what the event does.
Blanks around a line do not matter. -/
theorem idle_lines_change_nothing (scene : Scene) (commands others : List Command)
    (same : heeded commands = heeded others) :
    ((scene.moves commands).filter fun move => !move.command.isIdle) =
        ((scene.moves others).filter fun move => !move.command.isIdle) ∧
      commands.foldl Scene.step scene = others.foldl Scene.step scene ∧
      otherReports (scene.reports commands) = otherReports (scene.reports others) ∧
      (scene.reports commands).count .lineDropped = commands.countP Command.isRejected ∧
      Diagnostic.lineDropped.entry.level = .warn ∧
      ∀ (monitor : Monitor) (now : Seconds) (line : List Char),
        (Event.ofLine line = .blank ↔ AllBlank line) ∧
        (Event.ofLine line = .blank → takeLine monitor now line = ⟨monitor, []⟩) ∧
        (Event.ofLine line = .malformed → takeLine monitor now line = ⟨monitor, [.lineDropped]⟩) ∧
        (∀ event, Event.ofLine line = .event event →
          (takeLine monitor now line).value = (monitor.handle now event).value.1 ∧
          (takeLine monitor now line).log = (monitor.handle now event).log ++
            [reportOutcome (monitor.handle now event).value.2]) ∧
        ∀ front back, AllBlank front → AllBlank back →
          Event.ofLine (front ++ line ++ back) = Event.ofLine line := by
  refine ⟨?_, ?_, ?_, scene.count_lineDropped commands, rfl, fun monitor now line => ?_⟩
  · rw [← scene.moves_heeded, same, scene.moves_heeded]
  · rw [← scene.foldl_heeded, same, scene.foldl_heeded]
  · rw [scene.otherReports_reports, same, scene.otherReports_reports]
  · refine ⟨Event.ofLine_eq_blank_iff, takeLine_of_blank, takeLine_of_malformed, ?_, ?_⟩
    · intro event held
      rw [takeLine_of_event held]
      exact ⟨rfl, rfl⟩
    · intro front back hfront hback
      exact Event.ofLine_padded hfront hback line

/-- A device is announced and falls silent. -/
def plainRun : List Command :=
  [.line (Event.asset (Monitor.sampleNotice ⟨"ups"⟩)).encode, .setClock 1200,
    .check fun _ => default]

/-- Wide blanks, the beginning of an object, and a notice without a name. -/
def idleLines : List Command :=
  [.line "\u2003 \u3000".toList, .line "\x7b\x22kind\x22:".toList,
    .line "[\x22asset\x22, null, \x22delete\x22]".toList]

/-- The idle lines after the notice leave two warnings behind and nothing else. -/
theorem idle_lines_leave_two_warnings :
    let scene := opening ⟨100, 1, false⟩ ⟨1000⟩
    let noisyRun := plainRun.take 1 ++ idleLines ++ plainRun.drop 1
    heeded noisyRun = heeded plainRun ∧
      noisyRun.foldl Scene.step scene = plainRun.foldl Scene.step scene ∧
      (scene.reports noisyRun).count .lineDropped = 2 := by
  intro scene noisyRun
  have idle : ∀ command ∈ idleLines, command.isIdle = true := by decide +kernel
  have same : heeded noisyRun = heeded plainRun :=
    heeded_insert idle (plainRun.take 1) (plainRun.drop 1)
  obtain ⟨-, after, -, dropped, -⟩ := idle_lines_change_nothing scene noisyRun plainRun same
  refine ⟨same, after, dropped.trans ?_⟩
  decide +kernel

end Agent

end AssetWatch
