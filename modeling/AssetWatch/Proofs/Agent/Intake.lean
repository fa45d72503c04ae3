import AssetWatch.Agent.Process
import AssetWatch.Proofs.Agent.Run
import Mathlib.Data.List.TakeWhile

/-!
# Taking in the input

The agent takes in its input line by line, and between the lines it makes checks whenever they
are due. A line of text that holds no event is reported and nothing else comes of it, a blank
line not even that. A line that is no text ends the run (`intake_ends_at_fault`), although
nothing that comes in is meant to stop the agent.
-/

namespace AssetWatch.Agent

open Text

/-! ## Turns -/

/-- What the agent does between two lines. -/
inductive Pause
  /-- A check, and what the calendar shows at each alert. -/
  | check (calendar : Nat → Calendar.Timestamp)
  /-- The clock shows another instant from now on. -/
  | setClock (now : Seconds)

/-- The command of a pause. -/
def Pause.command : Pause → Command
  | check calendar => .check calendar
  | setClock now => .setClock now

/-- What the agent at work turns to. -/
inductive Turn
  /-- The next line of the input, with its end. -/
  | input (bytes : List UInt8)
  | pause (pause : Pause)

namespace Turn

/-- The fault of a line that is no text. -/
def fault? : Turn → Option Utf8.Fault
  | input bytes =>
    match Utf8.decode (withoutEnd bytes) with
    | .error fault => some fault
    | .ok _ => none
  | pause _ => none

/-- What a line of text holds. -/
def line? : Turn → Option Event.Line
  | input bytes => (Utf8.decode (withoutEnd bytes)).toOption.map Event.ofLine
  | pause _ => none

/-- Whether the turn is no line or a line of text. -/
def isSound (turn : Turn) : Bool := turn.fault?.isNone

/-- Whether the turn is a line of text that is not blank and holds no event. -/
def isMalformed (turn : Turn) : Bool := turn.line? = some .malformed

/-- Whether the turn is a line of text without an event. -/
def isIdle (turn : Turn) : Bool := turn.line? = some .blank || turn.isMalformed

end Turn

/-- The lines of the input in order, with the pauses before each of them and after the last. -/
def turnsOf (pauses : Nat → List Pause) : List (List UInt8) → List Turn
  | [] => (pauses 0).map .pause
  | line :: rest =>
    (pauses 0).map .pause ++ .input line :: turnsOf (fun i => pauses (i + 1)) rest

namespace Scene

/-- Takes a turn. A line that is no text is a fault. -/
def turn (scene : Scene) : Turn → Logged (Scene × Option Utf8.Fault)
  | .input bytes => do
    let (monitor, fault) ← takeLines scene.monitor scene.now [bytes]
    return ({ scene with monitor := monitor }, fault)
  | .pause pause => do return (← scene.take pause.command, none)

/-- Takes turns until there are no more or one of them is a fault. -/
def work (scene : Scene) : List Turn → Logged (Scene × Option Utf8.Fault)
  | [] => return (scene, none)
  | turn :: rest => do
    match ← scene.turn turn with
    | (scene, some fault) => return (scene, some fault)
    | (scene, none) => scene.work rest

end Scene

/-! ## One turn -/

theorem takeLines_singleton_fault {bytes : List UInt8} {fault : Utf8.Fault}
    (h : Utf8.decode (withoutEnd bytes) = .error fault) (monitor : Monitor) (now : Seconds) :
    takeLines monitor now [bytes] = ⟨(monitor, some fault), []⟩ := by
  rw [takeLines, h]
  rfl

theorem takeLines_singleton {bytes : List UInt8} {text : List Char}
    (h : Utf8.decode (withoutEnd bytes) = .ok text) (monitor : Monitor) (now : Seconds) :
    takeLines monitor now [bytes] = do return (← takeLine monitor now text, none) := by
  rw [takeLines, h]
  rfl

theorem Turn.exists_of_line? {turn : Turn} {line : Event.Line} (h : turn.line? = some line) :
    ∃ bytes text, turn = .input bytes ∧ Utf8.decode (withoutEnd bytes) = .ok text ∧
      Event.ofLine text = line := by
  cases turn with
  | input bytes =>
    cases decoded : Utf8.decode (withoutEnd bytes) with
    | error fault => simp [line?, decoded, Except.toOption] at h
    | ok text =>
      have held : Event.ofLine text = line := by simpa [line?, decoded, Except.toOption] using h
      exact ⟨bytes, text, rfl, decoded, held⟩
  | pause pause => cases h

theorem Scene.fault_turn (scene : Scene) (turn : Turn) :
    (scene.turn turn).value.2 = turn.fault? := by
  cases turn with
  | input bytes =>
    cases decoded : Utf8.decode (withoutEnd bytes) with
    | error fault => rw [Scene.turn, takeLines_singleton_fault decoded, Turn.fault?, decoded]; rfl
    | ok text => rw [Scene.turn, takeLines_singleton decoded, Turn.fault?, decoded]; rfl
  | pause pause => rfl

/-- A line that is no text changes nothing. -/
theorem Scene.turn_fault {turn : Turn} {fault : Utf8.Fault} (h : turn.fault? = some fault)
    (scene : Scene) : scene.turn turn = ⟨(scene, some fault), []⟩ := by
  cases turn with
  | input bytes =>
    cases decoded : Utf8.decode (withoutEnd bytes) with
    | error other =>
      simp only [Turn.fault?, decoded, Option.some.injEq] at h
      rw [Scene.turn, takeLines_singleton_fault decoded, h]
      rfl
    | ok text => simp [Turn.fault?, decoded] at h
  | pause pause => cases h

/-- A line that holds no event is reported and changes nothing. -/
theorem Scene.turn_malformed {turn : Turn} (h : turn.line? = some .malformed) (scene : Scene) :
    scene.turn turn = ⟨(scene, none), [.lineDropped]⟩ := by
  obtain ⟨bytes, text, rfl, decoded, held⟩ := Turn.exists_of_line? h
  rw [Scene.turn, takeLines_singleton decoded, takeLine_of_malformed held]
  rfl

/-- A blank line changes nothing. -/
theorem Scene.turn_blank {turn : Turn} (h : turn.line? = some .blank) (scene : Scene) :
    scene.turn turn = ⟨(scene, none), []⟩ := by
  obtain ⟨bytes, text, rfl, decoded, held⟩ := Turn.exists_of_line? h
  rw [Scene.turn, takeLines_singleton decoded, takeLine_of_blank held]
  rfl

/-! ## All turns -/

namespace Scene

theorem work_cons_fault {turn : Turn} {fault : Utf8.Fault} (h : turn.fault? = some fault)
    (scene : Scene) (rest : List Turn) :
    scene.work (turn :: rest) = ⟨(scene, some fault), []⟩ := by
  rw [work, turn_fault h]
  rfl

theorem work_cons {turn : Turn} (h : turn.fault? = none) (scene : Scene) (rest : List Turn) :
    scene.work (turn :: rest) =
      ⟨((scene.turn turn).value.1.work rest).value,
        (scene.turn turn).log ++ ((scene.turn turn).value.1.work rest).log⟩ := by
  have sound := (scene.fault_turn turn).trans h
  rw [work]
  generalize scene.turn turn = taken at sound ⊢
  obtain ⟨⟨after, fault⟩, log⟩ := taken
  cases sound
  rfl

/-- Work ends with the first fault, if there is one. -/
theorem fault_work (scene : Scene) (turns : List Turn) :
    (scene.work turns).value.2 = turns.findSome? Turn.fault? := by
  induction turns generalizing scene with
  | nil => rfl
  | cons turn rest ih =>
    cases fault : turn.fault? with
    | some found => rw [work_cons_fault fault, List.findSome?_cons_of_isSome] <;> simp [fault]
    | none => rw [work_cons fault, List.findSome?_cons_of_isNone (by simp [fault]), ih]

end Scene

/-- The turns before the first fault. -/
def heard (turns : List Turn) : List Turn := turns.takeWhile Turn.isSound

/-- The turns before the first fault without the lines that bring no event. -/
def useful (turns : List Turn) : List Turn := (heard turns).filter fun turn => !turn.isIdle

/-- The reports other than those about lines without an event. -/
def otherReports (log : List Diagnostic) : List Diagnostic :=
  log.filter fun report => report ≠ .lineDropped

theorem useful_cons_fault {turn : Turn} {fault : Utf8.Fault} (h : turn.fault? = some fault)
    (rest : List Turn) : useful (turn :: rest) = [] := by
  simp [useful, heard, Turn.isSound, h]

theorem heard_cons {turn : Turn} (h : turn.fault? = none) (rest : List Turn) :
    heard (turn :: rest) = turn :: heard rest := by
  simp [heard, Turn.isSound, h]

theorem useful_cons {turn : Turn} (h : turn.fault? = none) (rest : List Turn) :
    useful (turn :: rest) = if turn.isIdle then useful rest else turn :: useful rest := by
  rw [useful, heard_cons h, List.filter_cons]
  cases turn.isIdle <;> rfl

/-- Up to the first fault work leads where it leads without the lines that bring no event, and
the same reports are made, but for one about each malformed line. -/
theorem Scene.work_useful (scene : Scene) (turns : List Turn) :
    (scene.work turns).value.1 = (scene.work (useful turns)).value.1 ∧
      otherReports (scene.work turns).log = otherReports (scene.work (useful turns)).log ∧
      (scene.work turns).log.count .lineDropped =
        (scene.work (useful turns)).log.count .lineDropped +
          (heard turns).countP Turn.isMalformed := by
  induction turns generalizing scene with
  | nil => exact ⟨rfl, rfl, rfl⟩
  | cons turn rest ih =>
    cases fault : turn.fault? with
    | some found =>
      rw [work_cons_fault fault, useful_cons_fault fault]
      simp [work, heard, Turn.isSound, fault]
    | none =>
      rw [work_cons fault, useful_cons fault, heard_cons fault]
      by_cases malformed : turn.line? = some .malformed
      · obtain ⟨same, reports, count⟩ := ih scene
        have dropped : turn.isMalformed = true := decide_eq_true malformed
        have idle : turn.isIdle = true := by rw [Turn.isIdle, dropped, Bool.or_true]
        rw [turn_malformed malformed, if_pos idle, List.countP_cons_of_pos dropped]
        refine ⟨same, reports, ?_⟩
        rw [List.count_append, count]
        exact Nat.add_comm 1 _
      have kept : turn.isMalformed = false := decide_eq_false malformed
      rw [List.countP_cons_of_neg (by simp [kept])]
      by_cases blank : turn.line? = some .blank
      · have idle : turn.isIdle = true := by simp [Turn.isIdle, blank]
        rw [turn_blank blank, if_pos idle]
        exact ih scene
      · have busy : ¬turn.isIdle = true := by simp [Turn.isIdle, blank, kept]
        obtain ⟨same, reports, count⟩ := ih (scene.turn turn).value.1
        rw [if_neg busy, work_cons fault]
        refine ⟨same, ?_, ?_⟩
        · simp only [otherReports, List.filter_append] at reports ⊢
          rw [reports]
        · simp only [List.count_append, count, Nat.add_assoc]

/-! ## The whole input -/

/-- Whether bytes are a text. -/
def IsText (bytes : List UInt8) : Prop := ∃ text, Utf8.decode bytes = .ok text

theorem fault_input_eq_none {bytes : List UInt8} :
    (Turn.input bytes).fault? = none ↔ IsText (withoutEnd bytes) := by
  cases decoded : Utf8.decode (withoutEnd bytes) <;> simp [Turn.fault?, IsText, decoded]

/-- The turns bring a fault just when a line is no text. -/
theorem fault_turnsOf_eq_none (pauses : Nat → List Pause) (lines : List (List UInt8)) :
    (turnsOf pauses lines).findSome? Turn.fault? = none ↔
      ∀ line ∈ lines, IsText (withoutEnd line) := by
  have still : ∀ waits : List Pause, (waits.map Turn.pause).findSome? Turn.fault? = none := by
    intro waits
    simp [Turn.fault?]
  induction lines generalizing pauses with
  | nil => simpa [turnsOf] using still _
  | cons line rest ih =>
    rw [turnsOf, List.findSome?_append, still, Option.none_or, List.forall_mem_cons]
    cases fault : (Turn.input line).fault? with
    | some found =>
      rw [← fault_input_eq_none]
      simp [fault]
    | none =>
      rw [List.findSome?_cons_of_isNone (by simp [fault])]
      exact (ih _).trans (and_iff_right (fault_input_eq_none.1 fault)).symm

/-- The input is cut into lines behind every newline and nowhere else. -/
def CutAtNewlines (stream : List UInt8) (lines : List (List UInt8)) : Prop :=
  lines.flatten = stream ∧ (∀ line ∈ lines, line ≠ [] ∧ 10 ∉ line.dropLast) ∧
    ∀ line ∈ lines.dropLast, line.getLast? = some 10

theorem CutAtNewlines.newline {stream : List UInt8} {lines : List (List UInt8)}
    (h : CutAtNewlines stream lines) : CutAtNewlines (10 :: stream) ([10] :: lines) := by
  obtain ⟨whole, inside, ends⟩ := h
  refine ⟨by rw [List.flatten_cons, whole]; rfl, ?_, ?_⟩
  · exact List.forall_mem_cons.2 ⟨⟨List.cons_ne_nil _ _, List.not_mem_nil⟩, inside⟩
  · cases lines with
    | nil => exact fun _ member => absurd member List.not_mem_nil
    | cons line others => exact List.forall_mem_cons.2 ⟨rfl, ends⟩

theorem CutAtNewlines.cons {byte : UInt8} (h : byte ≠ 10) {stream line : List UInt8}
    {others : List (List UInt8)} (cut : CutAtNewlines stream (line :: others)) :
    CutAtNewlines (byte :: stream) ((byte :: line) :: others) := by
  obtain ⟨whole, inside, ends⟩ := cut
  obtain ⟨⟨full, clear⟩, inside⟩ := List.forall_mem_cons.1 inside
  have longer : (byte :: line).dropLast = byte :: line.dropLast :=
    List.dropLast_cons_of_ne_nil full
  refine ⟨congrArg (byte :: ·) whole, ?_, ?_⟩
  · refine List.forall_mem_cons.2 ⟨⟨List.cons_ne_nil _ _, ?_⟩, inside⟩
    rw [longer, List.mem_cons]
    exact not_or.2 ⟨h.symm, clear⟩
  · cases others with
    | nil => exact fun _ member => absurd member List.not_mem_nil
    | cons next others =>
      obtain ⟨last, ends⟩ := List.forall_mem_cons.1 ends
      refine List.forall_mem_cons.2 ⟨?_, ends⟩
      rw [List.getLast?_cons, last]
      rfl

theorem cut_splitLines (stream : List UInt8) : CutAtNewlines stream (splitLines stream) := by
  induction stream with
  | nil => exact ⟨rfl, fun _ h => absurd h List.not_mem_nil, fun _ h => absurd h List.not_mem_nil⟩
  | cons byte rest ih =>
    rw [splitLines]
    split
    next newline => exact newline ▸ ih.newline
    next other =>
      cases lines : splitLines rest with
      | nil =>
        rw [lines] at ih
        obtain ⟨rfl, -⟩ := ih
        simp [CutAtNewlines]
      | cons line others => exact (lines ▸ ih).cons other

theorem fault_takeLines_eq_none (monitor : Monitor) (now : Seconds)
    (lines : List (List UInt8)) :
    (takeLines monitor now lines).value.2 = none ↔ ∀ line ∈ lines, IsText (withoutEnd line) := by
  induction lines generalizing monitor with
  | nil => simp [takeLines]
  | cons line rest ih =>
    rw [takeLines, List.forall_mem_cons]
    cases decoded : Utf8.decode (withoutEnd line) with
    | error fault => simp [IsText, decoded]
    | ok text => simp [IsText, decoded, ih]

/-- A session ends without a failure just when every line of its input is text. -/
theorem failure_serve_eq_none {session : Session} {invocation : Invocation}
    {stream : List UInt8} :
    (serve session { invocation with input := .stream stream }).value.2 = none ↔
      ∀ line ∈ splitLines stream, IsText (withoutEnd line) := by
  rw [serve]
  simp only [Logged.value_bind]
  generalize (check _ _ _).value = checked
  obtain ⟨monitor, written⟩ := checked
  rw [← fault_takeLines_eq_none monitor]
  generalize (takeLines _ _ (splitLines stream)).value = taken
  obtain ⟨after, _ | fault⟩ := taken
  · exact iff_of_true rfl rfl
  · exact iff_of_false (Option.some_ne_none _) (Option.some_ne_none _)

/-- A start without settings fails. With settings, only a line that is no text does. -/
theorem failure_startAndServe_eq_none (filter : Log.Filter) (arguments : Arguments)
    (invocation : Invocation) (stream : List UInt8) :
    (startAndServe filter arguments { invocation with input := .stream stream }).value.2 = none ↔
      (start filter arguments invocation.environment invocation.files).value.isOk = true ∧
        ∀ line ∈ splitLines stream, IsText (withoutEnd line) := by
  rw [startAndServe, Logged.value_bind]
  cases started : (start filter arguments invocation.environment invocation.files).value with
  | error error => simp [Except.isOk, Except.toBool]
  | ok session => exact failure_serve_eq_none.trans (by simp [Except.isOk, Except.toBool])

theorem exitCode_run (invocation : Invocation) {arguments : Arguments}
    (h : Arguments.parse invocation.line invocation.environment = .ok arguments) :
    (run invocation).exitCode = 0 ↔
      (startAndServe (logFilter arguments invocation.environment).1 arguments
        invocation).value.2 = none := by
  rw [run, h]
  cases failure : (startAndServe (logFilter arguments invocation.environment).1 arguments
    invocation).value.2 <;> simp [failure]

/-- A run that does not fail on an empty input fails just when a line of its input is no text,
unless it only shows the help. -/
theorem exitCode_run_eq_zero (invocation : Invocation) (stream : List UInt8) :
    (run { invocation with input := .stream stream }).exitCode = 0 ↔
      (run { invocation with input := .stream [] }).exitCode = 0 ∧
        (Arguments.parse invocation.line invocation.environment = .error .help ∨
          ∀ line ∈ splitLines stream, IsText (withoutEnd line)) := by
  cases parsed : Arguments.parse invocation.line invocation.environment with
  | error error =>
    cases error <;> simp [run, parsed]
  | ok arguments =>
    have ends := fun stream =>
      (exitCode_run { invocation with input := .stream stream } parsed).trans
        (failure_startAndServe_eq_none _ arguments invocation stream)
    rw [ends stream, ends []]
    simp [splitLines]

/-- Without a fault all turns are taken. -/
theorem heard_eq_self_iff {turns : List Turn} :
    heard turns = turns ↔ turns.findSome? Turn.fault? = none := by
  rw [heard, List.takeWhile_eq_self_iff, List.findSome?_eq_none_iff]
  simp [Turn.isSound]

theorem fault_useful (turns : List Turn) : (useful turns).findSome? Turn.fault? = none := by
  refine List.findSome?_eq_none_iff.2 fun turn member => ?_
  have before : turn ∈ heard turns := List.mem_of_mem_filter member
  have sound : turn.isSound = true := List.mem_takeWhile_imp before
  exact Option.isNone_iff_eq_none.1 sound

/-- What becomes of an input, whatever the bytes and whatever happens between the lines. The
agent takes in the whole input just when every line is text, and a run of it then ends with
success if it does so on an empty input. Up to the first line that is no text everything comes
out as if the blank and the malformed lines were absent, but for a report about each malformed
one. -/
theorem intake_ends_at_fault (invocation : Invocation) (settings : Settings) (clock : Clock)
    (pauses : Nat → List Pause) (stream : List UInt8) :
    let lines := splitLines stream
    let turns := turnsOf pauses lines
    let ended := (opening settings clock).work turns
    let ideal := (opening settings clock).work (useful turns)
    CutAtNewlines stream lines ∧
      (ended.value.2 = none ↔ ∀ line ∈ lines, IsText (withoutEnd line)) ∧
      (heard turns = turns ↔ ∀ line ∈ lines, IsText (withoutEnd line)) ∧
      ((run { invocation with input := .stream stream }).exitCode = 0 ↔
        (run { invocation with input := .stream [] }).exitCode = 0 ∧
          (Arguments.parse invocation.line invocation.environment = .error .help ∨
            ∀ line ∈ lines, IsText (withoutEnd line))) ∧
      ended.value.1 = ideal.value.1 ∧ ideal.value.2 = none ∧
      otherReports ended.log = otherReports ideal.log ∧
      ended.log.count .lineDropped =
        ideal.log.count .lineDropped + (heard turns).countP Turn.isMalformed := by
  intro lines turns ended ideal
  obtain ⟨same, reports, count⟩ := (opening settings clock).work_useful turns
  refine ⟨cut_splitLines stream, ?_, ?_, exitCode_run_eq_zero invocation stream, same, ?_,
    reports, count⟩
  · exact (Scene.fault_work _ turns ▸ fault_turnsOf_eq_none pauses lines)
  · exact heard_eq_self_iff.trans (fault_turnsOf_eq_none pauses lines)
  · exact (Scene.fault_work _ _).trans (fault_useful turns)

/-- A run that is given a malformed line ends with success, one that is given bytes that are no
text does not. -/
theorem exitCode_invalid_line :
    let invocation := fun bytes =>
      (⟨[], ⟨[]⟩, .single (.error .notFound), .stream bytes, 0, default⟩ : Invocation)
    (run (invocation [0x28, 10])).exitCode = 0 ∧
      (run (invocation [0xc3, 0x28, 10])).exitCode = 1 := by
  decide +kernel

end AssetWatch.Agent
