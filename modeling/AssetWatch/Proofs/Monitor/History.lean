import AssetWatch.Proofs.Cache.Watch
import AssetWatch.Proofs.Monitor.Run

/-!
# The history of a monitor

A monitor hands on to its cache what it is told, after its settings. So the cache of a monitor
has a run and a history of its own (`behind_run`), and what is known of watches holds for the
assets of a monitor too.
-/

namespace AssetWatch.Monitor

open Cache (Moment Watch epoch recordOf?)

/-- What a command tells the cache or the clock. A tick tells them nothing. -/
def Command.behind? : Command → Option Cache.Command
  | .handle event => some (.put event)
  | .behind command => some command
  | .tick => none

/-- What the cache of a monitor and its clock are told in a run, the settings first. -/
def cacheCommands (settings : Settings) (commands : List Command) : List Cache.Command :=
  .setDefaultExpiry settings.defaultExpiry :: .setVerbose settings.verbose ::
    commands.filterMap Command.behind?

/-- The history of the cache of a monitor. -/
def history (settings : Settings) (clock : Clock) (commands : List Command) : List Moment :=
  Cache.history clock (cacheCommands settings commands)

variable (settings : Settings) (clock : Clock) (commands : List Command)

/-- A command does to the cache and the clock what they are told. -/
theorem behind_step (scene : Scene) (command : Command) :
    (scene.step command).behind =
      command.behind?.elim scene.behind scene.behind.step := by
  cases command <;> rfl

/-- What holds of the cache and the clock after a command: they are as they were, or they have
been told something. -/
theorem Scene.cases_behind_step {motive : Cache.Scene → Prop} {scene : Scene} {command : Command}
    (untold : command.behind? = none → motive scene.behind)
    (told : ∀ heard, command.behind? = some heard → motive (scene.behind.step heard)) :
    motive (scene.step command).behind := by
  rw [behind_step]
  cases heard : command.behind? with
  | none => exact untold heard
  | some command' => exact told command' heard

theorem cacheCommands_concat (command : Command) :
    cacheCommands settings (commands ++ [command]) =
      cacheCommands settings commands ++ command.behind?.toList := by
  rw [cacheCommands, cacheCommands, List.filterMap_append]
  cases told : command.behind? with
  | none => simp [told]
  | some _ => simp [told]

theorem behind_run :
    (run settings clock commands).behind =
      Cache.run clock (cacheCommands settings commands) := by
  induction commands using List.reverseRecOn with
  | nil => rfl
  | append_singleton commands command ih =>
    rw [run_concat, behind_step, ih, cacheCommands_concat]
    cases command.behind? with
    | none => simp
    | some told => simp

/-- The cache of a monitor holds the records that its history gives. -/
theorem record?_run (name : AssetName) :
    (run settings clock commands).monitor.cache.record? name =
      recordOf? name (epoch name (history settings clock commands)) := by
  have cache : (run settings clock commands).monitor.cache =
      (Cache.run clock (cacheCommands settings commands)).cache :=
    congrArg Cache.Scene.cache (behind_run settings clock commands)
  rw [cache, Cache.record?_run]
  rfl

/-- The assets that a monitor watches are those that have a watch in its history. -/
theorem contains_iff_watch (name : AssetName) :
    (run settings clock commands).monitor.cache.contains name = true ↔
      ∃ first since, Watch name (history settings clock commands) first since := by
  rw [Cache.contains_eq, record?_run, Cache.recordOf?_isSome, Cache.exists_watch_iff]

variable {settings clock commands}

/-- What the record of a watched asset holds. -/
theorem exists_record_of_watch {name : AssetName} {first : Moment} {since : List Moment}
    (watch : Watch name (history settings clock commands) first since) :
    ∃ record, (run settings clock commands).monitor.cache.record? name = some record ∧
      IsGreatest {instant | Cache.Observed name first since instant} record.lastSeen ∧
      IsLeast {ttl | Cache.Promised name first since ttl} record.ttl := by
  obtain ⟨record, found, bounds⟩ := watch.exists_record
  exact ⟨record, (record?_run settings clock commands name).trans found, bounds⟩

/-! ## Clocks that do not go back -/

/-- The clock never goes back in the course of the run. -/
def Steady (settings : Settings) (clock : Clock) (commands : List Command) : Prop :=
  ∀ before command, before ++ [command] <+: commands →
    (run settings clock before).now ≤ (run settings clock (before ++ [command])).now

theorem steady_nil (settings : Settings) (clock : Clock) : Steady settings clock [] := by
  intro before command begun
  simp at begun

theorem steady_concat {settings : Settings} {clock : Clock} {commands : List Command}
    {command : Command} :
    Steady settings clock (commands ++ [command]) ↔
      Steady settings clock commands ∧
        (run settings clock commands).now ≤ (run settings clock (commands ++ [command])).now := by
  constructor
  · intro steady
    refine ⟨?_, steady commands command (List.prefix_refl _)⟩
    intro before next begun
    exact steady before next (begun.trans (List.prefix_append _ _))
  · rintro ⟨steady, forward⟩ before next begun
    rcases List.prefix_concat_iff.1 begun with whole | earlier
    · obtain ⟨rfl, -⟩ := List.append_inj' whole rfl
      rwa [whole]
    · exact steady before next earlier

theorem Steady.of_append {more : List Command}
    (steady : Steady settings clock (commands ++ more)) : Steady settings clock commands := by
  intro before command begun
  exact steady before command (begun.trans (List.prefix_append _ _))

theorem steady_of_forall_take
    (h : ∀ i < commands.length, (run settings clock (commands.take i)).now ≤
      (run settings clock (commands.take (i + 1))).now) : Steady settings clock commands := by
  intro before command begun
  obtain ⟨rest, rfl⟩ := begun
  have earlier : (before ++ [command] ++ rest).take before.length = before := by simp
  have later : (before ++ [command] ++ rest).take (before.length + 1) = before ++ [command] :=
    List.take_left' (by simp)
  have step := h before.length (by simp)
  rwa [earlier, later] at step

/-- What a run has led to stays, if every further command keeps it that does not turn the clock
back. -/
theorem run_induction {motive : Scene → Prop} {more : List Command}
    (start : motive (run settings clock commands))
    (steady : Steady settings clock (commands ++ more))
    (step : ∀ scene, ∀ command ∈ more, scene.now ≤ (scene.step command).now → motive scene →
      motive (scene.step command)) :
    motive (run settings clock (commands ++ more)) := by
  induction more using List.reverseRecOn with
  | nil =>
    rw [List.append_nil]
    exact start
  | append_singleton more command ih =>
    rw [← List.append_assoc] at steady ⊢
    obtain ⟨earlier, forward⟩ := steady_concat.1 steady
    rw [run_concat] at forward ⊢
    have before := ih earlier fun scene command member =>
      step scene command (List.mem_append_left _ member)
    exact step _ command (List.mem_append_right _ List.mem_cons_self) forward before

theorem history_concat (settings : Settings) (clock : Clock) (commands : List Command)
    (command : Command) :
    history settings clock (commands ++ [command]) =
      history settings clock commands ++
        (command.behind?.map (run settings clock commands).behind.moment).toList := by
  rw [history, cacheCommands_concat, behind_run]
  cases command.behind? with
  | none => simp [history]
  | some told =>
    rw [Option.toList_some, Cache.history_concat]
    rfl

/-- On a clock that never went back no moment of the history lies ahead. -/
theorem le_now_of_steady (steady : Steady settings clock commands) :
    ∀ moment ∈ history settings clock commands, moment.now ≤ (run settings clock commands).now := by
  induction commands using List.reverseRecOn with
  | nil =>
    intro moment member
    -- the settings are given at the start
    have now : moment.now = clock.now := by
      rcases List.mem_cons.1 member with rfl | member
      · rfl
      · rw [List.mem_singleton.1 member]
        rfl
    exact now ▸ UInt64.le_refl _
  | append_singleton commands command ih =>
    intro moment member
    obtain ⟨earlier, forward⟩ := steady_concat.1 steady
    rw [history_concat] at member
    rcases List.mem_append.1 member with old | last
    · exact UInt64.le_trans (ih earlier moment old) forward
    · obtain ⟨told, -, rfl⟩ := Option.map_eq_some_iff.1 (Option.mem_toList.1 last)
      exact forward

/-! ## A sample asset -/

/-- A notice that announces a device of a kind that is watched. -/
def sampleNotice (name : AssetName) : AssetNotice :=
  ⟨name, .create, .ofList [("type", "device"), ("subtype", "ups")], .empty⟩

/-- A metric of an asset. -/
def sampleMetric (source : AssetName) (ttl : Seconds) (time : Option Seconds) : Metric :=
  ⟨source, "load", "42", "%", ttl, time, .empty⟩

end AssetWatch.Monitor
