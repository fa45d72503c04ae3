import AssetWatch.Proofs.Cache.Run
import AssetWatch.Proofs.Monitor.Tick
import Mathlib.Data.List.Induction

/-!
# Runs of a monitor

Between two ticks anything may happen to the cache of a monitor and to the clock. The active
assets stay those that were expired at the last tick (`mem_active_run`), so every tick tells
the difference between two sets of expired assets (`tick_tells_difference`).
-/

namespace AssetWatch.Monitor

open AssetName

/-- What can happen to a monitor and to the clock that it goes by. -/
inductive Command
  | handle (event : Event)
  /-- A command to the cache of the monitor, or to the clock. -/
  | behind (command : Cache.Command)
  | tick
deriving DecidableEq

/-- A monitor and the clock that it goes by. -/
structure Scene where
  monitor : Monitor
  clock : Clock
deriving DecidableEq

namespace Scene

/-- What the clock shows. -/
def now (scene : Scene) : Seconds := scene.clock.now

/-- The cache of the monitor with the clock. -/
def behind (scene : Scene) : Cache.Scene := ⟨scene.monitor.cache, scene.clock⟩

/-- Whether an asset is watched and expired. -/
def Expired (scene : Scene) (name : AssetName) : Prop :=
  scene.monitor.cache.Expired scene.now name

/-- What a tick would tell. -/
def told (scene : Scene) : List Transition := (scene.monitor.tick scene.now).value.2

/-- Carries out a command. -/
def step (scene : Scene) : Command → Scene
  | .handle event => { scene with monitor := (scene.monitor.handle scene.now event).value.1 }
  | .behind command =>
    let after := scene.behind.step command
    ⟨{ scene.monitor with cache := after.cache }, after.clock⟩
  | .tick => { scene with monitor := (scene.monitor.tick scene.now).value.1 }

end Scene

/-- A run of a new monitor. -/
def run (settings : Settings) (clock : Clock) (commands : List Command) : Scene :=
  commands.foldl Scene.step ⟨(new settings).value, clock⟩

@[simp] theorem run_concat (settings : Settings) (clock : Clock) (commands : List Command)
    (command : Command) :
    run settings clock (commands ++ [command]) = (run settings clock commands).step command := by
  simp [run, List.foldl_append]

/-! ## The active assets -/

theorem active_step {scene : Scene} {command : Command} (h : command ≠ .tick) :
    (scene.step command).monitor.active = scene.monitor.active := by
  cases command with
  | handle event => rfl
  | behind command => rfl
  | tick => exact absurd rfl h

theorem active_step_tick (scene : Scene) :
    (scene.step .tick).monitor.active = scene.monitor.cache.expired scene.now := by
  rw [Scene.step, value_tick]

theorem mem_active_step_tick {scene : Scene} {name : AssetName} :
    name ∈ (scene.step .tick).monitor.active ↔ scene.Expired name := by
  rw [active_step_tick, Cache.mem_expired]
  rfl

theorem ascending_active_run (settings : Settings) (clock : Clock) (commands : List Command) :
    Ascending (run settings clock commands).monitor.active := by
  induction commands using List.reverseRecOn with
  | nil => exact List.Pairwise.nil
  | append_singleton commands command ih =>
    rw [run_concat]
    by_cases tick : command = .tick
    · subst tick
      rw [active_step_tick]
      exact Cache.ascending_expired _ _
    · rw [active_step tick]
      exact ih

/-- A tick after a run tells what leads from the active assets to those that are expired. -/
theorem tells_run (settings : Settings) (clock : Clock) (commands : List Command) :
    let scene := run settings clock commands
    Tells (· ∈ scene.monitor.active) scene.Expired scene.monitor.cache.expiration? scene.told :=
  tells_tick (ascending_active_run settings clock commands) _

/-- Whether an asset was expired at the last tick of a run. Before the first tick none was. -/
def ExpiredAtLastTick (settings : Settings) (clock : Clock) (commands : List Command)
    (name : AssetName) : Prop :=
  ∃ before after, commands = before ++ .tick :: after ∧ Command.tick ∉ after ∧
    (run settings clock before).Expired name

theorem not_expiredAtLastTick_nil (settings : Settings) (clock : Clock) (name : AssetName) :
    ¬ExpiredAtLastTick settings clock [] name := by
  rintro ⟨before, after, split, -⟩
  simp at split

theorem expiredAtLastTick_concat_tick {settings : Settings} {clock : Clock}
    {commands : List Command} {name : AssetName} :
    ExpiredAtLastTick settings clock (commands ++ [.tick]) name ↔
      (run settings clock commands).Expired name := by
  constructor
  · rintro ⟨before, after, split, silent, expired⟩
    cases after using List.reverseRecOn with
    | nil =>
      obtain ⟨rfl, -⟩ := List.append_inj' split rfl
      exact expired
    | append_singleton after last =>
      rw [← List.cons_append, ← List.append_assoc] at split
      obtain ⟨-, same⟩ := List.append_inj' split rfl
      rw [← List.singleton_inj.1 same] at silent
      simp at silent
  · intro expired
    exact ⟨commands, [], rfl, List.not_mem_nil, expired⟩

theorem expiredAtLastTick_concat {settings : Settings} {clock : Clock}
    {commands : List Command} {command : Command} (h : command ≠ .tick) {name : AssetName} :
    ExpiredAtLastTick settings clock (commands ++ [command]) name ↔
      ExpiredAtLastTick settings clock commands name := by
  constructor
  · rintro ⟨before, after, split, silent, expired⟩
    cases after using List.reverseRecOn with
    | nil =>
      obtain ⟨-, same⟩ := List.append_inj' split rfl
      exact absurd (List.singleton_inj.1 same) h
    | append_singleton after last =>
      rw [← List.cons_append, ← List.append_assoc] at split
      obtain ⟨rfl, -⟩ := List.append_inj' split rfl
      exact ⟨before, after, rfl, fun member => silent (List.mem_append_left _ member), expired⟩
  · rintro ⟨before, after, rfl, silent, expired⟩
    refine ⟨before, after ++ [command], by simp, fun member => ?_, expired⟩
    rcases List.mem_append.1 member with old | last
    · exact silent old
    · exact h (List.mem_singleton.1 last).symm

/-- The active assets are those that were expired at the last tick. -/
theorem mem_active_run {settings : Settings} {clock : Clock} {commands : List Command}
    {name : AssetName} :
    name ∈ (run settings clock commands).monitor.active ↔
      ExpiredAtLastTick settings clock commands name := by
  induction commands using List.reverseRecOn with
  | nil => exact iff_of_false List.not_mem_nil (not_expiredAtLastTick_nil settings clock name)
  | append_singleton commands command ih =>
    rw [run_concat]
    by_cases tick : command = .tick
    · subst tick
      rw [active_step_tick, Cache.mem_expired, expiredAtLastTick_concat_tick]
      rfl
    · rw [active_step tick, ih, expiredAtLastTick_concat tick]

/-- A tick at the end of any run resolves the outages of the assets that were expired at the
last tick and are not any longer, and then raises those of the assets that are expired now and
were not, each in ascending order and with the instant of its expiration, which the clock has
reached. Afterwards the expired assets are the active ones and the cache is as it was; nothing
but a tick changes the active assets. The orders in which the records and the active assets
are gone through do not matter. -/
theorem tick_tells_difference (settings : Settings) (clock : Clock) (commands : List Command) :
    let scene := run settings clock commands
    let before := ExpiredAtLastTick settings clock commands
    let after := (scene.step .tick).monitor
    Tells before scene.Expired scene.monitor.cache.expiration? scene.told ∧
      (∀ name instant, .raised name instant ∈ scene.told → instant ≤ scene.now) ∧
      (scene.told = [] ↔ ∀ name, before name ↔ scene.Expired name) ∧
      (∀ name, name ∈ after.active ↔ scene.Expired name) ∧
      after.cache = scene.monitor.cache ∧
      (∀ name, name ∈ scene.monitor.active ↔ before name) ∧
      (∀ command, command ≠ .tick →
        (scene.step command).monitor.active = scene.monitor.active) ∧
      ∀ records active, records.Perm scene.monitor.cache.records.entries →
        active.Perm scene.monitor.active →
        (scene.monitor.sweep scene.now records active).told = scene.told ∧
          (scene.monitor.sweep scene.now records active).active.Perm after.active := by
  intro scene before after
  have ascending : Ascending scene.monitor.active := ascending_active_run _ _ _
  have remembered : (· ∈ scene.monitor.active) = before :=
    funext fun _ => propext mem_active_run
  have tells : Tells before scene.Expired scene.monitor.cache.expiration? scene.told :=
    remembered ▸ tells_tick ascending scene.now
  refine ⟨tells, ?_, ?_, ?_, rfl, ?_, ?_, ?_⟩
  · intro name instant member
    obtain ⟨⟨reached, found, le⟩, -, same⟩ := tells.mem_raised.1 member
    rw [found] at same
    cases same
    exact le
  · exact tells.eq_nil_iff fun name ⟨instant, found, _⟩ => ⟨instant, found⟩
  · intro name
    rw [active_step_tick, Cache.mem_expired]
    rfl
  · exact fun _ => mem_active_run
  · exact fun _ => active_step
  · exact fun _ _ => sweep_eq_tick ascending

end AssetWatch.Monitor
