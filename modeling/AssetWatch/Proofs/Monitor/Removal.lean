import AssetWatch.Proofs.Cache.Sensors
import AssetWatch.Proofs.Monitor.Alternation
import AssetWatch.Proofs.Monitor.Recovery

/-!
# Removed assets

An asset that has been removed stays away until it is enrolled again, whatever else is told of
it. Nothing finds it, no outage of it is raised, and the outage that it may have had is resolved
at the first tick and not mentioned any more (`removal_silences`).
-/

namespace AssetWatch

/-- A notice removes its asset by its operation or by the status that it gives, whatever else it
says. -/
theorem AssetNotice.isRemoval_iff (notice : AssetNotice) :
    notice.isRemoval = true ↔
      notice.operation = .delete ∨ notice.aux.get? "status" = some "retired" := by
  rw [isRemoval, Bool.or_eq_true, decide_eq_true_eq, decide_eq_true_eq, status, auxText]
  cases notice.aux.get? "status" <;> simp

/-- Two notices that do not remove their asset do the same, if they give the same name and both
or neither are of a kind that is watched: a watch that they begin differs in its notice alone. -/
theorem Cache.put_alike {cache : Cache} {now : Seconds} {notice other : AssetNotice}
    (name : notice.name = other.name) (kind : notice.isTrackedKind = other.isTrackedKind)
    (kept : notice.isRemoval = false) (kept' : other.isRemoval = false) :
    if cache.contains notice.name = false ∧ notice.isTrackedKind = true then
      (cache.put now (.asset notice)).value =
          (cache.store notice.name ⟨cache.defaultExpiry, now, notice⟩, .tracked notice.name) ∧
        (cache.put now (.asset other)).value =
          (cache.store notice.name ⟨cache.defaultExpiry, now, other⟩, .tracked notice.name)
    else (cache.put now (.asset notice)).value = (cache.put now (.asset other)).value := by
  rw [put, put, value_putNotice, value_putNotice, kept, kept', ← name, ← kind]
  cases tracked : notice.isTrackedKind with
  | false => simp
  | true =>
    cases watched : cache.contains notice.name with
    | false => exact ⟨rfl, rfl⟩
    | true => exact rfl

namespace Monitor

/-- Whether a command removes the asset, be it watched or not. -/
def Command.removes (name : AssetName) (command : Command) : Bool :=
  command.behind?.any (Cache.Command.removes name)

/-- Whether a command announces the asset as one to be watched and does not remove it. -/
def Command.enrols (name : AssetName) (command : Command) : Bool :=
  command.behind?.any (Cache.Command.enrols name)

variable {scene : Scene} {name : AssetName} {command : Command} {commands : List Command}

theorem removes_of_behind? {heard : Cache.Command} (told : command.behind? = some heard) :
    command.removes name = heard.removes name := by
  rw [Command.removes, told, Option.any_some]

theorem enrols_of_behind? {heard : Cache.Command} (told : command.behind? = some heard) :
    command.enrols name = heard.enrols name := by
  rw [Command.enrols, told, Option.any_some]

/-- The asset is not watched. -/
def Scene.Absent (scene : Scene) (name : AssetName) : Prop :=
  scene.monitor.cache.record? name = none

/-! ## Assets that are not watched -/

theorem Scene.absent_of_removes (removes : command.removes name = true) (scene : Scene) :
    (scene.step command).Absent name := by
  apply Scene.cases_behind_step (motive := fun behind => behind.cache.record? name = none)
  · intro untold
    rw [Command.removes, untold, Option.any_none] at removes
    cases removes
  · intro heard told
    rw [removes_of_behind? told] at removes
    exact Cache.Scene.record?_step_of_removes removes scene.behind

theorem Scene.Absent.step (absent : scene.Absent name) (idle : command.enrols name = false) :
    (scene.step command).Absent name := by
  apply Scene.cases_behind_step (motive := fun behind => behind.cache.record? name = none)
  · intro _
    exact absent
  · intro heard told
    rw [enrols_of_behind? told] at idle
    exact Cache.Scene.record?_step_of_absent absent idle

theorem Scene.Absent.foldl (absent : scene.Absent name)
    (idle : ∀ command ∈ commands, command.enrols name = false) :
    (commands.foldl Scene.step scene).Absent name := by
  apply List.foldlRecOn (motive := fun scene : Scene => scene.Absent name)
  · exact absent
  · intro scene absent command member
    exact absent.step (idle command member)

theorem Scene.Absent.not_expired (absent : scene.Absent name) (now : Seconds) :
    ¬scene.monitor.cache.Expired now name := by
  intro expired
  obtain ⟨record, found, -⟩ := Cache.expired_iff_record?.1 expired
  rw [absent] at found
  cases found

/-! ## Whole runs -/

theorem sound_run (settings : Settings) (clock : Clock) (commands : List Command) :
    (run settings clock commands).monitor.cache.Sound := by
  have cache : (run settings clock commands).monitor.cache =
      (Cache.run clock (cacheCommands settings commands)).cache :=
    congrArg Cache.Scene.cache (behind_run settings clock commands)
  rw [cache]
  exact Cache.sound_run _ _

theorem ne_tick_of_removes (removes : command.removes name = true) : command ≠ .tick := by
  rintro rfl
  cases removes

/-- The outage of an asset that has been removed is active until the first tick if it was when
the asset was removed, and afterwards it is not. -/
theorem mem_active_of_removed (removes : command.removes name = true)
    (idle : ∀ command ∈ commands, command.enrols name = false) :
    name ∈ (commands.foldl Scene.step (scene.step command)).monitor.active ↔
      .tick ∉ commands ∧ name ∈ scene.monitor.active := by
  -- on the last command: only a tick changes the active assets, and it finds the asset absent
  induction commands using List.reverseRecOn with
  | nil => simp [active_step (ne_tick_of_removes removes)]
  | append_singleton commands last ih =>
    have idleEarlier : ∀ command ∈ commands, command.enrols name = false := by
      intro other member
      exact idle other (List.mem_append_left _ member)
    rw [List.foldl_append, List.foldl_cons, List.foldl_nil]
    by_cases tick : last = .tick
    · subst tick
      have absent := (Scene.absent_of_removes removes scene).foldl idleEarlier
      refine iff_of_false ?_ (by simp)
      exact fun active => absent.not_expired _ (mem_active_step_tick.1 active)
    · rw [active_step tick, ih idleEarlier, List.mem_append, List.mem_singleton]
      simp [Ne.symm tick]

/-- An asset is removed by a notice whose operation deletes it or whose status retires it,
whatever else the notice says, or by a deletion. From then on and until it is enrolled again, the
asset is not watched. It is not among the expired assets nor among the sensors of any port, and
no tick raises its outage. The first tick resolves the outage if it was active at the removal,
and the ticks that follow say nothing of the asset. The operation that retires an asset removes
nothing by itself: it does what a creation does, but for the notice that the record holds. -/
theorem removal_silences :
    (∀ notice : AssetNotice, notice.isRemoval = true ↔
      notice.operation = .delete ∨ notice.aux.get? "status" = some "retired") ∧
    (∀ (settings : Settings) (clock : Clock) (before span : List Command) (removal : Command)
        (name : AssetName), removal.removes name = true →
        (∀ command ∈ span, command.enrols name = false) →
      let start := run settings clock before
      let scene := run settings clock (before ++ removal :: span)
      scene.monitor.cache.contains name = false ∧
        (∀ now, name ∉ scene.monitor.cache.expired now) ∧
        (∀ port parent, name ∉ scene.monitor.cache.sensors port parent) ∧
        (∀ instant, .raised name instant ∉ scene.told) ∧
        about name scene.told =
          if .tick ∉ span ∧ name ∈ start.monitor.active then [.resolved name] else []) ∧
    ∀ (cache : Cache) (now : Seconds) (notice : AssetNotice), notice.operation = .retire →
        notice.aux.get? "status" ≠ some "retired" →
      let created := { notice with operation := .create }
      notice.isRemoval = false ∧
        if cache.contains notice.name = false ∧ notice.isTrackedKind = true then
          (cache.put now (.asset notice)).value =
              (cache.store notice.name ⟨cache.defaultExpiry, now, notice⟩,
                .tracked notice.name) ∧
            (cache.put now (.asset created)).value =
              (cache.store notice.name ⟨cache.defaultExpiry, now, created⟩,
                .tracked notice.name)
        else (cache.put now (.asset notice)).value = (cache.put now (.asset created)).value := by
  refine ⟨AssetNotice.isRemoval_iff, ?_, ?_⟩
  · intro settings clock before span removal name removes idle start scene
    have course : scene = span.foldl Scene.step (start.step removal) := by
      rw [← List.foldl_cons, ← run_append]
    have absent : scene.Absent name := by
      rw [course]
      exact (Scene.absent_of_removes removes start).foldl idle
    have tells := tells_run settings clock (before ++ removal :: span)
    have alive : ¬scene.Expired name := absent.not_expired scene.now
    refine ⟨?_, ?_, ?_, ?_, ?_⟩
    · rw [Cache.contains_eq, absent, Option.isSome_none]
    · intro now member
      exact absent.not_expired now (Cache.mem_expired.1 member)
    · intro port parent
      exact Cache.not_mem_sensors (sound_run settings clock _) absent
    · intro instant raised
      exact alive (tells.mem_raised.1 raised).1
    · have active : name ∈ scene.monitor.active ↔ .tick ∉ span ∧ name ∈ start.monitor.active := by
        rw [course]
        exact mem_active_of_removed removes idle
      exact (tells.about_of_alive alive).trans (if_congr active rfl rfl)
  · intro cache now notice retire status created
    have kept (other : AssetNotice) (same : other.aux = notice.aux)
        (operation : other.operation ≠ .delete) : other.isRemoval = false := by
      rw [← Bool.not_eq_true, AssetNotice.isRemoval_iff, same]
      rintro (deleted | retired)
      · exact operation deleted
      · exact status retired
    have keptNotice := kept notice rfl (by simp [retire])
    have keptCreated := kept created rfl Operation.noConfusion
    exact ⟨keptNotice, Cache.put_alike rfl rfl keptNotice keptCreated⟩

/-- A device is announced, and its outage is raised. -/
def deviceLost : List Command :=
  [.handle (.asset (sampleNotice ⟨"ups"⟩)), .behind (.setClock 1200), .tick]

/-- A notice that retires the device. -/
def retirement : AssetNotice :=
  { sampleNotice ⟨"ups"⟩ with operation := .retire }

/-- A notice that gives the status of a device that is retired. -/
def retiredStatus : AssetNotice :=
  { sampleNotice ⟨"ups"⟩ with
    operation := .update
    aux := .ofList [("status", "retired")] }

/-- The device is removed while its outage is active, and then a metric of it comes in. -/
theorem removed_device_falls_silent :
    let metric := Command.handle (.metric (sampleMetric ⟨"ups"⟩ 50 none))
    let removal := Command.handle (.asset retiredStatus)
    let scene := run ⟨100, 1, false⟩ ⟨1000⟩ (deviceLost ++ removal :: [metric])
    let later := run ⟨100, 1, false⟩ ⟨1000⟩ (deviceLost ++ removal :: [metric, .tick])
    scene.monitor.cache.contains ⟨"ups"⟩ = false ∧
      about ⟨"ups"⟩ scene.told = [.resolved ⟨"ups"⟩] ∧ about ⟨"ups"⟩ later.told = [] ∧
      (Cache.new.put 1000 (.asset retirement)).value.2 = .tracked ⟨"ups"⟩ := by
  intro metric removal scene later
  obtain ⟨-, silences, retires⟩ := removal_silences
  have removes : removal.removes ⟨"ups"⟩ = true := by decide +kernel
  have idle : ∀ command ∈ [metric, .tick], command.enrols ⟨"ups"⟩ = false := by decide +kernel
  have idle' : ∀ command ∈ [metric], command.enrols ⟨"ups"⟩ = false := by decide +kernel
  obtain ⟨gone, -, -, -, first⟩ := silences ⟨100, 1, false⟩ ⟨1000⟩ deviceLost [metric] removal
    ⟨"ups"⟩ removes idle'
  obtain ⟨-, -, -, -, next⟩ := silences ⟨100, 1, false⟩ ⟨1000⟩ deviceLost [metric, .tick] removal
    ⟨"ups"⟩ removes idle
  obtain ⟨-, watched⟩ := retires Cache.new 1000 retirement rfl (by decide +kernel)
  rw [if_pos (by decide +kernel)] at watched
  refine ⟨gone, ?_, ?_, congrArg Prod.snd watched.1⟩
  · exact first.trans (if_pos (by decide +kernel))
  · exact next.trans (if_neg (by decide +kernel))

end Monitor

end AssetWatch
