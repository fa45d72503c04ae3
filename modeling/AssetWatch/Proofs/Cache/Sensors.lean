import AssetWatch.Proofs.Cache.Enrolment
import AssetWatch.Proofs.Cache.Watch
import AssetWatch.Proofs.Names

/-!
# The sensors on a port

The cache looks for sensors in the notices that its records hold, and answers with the names in
them. In a sound cache these are the names of the watched assets, each once (`mem_sensors`,
`ascending_sensors`), and the notice is the one that began the watch. So where a sensor is found
was settled then: until it is removed, nothing moves it (`sensors_settled_by_first_notice`).
-/

namespace AssetWatch

/-- Where a notice places its asset: a port, and the device that has it. What is missing counts
as the empty text. -/
def AssetNotice.place (notice : AssetNotice) : String × String :=
  ((notice.ext.get? "port").getD "", (notice.aux.get? "parent_name.1").getD "")

namespace Cache

theorem place_eq (notice : AssetNotice) : notice.place = (notice.port, notice.parentName 1) :=
  rfl

variable {cache : Cache} {name : AssetName} {port parent : String}

/-! ## Sensors of a sound cache -/

/-- In a sound cache the names in the notices are the keys of the records. -/
theorem sensors_eq_keys (sound : Sound cache) (port parent : String) :
    cache.sensors port parent =
      (cache.records.entries.filter fun entry =>
        entry.2.snapshot.port = port && entry.2.snapshot.parentName 1 = parent).map (·.1) := by
  apply List.map_congr_left
  rintro ⟨key, record⟩ member
  have found := SortedMap.mem_entries.1 (List.mem_of_mem_filter member)
  exact (sound key record found).name

theorem mem_sensors (sound : Sound cache) :
    name ∈ cache.sensors port parent ↔
      ∃ record, cache.record? name = some record ∧ record.snapshot.place = (port, parent) := by
  rw [sensors_eq_keys sound, List.mem_map]
  simp only [place_eq, Prod.mk.injEq]
  constructor
  · rintro ⟨⟨_, record⟩, member, rfl⟩
    obtain ⟨entry, placed⟩ := List.mem_filter.1 member
    exact ⟨record, SortedMap.mem_entries.1 entry, by simpa using placed⟩
  · rintro ⟨record, found, placed⟩
    refine ⟨(name, record), List.mem_filter.2 ⟨SortedMap.mem_entries.2 found, ?_⟩, rfl⟩
    simpa using placed

theorem ascending_sensors (sound : Sound cache) (port parent : String) :
    AssetName.Ascending (cache.sensors port parent) := by
  rw [sensors_eq_keys sound]
  exact List.pairwise_map.2 (cache.records.sorted.filter _)

/-- An asset that is not watched is not found on any port. -/
theorem not_mem_sensors (sound : Sound cache) (absent : cache.record? name = none) :
    name ∉ cache.sensors port parent := by
  intro member
  obtain ⟨record, found, -⟩ := (mem_sensors sound).1 member
  rw [absent] at found
  cases found

/-- Every watched asset is found in one place, and no other asset is found. -/
theorem contains_iff_existsUnique_place (sound : Sound cache) :
    cache.contains name = true ↔
      ∃! place : String × String, name ∈ cache.sensors place.1 place.2 := by
  constructor
  · intro watched
    obtain ⟨record, found⟩ := Option.isSome_iff_exists.1 watched
    refine ⟨record.snapshot.place, (mem_sensors sound).2 ⟨record, found, rfl⟩, ?_⟩
    intro place member
    obtain ⟨other, found', placed⟩ := (mem_sensors sound).1 member
    obtain rfl : record = other := Option.some_inj.1 (found.symm.trans found')
    exact placed.symm
  · rintro ⟨place, member, -⟩
    obtain ⟨record, found, -⟩ := (mem_sensors sound).1 member
    rw [contains_eq, found]
    rfl

/-! ## The notice that began a watch -/

/-- The record of a watched asset holds the notice that began the watch. -/
theorem Watch.exists_snapshot {history since : List Moment} {first : Moment}
    (watch : Watch name history first since) :
    ∃ record, recordOf? name (epoch name history) = some record ∧
      first.command = .put (.asset record.snapshot) := by
  obtain ⟨notice, command, found⟩ := recordOf?_of_dropWhile (watch_iff_dropWhile.1 watch)
  exact ⟨_, found, command⟩

theorem mem_sensors_run {clock : Clock} {commands : List Command} :
    name ∈ (run clock commands).cache.sensors port parent ↔
      ∃ first since notice, Watch name (history clock commands) first since ∧
        first.command = .put (.asset notice) ∧ notice.place = (port, parent) := by
  rw [mem_sensors (sound_run clock commands), record?_run]
  constructor
  · rintro ⟨record, found, placed⟩
    have announced := (recordOf?_isSome name _).1 (Option.isSome_iff_exists.2 ⟨record, found⟩)
    obtain ⟨first, since, watch⟩ := exists_watch_iff.2 announced
    obtain ⟨other, found', command⟩ := watch.exists_snapshot
    obtain rfl : record = other := Option.some_inj.1 (found.symm.trans found')
    exact ⟨first, since, record.snapshot, watch, command, placed⟩
  · rintro ⟨first, since, notice, watch, command, placed⟩
    obtain ⟨record, found, command'⟩ := watch.exists_snapshot
    rw [command] at command'
    cases command'
    exact ⟨record, found, placed⟩

/-! ## What moves no sensor -/

/-- The commands that begin no watch and end none. -/
inductive KeepsWatches (cache : Cache) : Command → Prop
  | metric (metric : Metric) : KeepsWatches cache (.put (.metric metric))
  | repeated {notice : AssetNotice} (kept : notice.isRemoval = false)
      (known : cache.contains notice.name = true) : KeepsWatches cache (.put (.asset notice))
  | otherKind {notice : AssetNotice} (kept : notice.isRemoval = false)
      (unwatched : notice.isTrackedKind = false) : KeepsWatches cache (.put (.asset notice))
  | setDefaultExpiry (expiry : Seconds) : KeepsWatches cache (.setDefaultExpiry expiry)
  | setVerbose (verbose : Bool) : KeepsWatches cache (.setVerbose verbose)
  | setClock (now : Seconds) : KeepsWatches cache (.setClock now)

theorem KeepsWatches.removes {command : Command} (keeps : KeepsWatches cache command)
    (name : AssetName) : command.removes name = false := by
  cases keeps with
  | repeated kept known => simp [Command.removes, kept]
  | otherKind kept unwatched => simp [Command.removes, kept]
  | _ => rfl

theorem KeepsWatches.not_enrols {notice : AssetNotice}
    (keeps : KeepsWatches cache (.put (.asset notice))) (enrols : notice.Enrols name)
    (absent : cache.record? name = none) : False := by
  cases keeps with
  | repeated kept known =>
    rw [contains_eq, enrols.name, absent] at known
    cases known
  | otherKind kept unwatched =>
    rw [enrols.kind] at unwatched
    cases unwatched

theorem KeepsWatches.record?_snapshot {scene : Scene} {command : Command}
    (keeps : KeepsWatches scene.cache command) (name : AssetName) :
    ((scene.step command).cache.record? name).map Record.snapshot =
      (scene.cache.record? name).map Record.snapshot := by
  cases found : scene.cache.record? name with
  | some record =>
    rw [Scene.record?_step_of_kept (keeps.removes name) found]
    rfl
  | none =>
    cases after : (scene.step command).cache.record? name with
    | none => rfl
    | some record =>
      rcases Scene.exists_of_record?_step after with
        ⟨before, known, -⟩ | ⟨absent, notice, rfl, enrols, -⟩
      · rw [found] at known
        cases known
      · exact (keeps.not_enrols enrols absent).elim

theorem mem_sensors_iff_snapshot (sound : Sound cache) :
    name ∈ cache.sensors port parent ↔
      ∃ notice, (cache.record? name).map Record.snapshot = some notice ∧
        notice.place = (port, parent) := by
  rw [mem_sensors sound]
  cases cache.record? name <;> simp

theorem KeepsWatches.sensors_step {scene : Scene} {command : Command}
    (sound : Sound scene.cache) (keeps : KeepsWatches scene.cache command)
    (port parent : String) :
    (scene.step command).cache.sensors port parent = scene.cache.sensors port parent := by
  have sound' : Sound (scene.step command).cache := Scene.sound_step sound command
  apply (ascending_sensors sound' port parent).eq_of_mem_iff (ascending_sensors sound port parent)
  intro name
  rw [mem_sensors_iff_snapshot sound', mem_sensors_iff_snapshot sound, keeps.record?_snapshot]

/-- After any run the sensors on a port of a device are the watched assets that the first notice
of their watch placed there, each once. So every watched asset is found in one place. This rests
on the records: each holds a notice of its own asset, not a removal and of a kind that is
watched. Nothing that keeps the watches moves a sensor, be it a metric, a notice that places a
watched asset elsewhere, or a change of the clock, the default expiry or the verbosity. -/
theorem sensors_settled_by_first_notice (clock : Clock) (commands : List Command) :
    let scene := run clock commands
    (∀ port parent, (scene.cache.sensors port parent).Nodup ∧
      ∀ name, name ∈ scene.cache.sensors port parent ↔
        ∃ first since notice, Watch name (history clock commands) first since ∧
          first.command = .put (.asset notice) ∧ notice.place = (port, parent)) ∧
      (∀ name, scene.cache.contains name = true ↔
        ∃! place : String × String, name ∈ scene.cache.sensors place.1 place.2) ∧
      (∀ name record, scene.cache.record? name = some record →
        record.snapshot.name = name ∧ record.snapshot.isRemoval = false ∧
          record.snapshot.isTrackedKind = true) ∧
      ∀ command, KeepsWatches scene.cache command → ∀ port parent,
        (scene.step command).cache.sensors port parent = scene.cache.sensors port parent := by
  intro scene
  have sound : Sound scene.cache := sound_run clock commands
  refine ⟨?_, ?_, ?_, ?_⟩
  · intro port parent
    exact ⟨(ascending_sensors sound port parent).nodup, fun _ => mem_sensors_run⟩
  · intro name
    exact contains_iff_existsUnique_place sound
  · intro name record found
    have enrols := sound name record found
    exact ⟨enrols.name, enrols.kept, enrols.kind⟩
  · intro command keeps port parent
    exact keeps.sensors_step sound port parent

/-- A notice that announces a sensor on a port of a device. -/
def sampleSensor (name port parent : String) : AssetNotice :=
  ⟨⟨name⟩, .create,
    .ofList [("type", "device"), ("subtype", "sensor"), ("parent_name.1", parent)],
    .ofList [("port", port)]⟩

/-- A sensor that is announced on another port as well stays on the first one. -/
theorem sensor_announced_elsewhere_stays :
    let scene := run ⟨1000⟩ [.put (.asset (sampleSensor "th1" "1" "ups"))]
    let after := scene.step (.put (.asset (sampleSensor "th1" "2" "epdu")))
    after.cache.sensors "1" "ups" = [⟨"th1"⟩] ∧ after.cache.sensors "2" "epdu" = [] := by
  intro scene after
  obtain ⟨-, -, -, unmoved⟩ :=
    sensors_settled_by_first_notice ⟨1000⟩ [.put (.asset (sampleSensor "th1" "1" "ups"))]
  have keeps : KeepsWatches scene.cache (.put (.asset (sampleSensor "th1" "2" "epdu"))) :=
    .repeated (by decide +kernel) (by decide +kernel)
  constructor
  · exact (unmoved _ keeps "1" "ups").trans (by decide +kernel)
  · exact (unmoved _ keeps "2" "epdu").trans (by decide +kernel)

end Cache

end AssetWatch
