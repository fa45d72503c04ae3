import AssetWatch.Proofs.Cache.Run
import Mathlib.Data.List.DropRight

/-!
# What a history says about a cache

The record of an asset can be computed from the commands of a run alone, without keeping a
cache. Only the commands after the last removal of the asset matter, its epoch. The watch
begins with the first announcement in it, and the metrics that come later add to a minimum
and to a maximum. `run_eq_history` says that the cache holds just this record.
-/

namespace AssetWatch.Cache

/-- A command with what the clock showed and the default expiry in force when it was given. -/
structure Moment where
  command : Command
  now : Seconds
  expiry : Seconds

namespace Moment

/-- Whether the asset is removed, be it watched or not. -/
def removes (name : AssetName) (moment : Moment) : Bool :=
  match moment.command with
  | .put (.asset notice) => notice.name = name && notice.isRemoval
  | .delete other => other = name
  | _ => false

/-- Whether the asset is announced as one of a kind that is watched. -/
def announces (name : AssetName) (moment : Moment) : Bool :=
  match moment.command with
  | .put (.asset notice) => notice.name = name && notice.isTrackedKind
  | _ => false

/-- The time to live that a metric of the asset promises. -/
def ttl? (name : AssetName) (moment : Moment) : Option Seconds :=
  match moment.command with
  | .put (.metric metric) => if metric.source = name then some metric.ttl else none
  | _ => none

/-- The time at which a metric of the asset was observed, unless it lies ahead of the clock. -/
def observation? (name : AssetName) (moment : Moment) : Option Seconds :=
  match moment.command with
  | .put (.metric metric) =>
    if metric.source = name ∧ metric.timeOr moment.now ≤ moment.now then
      some (metric.timeOr moment.now)
    else none
  | _ => none

end Moment

/-- The commands of a run, each at its moment. -/
def momentsFrom (now expiry : Seconds) : List Command → List Moment
  | [] => []
  | command :: rest =>
    ⟨command, now, expiry⟩
      :: momentsFrom (command.clockAfter now) (command.expiryAfter expiry) rest

/-- The history of a run. -/
def history (clock : Clock) (commands : List Command) : List Moment :=
  momentsFrom clock.now new.defaultExpiry commands

/-- The part of a history after the last removal of the asset. -/
def epoch (name : AssetName) (history : List Moment) : List Moment :=
  history.rtakeWhile fun moment => !moment.removes name

/-- The record of an asset with the given epoch: it begins with the first announcement, and
the later metrics narrow the time to live and put off the last observation. -/
def recordOf? (name : AssetName) (epoch : List Moment) : Option Record :=
  match epoch.dropWhile fun moment => !moment.announces name with
  | ⟨.put (.asset notice), now, expiry⟩ :: later =>
    some {
      ttl := (later.filterMap (Moment.ttl? name)).foldl min expiry
      lastSeen := (later.filterMap (Moment.observation? name)).foldl max now
      snapshot := notice }
  | _ => none

/-! ## Histories of longer runs -/

theorem momentsFrom_concat (scene : Scene) (commands : List Command) (command : Command) :
    momentsFrom scene.now scene.cache.defaultExpiry (commands ++ [command]) =
      momentsFrom scene.now scene.cache.defaultExpiry commands ++
        [⟨command, (commands.foldl Scene.step scene).now,
          (commands.foldl Scene.step scene).cache.defaultExpiry⟩] := by
  induction commands generalizing scene with
  | nil => rfl
  | cons first rest ih =>
    simp only [List.cons_append, momentsFrom, List.foldl_cons, List.cons.injEq, true_and]
    rw [← Scene.now_step, ← Scene.defaultExpiry_step]
    exact ih (scene.step first)

/-- The last command of a run finds the clock and the default expiry as the run before it
left them. -/
theorem history_concat (clock : Clock) (commands : List Command) (command : Command) :
    history clock (commands ++ [command]) =
      history clock commands ++
        [⟨command, (run clock commands).now, (run clock commands).cache.defaultExpiry⟩] :=
  momentsFrom_concat ⟨new, clock⟩ commands command

theorem epoch_concat (name : AssetName) (history : List Moment) (moment : Moment) :
    epoch name (history ++ [moment]) =
      if moment.removes name then [] else epoch name history ++ [moment] := by
  unfold epoch
  rw [List.rtakeWhile_concat]
  cases moment.removes name <;> simp

/-! ## One more moment -/

/-- What a moment makes of the record of an asset that is watched. -/
def Moment.amend (name : AssetName) (moment : Moment) (record : Record) : Record :=
  { record with
    ttl := (moment.ttl? name).elim record.ttl (min record.ttl)
    lastSeen := (moment.observation? name).elim record.lastSeen (max record.lastSeen) }

/-- The record that a moment begins, if it announces the asset. -/
def Moment.begins? (name : AssetName) (moment : Moment) : Option Record :=
  match moment.command with
  | .put (.asset notice) =>
    if notice.name = name ∧ notice.isTrackedKind then
      some (Record.begun moment.expiry moment.now notice)
    else none
  | _ => none

theorem exists_notice_of_announces {name : AssetName} {moment : Moment}
    (h : moment.announces name = true) :
    ∃ notice, moment.command = .put (.asset notice) ∧ notice.name = name ∧
      notice.isTrackedKind = true := by
  unfold Moment.announces at h
  split at h
  next notice command =>
    rw [Bool.and_eq_true, decide_eq_true_eq] at h
    exact ⟨notice, command, h⟩
  · cases h

theorem begins?_isSome (name : AssetName) (moment : Moment) :
    (moment.begins? name).isSome = moment.announces name := by
  unfold Moment.begins? Moment.announces
  split
  next notice _ =>
    by_cases same : notice.name = name <;> cases notice.isTrackedKind <;> simp [same]
  · rfl

theorem foldl_filterMap_concat {α : Type} (f : Moment → Option α) (op : α → α → α) (first : α)
    (moments : List Moment) (moment : Moment) :
    ((moments ++ [moment]).filterMap f).foldl op first =
      (f moment).elim ((moments.filterMap f).foldl op first)
        (op ((moments.filterMap f).foldl op first)) := by
  cases found : f moment <;> simp [List.filterMap_append, found]

/-- An epoch with an announcement has a record, whose snapshot is the first such notice. -/
theorem recordOf?_of_dropWhile {name : AssetName} {epoch later : List Moment} {first : Moment}
    (h : epoch.dropWhile (fun moment => !moment.announces name) = first :: later) :
    ∃ notice, first.command = .put (.asset notice) ∧ recordOf? name epoch = some {
      ttl := (later.filterMap (Moment.ttl? name)).foldl min first.expiry
      lastSeen := (later.filterMap (Moment.observation? name)).foldl max first.now
      snapshot := notice } := by
  have announced : first.announces name = true := by
    have := List.head?_dropWhile_not (fun moment => !moment.announces name) epoch
    simpa [h] using this
  obtain ⟨notice, command, -⟩ := exists_notice_of_announces announced
  refine ⟨notice, command, ?_⟩
  obtain ⟨_, now, expiry⟩ := first
  subst command
  rw [recordOf?, h]

theorem recordOf?_isSome (name : AssetName) (epoch : List Moment) :
    (recordOf? name epoch).isSome = true ↔ ∃ moment ∈ epoch, moment.announces name = true := by
  cases watch : epoch.dropWhile fun moment => !moment.announces name with
  | nil =>
    rw [recordOf?, watch]
    simpa [List.dropWhile_eq_nil_iff] using watch
  | cons first later =>
    obtain ⟨_, -, record⟩ := recordOf?_of_dropWhile watch
    have announced := List.head?_dropWhile_not (fun moment => !moment.announces name) epoch
    have member : first ∈ epoch :=
      (List.dropWhile_sublist _).subset (watch ▸ List.mem_cons_self)
    rw [record]
    simp only [watch, List.head?_cons] at announced
    exact iff_of_true rfl ⟨first, member, by simpa using announced⟩

/-- Once an asset is watched, further announcements change nothing. -/
theorem recordOf?_concat (name : AssetName) (epoch : List Moment) (moment : Moment) :
    recordOf? name (epoch ++ [moment]) =
      ((recordOf? name epoch).map (moment.amend name)).or (moment.begins? name) := by
  cases watch : epoch.dropWhile fun moment => !moment.announces name with
  | nil =>
    have unknown : recordOf? name epoch = none := by rw [recordOf?, watch]
    rw [unknown, recordOf?, List.dropWhile_append, watch, List.isEmpty_nil, if_pos rfl]
    cases announced : moment.announces name with
    | false =>
      have begins : moment.begins? name = none := by
        rw [← Option.not_isSome_iff_eq_none, begins?_isSome, announced]
        exact Bool.false_ne_true
      rw [List.dropWhile_cons_of_pos (by simp [announced]), begins]
      rfl
    | true =>
      obtain ⟨notice, command, same, kind⟩ := exists_notice_of_announces announced
      obtain ⟨_, now, expiry⟩ := moment
      subst command
      rw [List.dropWhile_cons_of_neg (by simp [announced])]
      simp [Moment.begins?, same, kind, Record.begun]
  | cons first later =>
    have longer : (epoch ++ [moment]).dropWhile (fun moment => !moment.announces name) =
        first :: (later ++ [moment]) := by
      rw [List.dropWhile_append, watch]
      rfl
    obtain ⟨notice, command, before⟩ := recordOf?_of_dropWhile watch
    obtain ⟨_, command', after⟩ := recordOf?_of_dropWhile longer
    rw [command] at command'
    cases command'
    rw [before, after, foldl_filterMap_concat, foldl_filterMap_concat]
    rfl

/-! ## One more command -/

/-- The moment of a command that is given now. -/
def Scene.moment (scene : Scene) (command : Command) : Moment :=
  ⟨command, scene.now, scene.cache.defaultExpiry⟩

/-- A moment without events leaves a record as it is. -/
theorem amend_eq_self {name : AssetName} {moment : Moment} (record : Record)
    (ttl : moment.ttl? name = none) (observation : moment.observation? name = none) :
    moment.amend name record = record := by
  rw [Moment.amend, ttl, observation]
  rfl

theorem amend_of_metric {name : AssetName} {metric : Metric} (same : metric.source = name)
    (now expiry : Seconds) (record : Record) :
    Moment.amend name ⟨.put (.metric metric), now, expiry⟩ record =
      record.applyMetric now metric := by
  rw [Record.applyMetric_eq]
  by_cases reached : metric.timeOr now ≤ now <;>
    simp [Moment.amend, Moment.ttl?, Moment.observation?, same, reached]

/-- A command removes the record of an asset, amends it, begins it, or leaves it alone. -/
theorem Scene.record?_step (scene : Scene) (command : Command) (name : AssetName) :
    (scene.step command).cache.record? name =
      if (scene.moment command).removes name then none
      else ((scene.cache.record? name).map ((scene.moment command).amend name)).or
        ((scene.moment command).begins? name) := by
  cases command with
  | put event =>
    cases event with
    | metric metric =>
      change (scene.cache.putMetric scene.now metric).value.1.record? name = _
      rw [record?_putMetric]
      by_cases same : metric.source = name
      · rw [if_pos same]
        cases scene.cache.record? name with
        | none => rfl
        | some record => exact congrArg some (amend_of_metric same _ _ record).symm
      · rw [if_neg same]
        have ttl : (scene.moment (.put (.metric metric))).ttl? name = none := if_neg same
        have observation : (scene.moment (.put (.metric metric))).observation? name = none :=
          if_neg fun h => same h.1
        cases scene.cache.record? name with
        | none => rfl
        | some record => exact congrArg some (amend_eq_self record ttl observation).symm
    | asset notice =>
      have unamended (found : Option Record) :
          found.map ((scene.moment (.put (.asset notice))).amend name) = found := by
        cases found <;> rfl
      change (scene.cache.putNotice scene.now notice).value.1.record? name = _
      rw [record?_putNotice, unamended]
      by_cases same : notice.name = name
      · cases removal : notice.isRemoval with
        | true => simp [moment, Moment.removes, same, removal]
        | false =>
          cases kind : notice.isTrackedKind <;>
            simp [moment, Moment.removes, Moment.begins?, same, removal, kind]
      · simp [moment, Moment.removes, Moment.begins?, same]
  | delete other =>
    have unamended (found : Option Record) :
        found.map ((scene.moment (.delete other)).amend name) = found := by
      cases found <;> rfl
    change (scene.cache.delete other).value.1.record? name = _
    rw [record?_delete, unamended]
    by_cases same : other = name <;>
      simp [moment, Moment.removes, Moment.begins?, same]
  | setDefaultExpiry expiry => cases found : scene.cache.record? name <;> exact found
  | setVerbose verbose => cases found : scene.cache.record? name <;> exact found
  | setClock now => cases found : scene.cache.record? name <;> exact found

/-- The record of an asset is the one that its epoch gives. -/
theorem record?_run (clock : Clock) (commands : List Command) (name : AssetName) :
    (run clock commands).cache.record? name =
      recordOf? name (epoch name (history clock commands)) := by
  induction commands using List.reverseRecOn with
  | nil => rfl
  | append_singleton commands command ih =>
    rw [run_concat, Scene.record?_step, history_concat, epoch_concat]
    change (if Moment.removes name ⟨command, _, _⟩ then _ else _) = _
    split
    · rfl
    · rw [ih, recordOf?_concat]
      rfl

/-- After any run the cache watches the assets that were announced since their last removal,
with the time to live, the last observation and the snapshot that the history gives, and each
of them expires two times to live after its last observation. -/
theorem run_eq_history (clock : Clock) (commands : List Command) (name : AssetName) :
    let cache := (run clock commands).cache
    let past := epoch name (history clock commands)
    (cache.contains name = true ↔ ∃ moment ∈ past, moment.announces name = true) ∧
      cache.record? name = recordOf? name past ∧
      (cache.expiration? name).map UInt64.toNat = (recordOf? name past).map fun record =>
        min (UInt64.size - 1) (record.lastSeen.toNat + 2 * record.ttl.toNat) := by
  intro cache past
  have record : cache.record? name = recordOf? name past := record?_run clock commands name
  refine ⟨?_, record, ?_⟩
  · rw [contains_eq, record, recordOf?_isSome]
  · rw [expiration?, record, Option.map_map]
    congr 1
    funext record
    rw [Function.comp_apply, Record.toNat_expiration, Nat.min_comm]

end AssetWatch.Cache
