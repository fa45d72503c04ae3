import AssetWatch.Proofs.Cache.Answer
import AssetWatch.Proofs.SortedMap

/-!
# What an outcome says about the cache

`Effect` is a table with one row for each outcome: when an event has it, and what it does to the
cache. An event has an outcome and leads to a cache just when the table says so
(`value_put_iff_effect`), so the outcome is a faithful report of the change. Over a run the
answers account for the number of assets that are watched (`size_run`).
-/

namespace AssetWatch

namespace Cache

/-! ## Changes to one asset -/

/-- Two caches differ at most in the record of one asset. -/
structure SameBut (name : AssetName) (cache after : Cache) : Prop where
  others : ∀ other, other ≠ name → after.record? other = cache.record? other
  defaultExpiry : after.defaultExpiry = cache.defaultExpiry
  verbose : after.verbose = cache.verbose

theorem ext_record? {one other : Cache} (records : ∀ name, one.record? name = other.record? name)
    (defaultExpiry : one.defaultExpiry = other.defaultExpiry)
    (verbose : one.verbose = other.verbose) : one = other := by
  have same : one.records = other.records := SortedMap.ext_get? records
  cases one
  cases other
  cases same
  cases defaultExpiry
  cases verbose
  rfl

theorem sameBut_store (cache : Cache) (name : AssetName) (record : Record) :
    SameBut name cache (cache.store name record) where
  others other different := by rw [record?_store, if_neg (Ne.symm different)]
  defaultExpiry := rfl
  verbose := rfl

theorem sameBut_remove (cache : Cache) (name : AssetName) :
    SameBut name cache (cache.remove name) where
  others other different := by rw [record?_remove, if_neg (Ne.symm different)]
  defaultExpiry := rfl
  verbose := rfl

theorem SameBut.eq_store {name : AssetName} {cache after : Cache} {record : Record}
    (only : SameBut name cache after) (found : after.record? name = some record) :
    after = cache.store name record := by
  refine ext_record? ?_ only.defaultExpiry only.verbose
  intro other
  rw [record?_store]
  split
  next same => exact same ▸ found
  next different => exact only.others other (Ne.symm different)

theorem SameBut.eq_remove {name : AssetName} {cache after : Cache}
    (only : SameBut name cache after) (gone : after.record? name = none) :
    after = cache.remove name := by
  refine ext_record? ?_ only.defaultExpiry only.verbose
  intro other
  rw [record?_remove]
  split
  next same => exact same ▸ gone
  next different => exact only.others other (Ne.symm different)

theorem contains_eq_true_iff {cache : Cache} {name : AssetName} :
    cache.contains name = true ↔ ∃ record, cache.record? name = some record :=
  Option.isSome_iff_exists

theorem size_store (cache : Cache) (name : AssetName) (record : Record) :
    (cache.store name record).size = if cache.contains name then cache.size else cache.size + 1 :=
  SortedMap.size_insert _ _ _

theorem remove_eq_self {cache : Cache} {name : AssetName} (h : cache.contains name = false) :
    cache.remove name = cache := by
  rw [remove, SortedMap.erase_of_not_contains h]

theorem size_remove {cache : Cache} {name : AssetName} (h : cache.contains name = true) :
    (cache.remove name).size + 1 = cache.size :=
  SortedMap.size_erase h

/-! ## The table of outcomes -/

/-- When an event has an outcome, and what the cache is after it. -/
inductive Effect (cache : Cache) (now : Seconds) : Event → Outcome → Cache → Prop
  | untracked {metric : Metric} (absent : cache.record? metric.source = none) :
      Effect cache now (.metric metric) .untracked cache
  | futureTimestamp {metric : Metric} {time : Seconds} {record : Record} {after : Cache}
      (found : cache.record? metric.source = some record)
      (declared : metric.time = some time) (ahead : now < time)
      (only : SameBut metric.source cache after)
      (narrowed : after.record? metric.source =
        some { record with ttl := min record.ttl metric.ttl })
      (size : after.size = cache.size) :
      Effect cache now (.metric metric) (.futureTimestamp metric.source time now) after
  | refreshed {metric : Metric} {record : Record} {after : Cache}
      (found : cache.record? metric.source = some record)
      (reached : metric.timeOr now ≤ now)
      (only : SameBut metric.source cache after)
      (renewed : after.record? metric.source =
        some { record with
          ttl := min record.ttl metric.ttl
          lastSeen := max record.lastSeen (metric.timeOr now) })
      (size : after.size = cache.size) :
      Effect cache now (.metric metric) (.refreshed metric.source) after
  | removed {notice : AssetNotice} {after : Cache}
      (removal : notice.isRemoval = true)
      (found : cache.contains notice.name = true)
      (only : SameBut notice.name cache after)
      (gone : after.record? notice.name = none)
      (size : after.size + 1 = cache.size) :
      Effect cache now (.asset notice) (.removed notice.name true) after
  | removedNothing {notice : AssetNotice}
      (removal : notice.isRemoval = true)
      (absent : cache.contains notice.name = false) :
      Effect cache now (.asset notice) (.removed notice.name false) cache
  | ignored {notice : AssetNotice}
      (kept : notice.isRemoval = false)
      (unwatched : notice.isTrackedKind = false) :
      Effect cache now (.asset notice) .ignored cache
  | alreadyTracked {notice : AssetNotice}
      (kept : notice.isRemoval = false)
      (kind : notice.isTrackedKind = true)
      (found : cache.contains notice.name = true) :
      Effect cache now (.asset notice) (.alreadyTracked notice.name) cache
  | tracked {notice : AssetNotice} {after : Cache}
      (kept : notice.isRemoval = false)
      (kind : notice.isTrackedKind = true)
      (absent : cache.contains notice.name = false)
      (only : SameBut notice.name cache after)
      (begun : after.record? notice.name = some ⟨cache.defaultExpiry, now, notice⟩)
      (size : after.size = cache.size + 1) :
      Effect cache now (.asset notice) (.tracked notice.name) after

variable {cache after : Cache} {now : Seconds} {event : Event} {outcome : Outcome}

/-- A time that lies ahead of the clock has been declared. -/
theorem time_of_lt_timeOr {metric : Metric} (ahead : now < metric.timeOr now) :
    metric.time = some (metric.timeOr now) := by
  unfold Metric.timeOr at *
  cases declared : metric.time with
  | none =>
    rw [declared] at ahead
    exact absurd ahead (UInt64.lt_irrefl now)
  | some time => rfl

/-- What a metric does is in the table. -/
theorem effect_putMetric (cache : Cache) (now : Seconds) (metric : Metric) :
    Effect cache now (.metric metric) (cache.putMetric now metric).value.2
      (cache.putMetric now metric).value.1 := by
  rw [value_putMetric]
  cases found : cache.record? metric.source with
  | none => exact .untracked found
  | some record =>
    have watched : cache.contains metric.source = true := contains_eq_true_iff.2 ⟨record, found⟩
    have size (changed : Record) : (cache.store metric.source changed).size = cache.size := by
      rw [size_store, if_pos watched]
    have stored (changed : Record) :
        (cache.store metric.source changed).record? metric.source = some changed := by
      rw [record?_store, if_pos rfl]
    by_cases ahead : now < metric.timeOr now
    · simp only [if_pos ahead]
      apply Effect.futureTimestamp found (time_of_lt_timeOr ahead) ahead (sameBut_store _ _ _)
      · rw [stored, Record.applyMetric_eq, if_neg (UInt64.not_le.2 ahead)]
      · exact size _
    · have reached : metric.timeOr now ≤ now := UInt64.not_lt.1 ahead
      simp only [if_neg ahead]
      apply Effect.refreshed found reached (sameBut_store _ _ _)
      · rw [stored, Record.applyMetric_eq, if_pos reached]
      · exact size _

/-- What a notice does is in the table. -/
theorem effect_putNotice (cache : Cache) (now : Seconds) (notice : AssetNotice) :
    Effect cache now (.asset notice) (cache.putNotice now notice).value.2
      (cache.putNotice now notice).value.1 := by
  rw [value_putNotice]
  cases removal : notice.isRemoval with
  | true =>
    rw [if_pos rfl]
    cases watched : cache.contains notice.name with
    | true =>
      apply Effect.removed removal watched (sameBut_remove _ _)
      · rw [record?_remove, if_pos rfl]
      · exact size_remove watched
    | false =>
      simp only [remove_eq_self watched]
      exact .removedNothing removal watched
  | false =>
    rw [if_neg Bool.false_ne_true]
    cases kind : notice.isTrackedKind with
    | false => exact .ignored removal kind
    | true =>
      cases watched : cache.contains notice.name with
      | true => exact .alreadyTracked removal kind watched
      | false =>
        apply Effect.tracked removal kind watched (sameBut_store _ _ _)
        · rw [record?_store, if_pos rfl]
          rfl
        · rw [size_store, if_neg (by simp [watched])]

theorem effect_put (cache : Cache) (now : Seconds) (event : Event) :
    Effect cache now event (cache.put now event).value.2 (cache.put now event).value.1 := by
  cases event with
  | metric metric => exact effect_putMetric cache now metric
  | asset notice => exact effect_putNotice cache now notice

/-- A row of the table says all about the outcome and about the cache after the event. -/
theorem Effect.value_put (h : Effect cache now event outcome after) :
    (cache.put now event).value = (after, outcome) := by
  cases h with
  | untracked absent => rw [put, value_putMetric, absent]
  | @futureTimestamp metric time record _ found declared ahead only narrowed size =>
    have shown : metric.timeOr now = time := by rw [Metric.timeOr, declared, Option.getD_some]
    have applied : record.applyMetric now metric =
        { record with ttl := min record.ttl metric.ttl } := by
      rw [Record.applyMetric_eq, shown, if_neg (UInt64.not_le.2 ahead)]
    rw [put, value_putMetric, found]
    simp only [shown, if_pos ahead, applied]
    rw [only.eq_store narrowed]
  | @refreshed metric record _ found reached only renewed size =>
    have applied : record.applyMetric now metric = { record with
        ttl := min record.ttl metric.ttl
        lastSeen := max record.lastSeen (metric.timeOr now) } := by
      rw [Record.applyMetric_eq, if_pos reached]
    rw [put, value_putMetric, found]
    simp only [if_neg (UInt64.not_lt.2 reached), applied]
    rw [only.eq_store renewed]
  | removed removal found only gone size =>
    rw [put, value_putNotice, if_pos removal, found, only.eq_remove gone]
  | removedNothing removal absent =>
    rw [put, value_putNotice, if_pos removal, absent, remove_eq_self absent]
  | ignored kept unwatched => simp [put, value_putNotice, kept, unwatched]
  | alreadyTracked kept kind found => simp [put, value_putNotice, kept, kind, found]
  | tracked kept kind absent only begun size =>
    simp only [put, value_putNotice, kept, kind, absent]
    rw [only.eq_store begun]
    rfl

/-- An event has an outcome and leads to a cache just when the table says so. -/
theorem value_put_iff_effect :
    (cache.put now event).value = (after, outcome) ↔ Effect cache now event outcome after := by
  constructor
  · intro h
    have effect := effect_put cache now event
    rw [h] at effect
    exact effect
  · exact Effect.value_put

/-! ## When an outcome arises -/

theorem exists_effect_of_outcome (h : (cache.put now event).value.2 = outcome) :
    ∃ after, Effect cache now event outcome after :=
  ⟨_, h ▸ effect_put cache now event⟩

theorem outcome_put_eq_tracked_iff {name : AssetName} :
    (cache.put now event).value.2 = .tracked name ↔
      cache.contains name = false ∧ ∃ notice, event = .asset notice ∧ notice.name = name ∧
        notice.isRemoval = false ∧ notice.isTrackedKind = true := by
  constructor
  · intro h
    obtain ⟨after, effect⟩ := exists_effect_of_outcome h
    cases effect with
    | tracked kept kind absent only begun size => exact ⟨absent, _, rfl, rfl, kept, kind⟩
  · rintro ⟨absent, notice, rfl, rfl, kept, kind⟩
    simp [put, value_putNotice, kept, kind, absent]

theorem outcome_put_eq_removed_iff {name : AssetName} {existed : Bool} :
    (cache.put now event).value.2 = .removed name existed ↔
      cache.contains name = existed ∧ ∃ notice, event = .asset notice ∧ notice.name = name ∧
        notice.isRemoval = true := by
  constructor
  · intro h
    obtain ⟨after, effect⟩ := exists_effect_of_outcome h
    cases effect with
    | removed removal found only gone size => exact ⟨found, _, rfl, rfl, removal⟩
    | removedNothing removal absent => exact ⟨absent, _, rfl, rfl, removal⟩
  · rintro ⟨rfl, notice, rfl, rfl, removal⟩
    simp [put, value_putNotice, removal]

theorem outcome_put_eq_futureTimestamp_iff {name : AssetName} {time instant : Seconds} :
    (cache.put now event).value.2 = .futureTimestamp name time instant ↔
      cache.contains name = true ∧ instant = now ∧ now < time ∧
        ∃ metric, event = .metric metric ∧ metric.source = name ∧ metric.time = some time := by
  constructor
  · intro h
    obtain ⟨after, effect⟩ := exists_effect_of_outcome h
    cases effect with
    | futureTimestamp found declared ahead only narrowed size =>
      exact ⟨contains_eq_true_iff.2 ⟨_, found⟩, rfl, ahead, _, rfl, rfl, declared⟩
  · rintro ⟨watched, rfl, ahead, metric, rfl, rfl, declared⟩
    obtain ⟨record, found⟩ := contains_eq_true_iff.1 watched
    have shown : metric.timeOr instant = time := by rw [Metric.timeOr, declared, Option.getD_some]
    simp [put, value_putMetric, found, shown, ahead]

/-! ## The number of watched assets -/

/-- Whether an event has begun a watch. -/
def Answer.tellsTracked : Answer → Bool
  | .outcome (.tracked _) => true
  | _ => false

/-- Whether an event has ended a watch. -/
def Answer.tellsRemoved : Answer → Bool
  | .outcome (.removed _ true) => true
  | _ => false

/-- Whether an asset was deleted that was watched. -/
def Answer.tellsDeleted : Answer → Bool
  | .existed true => true
  | _ => false

/-- The outcome of an event accounts for the change in the number of watched assets. -/
theorem Effect.size_add (h : Effect cache now event outcome after) :
    after.size + [Answer.outcome outcome].countP Answer.tellsRemoved +
        [Answer.outcome outcome].countP Answer.tellsDeleted =
      cache.size + [Answer.outcome outcome].countP Answer.tellsTracked := by
  cases h with
  | futureTimestamp _ _ _ _ _ size => exact size
  | refreshed _ _ _ _ size => exact size
  | removed _ _ _ _ size => exact size
  | tracked _ _ _ _ _ size => exact size
  | untracked _ => rfl
  | removedNothing _ _ => rfl
  | ignored _ _ => rfl
  | alreadyTracked _ _ _ => rfl

/-- So does the answer to a deletion. -/
theorem size_remove_add (cache : Cache) (name : AssetName) :
    (cache.remove name).size + [Answer.existed (cache.contains name)].countP Answer.tellsRemoved +
        [Answer.existed (cache.contains name)].countP Answer.tellsDeleted =
      cache.size + [Answer.existed (cache.contains name)].countP Answer.tellsTracked := by
  cases watched : cache.contains name with
  | true => exact size_remove watched
  | false =>
    rw [remove_eq_self watched]
    rfl

theorem Scene.size_step (scene : Scene) (command : Command) :
    (scene.step command).cache.size + [scene.answer command].countP Answer.tellsRemoved +
        [scene.answer command].countP Answer.tellsDeleted =
      scene.cache.size + [scene.answer command].countP Answer.tellsTracked := by
  cases command with
  | put event => exact (effect_put scene.cache scene.now event).size_add
  | delete name => exact size_remove_add scene.cache name
  | setDefaultExpiry expiry => rfl
  | setVerbose verbose => rfl
  | setClock now => rfl

/-- The answers to commands account for the change in the number of watched assets. -/
theorem size_foldl (scene : Scene) (commands : List Command) :
    (commands.foldl Scene.step scene).cache.size +
        (answersFrom scene commands).countP Answer.tellsRemoved +
        (answersFrom scene commands).countP Answer.tellsDeleted =
      scene.cache.size + (answersFrom scene commands).countP Answer.tellsTracked := by
  induction commands generalizing scene with
  | nil => rfl
  | cons command rest ih =>
    have head := scene.size_step command
    have tail := ih (scene.step command)
    rw [answersFrom, List.foldl_cons, ← List.singleton_append, List.countP_append,
      List.countP_append, List.countP_append]
    omega

/-- The assets that are watched after a run are those whose watch has begun, but for those
whose watch has ended. -/
theorem size_run (clock : Clock) (commands : List Command) :
    (run clock commands).cache.size + (answers clock commands).countP Answer.tellsRemoved +
        (answers clock commands).countP Answer.tellsDeleted =
      (answers clock commands).countP Answer.tellsTracked := by
  have counted := size_foldl ⟨new, clock⟩ commands
  have empty : new.size = 0 := rfl
  rw [empty, Nat.zero_add] at counted
  exact counted

/-- The outcome of an event tells what has become of the cache: one row of the table holds for the
event, and nothing has changed but what the row says. A watch begins just when an asset that is
not watched is announced as one of a kind that is watched, a removal tells whether the asset was
watched, and a metric is told to lie ahead of the clock just when its asset is watched and it
declares such a time. No event changes the default expiry or the verbosity. So over any run the
number of watched assets can be counted from the answers. -/
theorem put_reports_faithfully :
    (∀ (cache after : Cache) (now : Seconds) (event : Event) (outcome : Outcome),
      (cache.put now event).value = (after, outcome) ↔ Effect cache now event outcome after) ∧
    (∀ (cache : Cache) (now : Seconds) (event : Event) (name : AssetName),
      ((cache.put now event).value.2 = .tracked name ↔
        cache.contains name = false ∧ ∃ notice, event = .asset notice ∧ notice.name = name ∧
          notice.isRemoval = false ∧ notice.isTrackedKind = true) ∧
      (∀ existed, (cache.put now event).value.2 = .removed name existed ↔
        cache.contains name = existed ∧ ∃ notice, event = .asset notice ∧ notice.name = name ∧
          notice.isRemoval = true) ∧
      ∀ time instant, (cache.put now event).value.2 = .futureTimestamp name time instant ↔
        cache.contains name = true ∧ instant = now ∧ now < time ∧
          ∃ metric, event = .metric metric ∧ metric.source = name ∧ metric.time = some time) ∧
    (∀ (cache : Cache) (now : Seconds) (event : Event),
      (cache.put now event).value.1.defaultExpiry = cache.defaultExpiry ∧
        (cache.put now event).value.1.verbose = cache.verbose) ∧
    ∀ clock commands,
      (run clock commands).cache.size + (answers clock commands).countP Answer.tellsRemoved +
          (answers clock commands).countP Answer.tellsDeleted =
        (answers clock commands).countP Answer.tellsTracked := by
  refine ⟨?_, ?_, ?_, size_run⟩
  · intro cache after now event outcome
    exact value_put_iff_effect
  · intro cache now event name
    refine ⟨outcome_put_eq_tracked_iff, ?_, ?_⟩
    · intro existed
      exact outcome_put_eq_removed_iff
    · intro time instant
      exact outcome_put_eq_futureTimestamp_iff
  · intro cache now event
    exact ⟨defaultExpiry_put cache now event, verbose_put cache now event⟩

end Cache

end AssetWatch
