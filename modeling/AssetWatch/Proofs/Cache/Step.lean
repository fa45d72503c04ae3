import AssetWatch.Cache

/-!
# What one operation does to a cache

Every operation of a cache is described once, by the cache and the answer that it leaves; the
reports made on the way are left out. What becomes of a single record is read off these
descriptions.
-/

namespace AssetWatch

namespace Record

theorem narrow_eq (record : Record) (ttl : Seconds) :
    record.narrow ttl = { record with ttl := min record.ttl ttl } := by
  have smallest : (record.narrow ttl).ttl = min record.ttl ttl := by
    rw [← UInt64.toNat_inj, toNat_ttl_narrow, Seconds.toNat_min]
  rw [← smallest]
  unfold narrow
  split <;> rfl

theorem observe_eq (record : Record) (time : Seconds) :
    record.observe time = { record with lastSeen := max record.lastSeen time } := by
  have latest : (record.observe time).lastSeen = max record.lastSeen time := by
    rw [← UInt64.toNat_inj, toNat_lastSeen_observe, Seconds.toNat_max]
  rw [← latest]
  unfold observe
  split <;> rfl

/-- What a metric makes of the record of its asset. -/
def applyMetric (record : Record) (now : Seconds) (metric : Metric) : Record :=
  if now < metric.timeOr now then record.narrow metric.ttl
  else (record.narrow metric.ttl).observe (metric.timeOr now)

/-- The time to live of a metric always counts, its time only if the clock has reached it. -/
theorem applyMetric_eq (record : Record) (now : Seconds) (metric : Metric) :
    record.applyMetric now metric =
      { record with
        ttl := min record.ttl metric.ttl
        lastSeen := if metric.timeOr now ≤ now then max record.lastSeen (metric.timeOr now)
          else record.lastSeen } := by
  unfold applyMetric
  by_cases ahead : now < metric.timeOr now
  · rw [if_pos ahead, if_neg (UInt64.not_le.2 ahead), narrow_eq]
  · rw [if_neg ahead, if_pos (UInt64.not_lt.1 ahead), observe_eq, narrow_eq]

theorem toNat_ttl_applyMetric (record : Record) (now : Seconds) (metric : Metric) :
    (record.applyMetric now metric).ttl.toNat = min record.ttl.toNat metric.ttl.toNat := by
  rw [applyMetric_eq, Seconds.toNat_min]

/-- A time ahead of the clock counts as if there were none. -/
theorem toNat_lastSeen_applyMetric (record : Record) (now : Seconds) (metric : Metric) :
    (record.applyMetric now metric).lastSeen.toNat =
      max record.lastSeen.toNat
        (if metric.timeOr now ≤ now then (metric.timeOr now).toNat else 0) := by
  rw [applyMetric_eq]
  by_cases reached : metric.timeOr now ≤ now
  · simp only [if_pos reached, Seconds.toNat_max]
  · simp only [if_neg reached, Nat.max_zero]

@[simp] theorem snapshot_applyMetric (record : Record) (now : Seconds) (metric : Metric) :
    (record.applyMetric now metric).snapshot = record.snapshot := by
  rw [applyMetric_eq]

/-- The record that a watch begins with. -/
def begun (expiry now : Seconds) (notice : AssetNotice) : Record := ⟨expiry, now, notice⟩

theorem observe_ofNotice (expiry now : Seconds) (notice : AssetNotice) :
    (ofNotice expiry notice).observe now = begun expiry now notice := by
  have unseen : max 0 now = now := by
    rw [← UInt64.toNat_inj, Seconds.toNat_max]
    exact Nat.max_eq_right (Nat.zero_le _)
  rw [observe_eq]
  simp [ofNotice, begun, unseen]

end Record

namespace Cache

theorem contains_eq (cache : Cache) (name : AssetName) :
    cache.contains name = (cache.record? name).isSome := rfl

theorem value_delete (cache : Cache) (name : AssetName) :
    (cache.delete name).value = (cache.remove name, cache.contains name) := rfl

theorem value_putMetric (cache : Cache) (now : Seconds) (metric : Metric) :
    (cache.putMetric now metric).value =
      match cache.record? metric.source with
      | none => (cache, .untracked)
      | some record =>
        (cache.store metric.source (record.applyMetric now metric),
          if now < metric.timeOr now then
            .futureTimestamp metric.source (metric.timeOr now) now
          else .refreshed metric.source) := by
  unfold putMetric
  cases found : cache.record? metric.source with
  | none => rfl
  | some record =>
    by_cases ahead : now < metric.timeOr now <;>
      simp [ahead, Record.applyMetric]

theorem value_putNotice (cache : Cache) (now : Seconds) (notice : AssetNotice) :
    (cache.putNotice now notice).value =
      if notice.isRemoval then
        (cache.remove notice.name, .removed notice.name (cache.contains notice.name))
      else if !notice.isTrackedKind then (cache, .ignored)
      else if cache.contains notice.name then (cache, .alreadyTracked notice.name)
      else
        (cache.store notice.name (Record.begun cache.defaultExpiry now notice),
          .tracked notice.name) := by
  unfold putNotice
  by_cases removal : notice.isRemoval
  · simp [removal, value_delete]
  · by_cases kind : notice.isTrackedKind
    · by_cases known : cache.contains notice.name <;>
        simp [removal, kind, known, Record.observe_ofNotice]
    · simp [removal, kind]

/-! ## What becomes of a record -/

theorem record?_delete (cache : Cache) (name other : AssetName) :
    (cache.delete name).value.1.record? other =
      if name = other then none else cache.record? other := by
  rw [value_delete, record?_remove]

/-- A metric changes the record of its asset, if there is one, and no other record. -/
theorem record?_putMetric (cache : Cache) (now : Seconds) (metric : Metric)
    (other : AssetName) :
    (cache.putMetric now metric).value.1.record? other =
      if metric.source = other then (cache.record? other).map (·.applyMetric now metric)
      else cache.record? other := by
  rw [value_putMetric]
  by_cases same : metric.source = other
  · subst same
    cases found : cache.record? metric.source with
    | none => simp [found]
    | some record => simp [record?_store]
  · cases found : cache.record? metric.source with
    | none => simp [same]
    | some record => simp [record?_store, same]

/-- A notice ends the watch of its asset, begins it, or changes nothing. -/
theorem record?_putNotice (cache : Cache) (now : Seconds) (notice : AssetNotice)
    (other : AssetName) :
    (cache.putNotice now notice).value.1.record? other =
      if notice.name = other then
        if notice.isRemoval then none
        else if notice.isTrackedKind then
          (cache.record? other).or (some (Record.begun cache.defaultExpiry now notice))
        else cache.record? other
      else cache.record? other := by
  rw [value_putNotice]
  by_cases removal : notice.isRemoval
  · simp [removal, record?_remove]
  · by_cases kind : notice.isTrackedKind
    · cases found : cache.record? notice.name with
      | none =>
        by_cases same : notice.name = other
        · subst same
          simp [removal, kind, contains_eq, found, record?_store]
        · simp [removal, kind, contains_eq, found, record?_store, same]
      | some record =>
        by_cases same : notice.name = other
        · subst same
          simp [removal, kind, contains_eq, found]
        · simp [removal, kind, contains_eq, found, same]
    · simp [removal, kind]

/-! ## What stays as it was -/

/-- An event changes nothing of a cache but its records. -/
theorem exists_records_put (cache : Cache) (now : Seconds) (event : Event) :
    ∃ records, (cache.put now event).value.1 = { cache with records := records } := by
  cases event with
  | metric metric =>
    rw [put, value_putMetric]
    split
    · exact ⟨_, rfl⟩
    · exact ⟨_, rfl⟩
  | asset notice =>
    rw [put, value_putNotice]
    repeat' split
    all_goals exact ⟨_, rfl⟩

@[simp] theorem defaultExpiry_put (cache : Cache) (now : Seconds) (event : Event) :
    (cache.put now event).value.1.defaultExpiry = cache.defaultExpiry := by
  obtain ⟨records, after⟩ := exists_records_put cache now event
  rw [after]

@[simp] theorem verbose_put (cache : Cache) (now : Seconds) (event : Event) :
    (cache.put now event).value.1.verbose = cache.verbose := by
  obtain ⟨records, after⟩ := exists_records_put cache now event
  rw [after]

end Cache

end AssetWatch
