import AssetWatch.Proofs.Cache.Effect
import Mathlib.Data.List.Dedup

/-!
# Metrics that arrive at one instant

While the clock stands still it does not matter in which order metrics arrive, nor how often
each of them does. A record keeps the smallest time to live and the latest observation, so two
metrics commute and a repeated one adds nothing (`Record.applyMetric_comm`,
`Record.applyMetric_idem`); the same holds of a cache, whose answers to metrics do not depend on
other metrics. A burst of metrics is therefore known by its members (`burst_known_by_members`).
-/

namespace AssetWatch

namespace Record

theorem ext_toNat {one other : Record} (ttl : one.ttl.toNat = other.ttl.toNat)
    (lastSeen : one.lastSeen.toNat = other.lastSeen.toNat)
    (snapshot : one.snapshot = other.snapshot) : one = other := by
  cases one
  cases other
  cases UInt64.toNat_inj.1 ttl
  cases UInt64.toNat_inj.1 lastSeen
  cases snapshot
  rfl

variable (record : Record) (now : Seconds)

/-- Two metrics of one asset may change places. -/
theorem applyMetric_comm (first second : Metric) :
    (record.applyMetric now first).applyMetric now second =
      (record.applyMetric now second).applyMetric now first := by
  apply ext_toNat
  · simp only [toNat_ttl_applyMetric]
    omega
  · simp only [toNat_lastSeen_applyMetric]
    omega
  · simp only [snapshot_applyMetric]

/-- A metric that comes again adds nothing. -/
theorem applyMetric_idem (metric : Metric) :
    (record.applyMetric now metric).applyMetric now metric = record.applyMetric now metric := by
  apply ext_toNat
  · simp only [toNat_ttl_applyMetric]
    omega
  · simp only [toNat_lastSeen_applyMetric]
    omega
  · simp only [snapshot_applyMetric]

end Record

namespace Cache

/-! ## Two metrics -/

/-- The command by which a metric arrives. -/
def arrival (metric : Metric) : Command := .put (.metric metric)

variable (scene : Scene)

theorem Scene.record?_step_arrival (metric : Metric) (name : AssetName) :
    (scene.step (arrival metric)).cache.record? name =
      if metric.source = name then
        (scene.cache.record? name).map (·.applyMetric scene.now metric)
      else scene.cache.record? name :=
  record?_putMetric _ _ _ _

theorem Scene.now_step_arrival (metric : Metric) :
    (scene.step (arrival metric)).now = scene.now := rfl

/-- Scenes are the same if their clocks are and their caches know the same. -/
theorem Scene.ext_record? {one other : Scene} (clock : one.clock = other.clock)
    (records : ∀ name, one.cache.record? name = other.cache.record? name)
    (defaultExpiry : one.cache.defaultExpiry = other.cache.defaultExpiry)
    (verbose : one.cache.verbose = other.cache.verbose) : one = other := by
  have caches := Cache.ext_record? records defaultExpiry verbose
  cases one
  cases other
  cases clock
  cases caches
  rfl

theorem Scene.step_arrival_comm (first second : Metric) :
    (scene.step (arrival first)).step (arrival second) =
      (scene.step (arrival second)).step (arrival first) := by
  refine Scene.ext_record? rfl ?_ ?_ ?_
  · intro name
    simp only [record?_step_arrival, now_step_arrival]
    cases scene.cache.record? name with
    | none => simp
    | some record =>
      by_cases one : first.source = name <;> by_cases other : second.source = name <;>
        simp [one, other, record.applyMetric_comm]
  · simp [step, arrival]
  · simp [step, arrival]

theorem Scene.step_arrival_idem (metric : Metric) :
    (scene.step (arrival metric)).step (arrival metric) = scene.step (arrival metric) := by
  refine Scene.ext_record? rfl ?_ ?_ ?_
  · intro name
    simp only [record?_step_arrival, now_step_arrival]
    cases scene.cache.record? name with
    | none => simp
    | some record =>
      by_cases same : metric.source = name <;> simp [same, record.applyMetric_idem]
  · simp [step, arrival]
  · simp [step, arrival]

/-- What a metric is answered depends on the clock and on whether its asset is watched. -/
theorem Scene.answer_arrival (metric : Metric) :
    scene.answer (arrival metric) = .outcome
      (if scene.cache.contains metric.source then
        if scene.now < metric.timeOr scene.now then
          .futureTimestamp metric.source (metric.timeOr scene.now) scene.now
        else .refreshed metric.source
      else .untracked) := by
  change Answer.outcome (scene.cache.putMetric scene.now metric).value.2 = _
  rw [value_putMetric, contains_eq]
  cases scene.cache.record? metric.source <;> rfl

/-- No metric changes what another one is answered. -/
theorem Scene.answer_step_arrival (first second : Metric) :
    (scene.step (arrival first)).answer (arrival second) = scene.answer (arrival second) := by
  have watched : (scene.step (arrival first)).cache.contains second.source =
      scene.cache.contains second.source := by
    rw [contains_eq, contains_eq, record?_step_arrival]
    split
    · exact Option.isSome_map
    · rfl
  rw [answer_arrival, answer_arrival, watched, now_step_arrival]

/-! ## Bursts of metrics -/

/-- The commands by which metrics arrive one after the other. -/
def arrivals (metrics : List Metric) : List Command := metrics.map arrival

theorem foldl_arrivals (metrics : List Metric) :
    (arrivals metrics).foldl Scene.step scene =
      metrics.foldl (fun scene metric => scene.step (arrival metric)) scene :=
  List.foldl_map

/-- A metric that comes again later may be left out now. -/
theorem foldl_step_of_mem {metric : Metric} {metrics : List Metric} (again : metric ∈ metrics) :
    (arrivals metrics).foldl Scene.step (scene.step (arrival metric)) =
      (arrivals metrics).foldl Scene.step scene := by
  induction metrics generalizing scene with
  | nil => cases again
  | cons first rest ih =>
    change (arrivals rest).foldl Scene.step _ = (arrivals rest).foldl Scene.step _
    rcases List.mem_cons.1 again with rfl | later
    · rw [Scene.step_arrival_idem]
    · -- put off behind the first one, the metric still comes again later
      rw [Scene.step_arrival_comm, ih _ later]

/-- It is enough that every metric arrives once. -/
theorem foldl_arrivals_dedup (metrics : List Metric) :
    (arrivals metrics.dedup).foldl Scene.step scene =
      (arrivals metrics).foldl Scene.step scene := by
  induction metrics generalizing scene with
  | nil => rfl
  | cons first rest ih =>
    by_cases again : first ∈ rest
    · rw [List.dedup_cons_of_mem again, ih]
      exact (foldl_step_of_mem scene again).symm
    · rw [List.dedup_cons_of_notMem again]
      exact ih _

theorem foldl_arrivals_perm {one other : List Metric} (perm : one.Perm other) :
    (arrivals one).foldl Scene.step scene = (arrivals other).foldl Scene.step scene := by
  rw [foldl_arrivals, foldl_arrivals]
  apply perm.foldl_eq'
  intro first _ second _ between
  exact Scene.step_arrival_comm between first second

/-- In a burst every metric is answered as if it came alone. -/
theorem answersFrom_arrivals (metrics : List Metric) :
    answersFrom scene (arrivals metrics) =
      metrics.map fun metric => scene.answer (arrival metric) := by
  induction metrics generalizing scene with
  | nil => rfl
  | cons first rest ih =>
    have others : answersFrom (scene.step (arrival first)) (arrivals rest) =
        rest.map fun metric => scene.answer (arrival metric) := by
      rw [ih]
      exact List.map_congr_left fun second _ => scene.answer_step_arrival first second
    rw [List.map_cons, ← others]
    rfl

/-- Metrics that arrive while the clock stands still lead to the same cache in whatever order
they come and however often each of them does, and each of them is answered the same, which is
what it would be answered if it came alone. -/
theorem burst_known_by_members (scene : Scene) (one other : List Metric)
    (same : ∀ metric, metric ∈ one ↔ metric ∈ other) :
    let answer := fun metric => scene.answer (arrival metric)
    (arrivals one).foldl Scene.step scene = (arrivals other).foldl Scene.step scene ∧
      answersFrom scene (arrivals one) = one.map answer ∧
      answersFrom scene (arrivals other) = other.map answer := by
  intro answer
  have perm : one.dedup.Perm other.dedup := by
    apply (List.perm_ext_iff_of_nodup one.nodup_dedup other.nodup_dedup).2
    intro metric
    rw [List.mem_dedup, List.mem_dedup, same]
  refine ⟨?_, answersFrom_arrivals scene one, answersFrom_arrivals scene other⟩
  calc (arrivals one).foldl Scene.step scene
      = (arrivals one.dedup).foldl Scene.step scene := (foldl_arrivals_dedup scene one).symm
    _ = (arrivals other.dedup).foldl Scene.step scene := foldl_arrivals_perm scene perm
    _ = (arrivals other).foldl Scene.step scene := foldl_arrivals_dedup scene other

/-- A device is announced and some time passes. -/
def deviceSeen : List Command :=
  [.put (.asset ⟨⟨"ups"⟩, .create, .ofList [("type", "device"), ("subtype", "ups")], .empty⟩),
    .setClock 1040]

/-- Metrics of the device, one late, one of the future and one without a time, and one of an
asset that is not watched. -/
def mixedBurst : List Metric :=
  [⟨⟨"ups"⟩, "load", "42", "%", 60, some 900, .empty⟩,
    ⟨⟨"ups"⟩, "load", "43", "%", 70, some 5000, .empty⟩,
    ⟨⟨"ups"⟩, "load", "44", "%", 80, none, .empty⟩,
    ⟨⟨"lamp"⟩, "load", "45", "%", 5, none, .empty⟩]

/-- The burst may be turned around and come twice. -/
theorem burst_turned_and_doubled :
    let scene := run ⟨1000⟩ deviceSeen
    let other := mixedBurst.reverse ++ mixedBurst
    (arrivals mixedBurst).foldl Scene.step scene = (arrivals other).foldl Scene.step scene ∧
      answersFrom scene (arrivals mixedBurst) =
        [.outcome (.refreshed ⟨"ups"⟩), .outcome (.futureTimestamp ⟨"ups"⟩ 5000 1040),
          .outcome (.refreshed ⟨"ups"⟩), .outcome .untracked] ∧
      answersFrom scene (arrivals other) =
        other.map fun metric => scene.answer (arrival metric) := by
  intro scene other
  have same : ∀ metric, metric ∈ mixedBurst ↔ metric ∈ other := by
    intro metric
    rw [List.mem_append, List.mem_reverse, or_self]
  obtain ⟨scenes, answers, answers'⟩ := burst_known_by_members scene mixedBurst other same
  exact ⟨scenes, answers.trans (by decide +kernel), answers'⟩

end Cache

end AssetWatch
