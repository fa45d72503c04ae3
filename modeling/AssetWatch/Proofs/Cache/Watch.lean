import AssetWatch.Proofs.Cache.History
import Mathlib.Order.Bounds.Defs

/-!
# Watches

The watch of an asset begins with the first announcement after its last removal. What the
record of the asset holds is what the watch has brought: the latest of the instants at which
the asset was observed and the smallest of the times to live that were promised
(`Watch.exists_record`).
-/

namespace AssetWatch.Cache

/-- The asset is watched since the moment `first`, and the moments in `since` came later. -/
def Watch (name : AssetName) (history : List Moment) (first : Moment) (since : List Moment) :
    Prop :=
  ∃ idle, epoch name history = idle ++ first :: since ∧
    (∀ moment ∈ idle, moment.announces name = false) ∧ first.announces name = true

/-- The asset was observed at an instant: when its watch began, or by a metric whose time the
clock had reached when it came. -/
def Observed (name : AssetName) (first : Moment) (since : List Moment) (instant : Seconds) :
    Prop :=
  instant = first.now ∨ ∃ moment ∈ since, moment.observation? name = some instant

/-- A time to live was promised for the asset: the default expiry when its watch began, or
the one of a metric. -/
def Promised (name : AssetName) (first : Moment) (since : List Moment) (ttl : Seconds) : Prop :=
  ttl = first.expiry ∨ ∃ moment ∈ since, moment.ttl? name = some ttl

variable {name : AssetName} {history since : List Moment} {first : Moment}

/-! ## Where a watch begins -/

theorem watch_iff_dropWhile :
    Watch name history first since ↔
      (epoch name history).dropWhile (fun moment => !moment.announces name) = first :: since := by
  constructor
  · rintro ⟨idle, split, silent, announced⟩
    rw [split, List.dropWhile_append_of_pos, List.dropWhile_cons_of_neg]
    · simp [announced]
    · intro moment member
      simp [silent moment member]
  · intro begun
    refine ⟨(epoch name history).takeWhile fun moment => !moment.announces name, ?_, ?_, ?_⟩
    · rw [← begun, List.takeWhile_append_dropWhile]
    · intro moment member
      simpa using List.mem_takeWhile_imp member
    · have announced := List.head?_dropWhile_not (fun moment => !moment.announces name)
        (epoch name history)
      simpa [begun] using announced

/-- An asset has a watch just when it was announced since its last removal. -/
theorem exists_watch_iff :
    (∃ first since, Watch name history first since) ↔
      ∃ moment ∈ epoch name history, moment.announces name = true := by
  constructor
  · rintro ⟨first, since, idle, split, -, announced⟩
    refine ⟨first, ?_, announced⟩
    rw [split]
    exact List.mem_append_right _ List.mem_cons_self
  · rintro ⟨moment, member, announced⟩
    cases begun : (epoch name history).dropWhile fun moment => !moment.announces name with
    | nil =>
      have silent := List.dropWhile_eq_nil_iff.1 begun moment member
      simp [announced] at silent
    | cons first since => exact ⟨first, since, watch_iff_dropWhile.2 begun⟩

/-- A watch is a part of the history. -/
theorem Watch.subset (watch : Watch name history first since) :
    ∀ moment ∈ first :: since, moment ∈ history := by
  intro moment member
  obtain ⟨idle, split, -⟩ := watch
  have inEpoch : moment ∈ epoch name history := split ▸ List.mem_append_right idle member
  exact (List.rtakeWhile_suffix _ _).subset inEpoch

/-! ## What a watch brings -/

theorem isGreatest_foldl_max (first : Seconds) (others : List Seconds) :
    IsGreatest {instant | instant = first ∨ instant ∈ others} (others.foldl max first) := by
  have greatest : (first :: others).max? = some (others.foldl max first) := List.max?_cons'
  obtain ⟨member, above⟩ := List.max?_eq_some_iff.1 greatest
  refine ⟨List.mem_cons.1 member, ?_⟩
  intro instant listed
  exact above instant (List.mem_cons.2 listed)

theorem isLeast_foldl_min (first : Seconds) (others : List Seconds) :
    IsLeast {ttl | ttl = first ∨ ttl ∈ others} (others.foldl min first) := by
  have least : (first :: others).min? = some (others.foldl min first) := List.min?_cons'
  obtain ⟨member, below⟩ := List.min?_eq_some_iff.1 least
  refine ⟨List.mem_cons.1 member, ?_⟩
  intro ttl listed
  exact below ttl (List.mem_cons.2 listed)

/-- The record of a watched asset holds the latest instant at which it was observed, and the
smallest time to live that was promised for it. -/
theorem Watch.exists_record (watch : Watch name history first since) :
    ∃ record, recordOf? name (epoch name history) = some record ∧
      IsGreatest {instant | Observed name first since instant} record.lastSeen ∧
      IsLeast {ttl | Promised name first since ttl} record.ttl := by
  obtain ⟨notice, -, found⟩ := recordOf?_of_dropWhile (watch_iff_dropWhile.1 watch)
  refine ⟨_, found, ?_, ?_⟩
  · have greatest := isGreatest_foldl_max first.now (since.filterMap (Moment.observation? name))
    simpa only [Observed, List.mem_filterMap] using greatest
  · have least := isLeast_foldl_min first.expiry (since.filterMap (Moment.ttl? name))
    simpa only [Promised, List.mem_filterMap] using least

/-- An observation is made by a metric of the asset whose time the clock has reached. -/
theorem exists_metric_of_observation? {moment : Moment} {instant : Seconds}
    (h : moment.observation? name = some instant) :
    ∃ metric, moment.command = .put (.metric metric) ∧ metric.source = name ∧
      metric.timeOr moment.now = instant ∧ instant ≤ moment.now := by
  unfold Moment.observation? at h
  split at h
  next metric command =>
    split at h
    next reached =>
      cases h
      exact ⟨metric, command, reached.1, rfl, reached.2⟩
    · cases h
  · cases h

/-- No observation lies ahead of the clock of the moment that made it. -/
theorem Observed.exists_moment {instant : Seconds} (seen : Observed name first since instant) :
    ∃ moment ∈ first :: since, instant ≤ moment.now := by
  rcases seen with same | ⟨moment, member, observed⟩
  · exact ⟨first, List.mem_cons_self, same ▸ UInt64.le_refl _⟩
  · obtain ⟨_, -, -, -, reached⟩ := exists_metric_of_observation? observed
    exact ⟨moment, List.mem_cons_of_mem _ member, reached⟩

end AssetWatch.Cache
