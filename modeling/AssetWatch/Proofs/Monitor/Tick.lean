import AssetWatch.Monitor
import AssetWatch.Proofs.Cache.Expired
import Mathlib.Data.List.Nodup

/-!
# What a tick tells

A tick compares two sets of assets, those that were expired before and those that are expired
now. `Tells` says which transitions lead from one to the other and in which order they are
told. `sweep` is a tick that goes through the records and the active assets in whatever order
they are listed and changes the active assets one by one; `sweep_eq_tick` says that the orders
do not matter.
-/

namespace AssetWatch.Monitor

open AssetName

/-- The transitions from the assets that were expired before to those that are expired now.
What is over comes first, then what has begun with the instant of its expiration. -/
def Tells (before now : AssetName → Prop) (expiration? : AssetName → Option Seconds)
    (transitions : List Transition) : Prop :=
  ∃ (past : List AssetName) (begun : List (AssetName × Seconds)),
    transitions = past.map .resolved ++ begun.map (fun outage => .raised outage.1 outage.2) ∧
      Ascending past ∧ (∀ name, name ∈ past ↔ before name ∧ ¬now name) ∧
      Ascending (begun.map (·.1)) ∧
      ∀ name instant, (name, instant) ∈ begun ↔
        now name ∧ ¬before name ∧ expiration? name = some instant

theorem value_tick (monitor : Monitor) (now : Seconds) :
    (monitor.tick now).value =
      let expired := monitor.cache.expired now
      ({ monitor with active := expired },
        (monitor.recovered expired).map .resolved ++
          (monitor.fresh expired).map fun asset => .raised asset (monitor.expiredAt asset)) := by
  simp only [tick, Logged.value_bind, Logged.value_pure, Cache.value_findExpired]

/-- The expiration of an expired asset is known. -/
theorem expiration?_of_expired {monitor : Monitor} {now : Seconds} {name : AssetName}
    (h : monitor.cache.Expired now name) :
    monitor.cache.expiration? name = some (monitor.expiredAt name) := by
  obtain ⟨instant, found, -⟩ := h
  rw [expiredAt, found, Option.getD_some]

theorem mem_recovered {monitor : Monitor} {expired : List AssetName} {name : AssetName} :
    name ∈ monitor.recovered expired ↔ name ∈ monitor.active ∧ name ∉ expired := by
  simp [recovered]

theorem mem_fresh {monitor : Monitor} {expired : List AssetName} {name : AssetName} :
    name ∈ monitor.fresh expired ↔ name ∈ expired ∧ name ∉ monitor.active := by
  simp [fresh]

/-- A tick tells what leads from the active assets to the expired ones. -/
theorem tells_tick {monitor : Monitor} (h : Ascending monitor.active) (now : Seconds) :
    Tells (· ∈ monitor.active) (monitor.cache.Expired now) monitor.cache.expiration?
      (monitor.tick now).value.2 := by
  have listed := Cache.ascending_expired monitor.cache now
  refine ⟨monitor.recovered (monitor.cache.expired now),
    (monitor.fresh (monitor.cache.expired now)).map fun name => (name, monitor.expiredAt name),
    ?_, h.filter _, fun name => ?_, ?_, fun name instant => ?_⟩
  · rw [value_tick, List.map_map]
    rfl
  · rw [mem_recovered, Cache.mem_expired]
  · rw [List.map_map]
    exact (List.map_id _).symm ▸ listed.filter _
  · rw [List.mem_map]
    constructor
    · rintro ⟨name, member, same⟩
      cases same
      obtain ⟨expired, inactive⟩ := mem_fresh.1 member
      rw [Cache.mem_expired] at expired
      exact ⟨expired, inactive, expiration?_of_expired expired⟩
    · rintro ⟨expired, inactive, found⟩
      rw [expiration?_of_expired expired] at found
      cases found
      exact ⟨name, mem_fresh.2 ⟨Cache.mem_expired.2 expired, inactive⟩, rfl⟩

theorem Tells.mem_resolved {before now : AssetName → Prop}
    {expiration? : AssetName → Option Seconds} {transitions : List Transition}
    (h : Tells before now expiration? transitions) {name : AssetName} :
    .resolved name ∈ transitions ↔ before name ∧ ¬now name := by
  obtain ⟨past, begun, rfl, -, memPast, -⟩ := h
  simp [memPast]

theorem Tells.mem_raised {before now : AssetName → Prop}
    {expiration? : AssetName → Option Seconds} {transitions : List Transition}
    (h : Tells before now expiration? transitions) {name : AssetName} {instant : Seconds} :
    .raised name instant ∈ transitions ↔
      now name ∧ ¬before name ∧ expiration? name = some instant := by
  obtain ⟨past, begun, rfl, -, -, -, memBegun⟩ := h
  simp [memBegun]

/-- Nothing is told just when the same assets are expired as before. -/
theorem Tells.eq_nil_iff {before now : AssetName → Prop}
    {expiration? : AssetName → Option Seconds} {transitions : List Transition}
    (h : Tells before now expiration? transitions)
    (known : ∀ name, now name → ∃ instant, expiration? name = some instant) :
    transitions = [] ↔ ∀ name, before name ↔ now name := by
  obtain ⟨past, begun, rfl, -, memPast, -, memBegun⟩ := h
  constructor
  · intro nothing name
    obtain ⟨nonePast, noneBegun⟩ := List.append_eq_nil_iff.1 nothing
    rw [List.map_eq_nil_iff] at nonePast noneBegun
    subst nonePast noneBegun
    constructor
    · intro was
      by_contra gone
      exact List.not_mem_nil ((memPast name).2 ⟨was, gone⟩)
    · intro is
      by_contra fresh
      obtain ⟨instant, found⟩ := known name is
      exact List.not_mem_nil ((memBegun name instant).2 ⟨is, fresh, found⟩)
  · intro same
    have nonePast : past = [] := List.eq_nil_iff_forall_not_mem.2 fun name member =>
      ((memPast name).1 member).2 ((same name).1 ((memPast name).1 member).1)
    have noneBegun : begun = [] := List.eq_nil_iff_forall_not_mem.2 fun outage member =>
      ((memBegun _ _).1 member).2.1 ((same _).2 ((memBegun _ _).1 member).1)
    rw [nonePast, noneBegun]
    rfl

/-! ## Ticks in any order -/

/-- How far a sweep has come: the active assets, in some order, and what has been told. -/
structure Progress where
  active : List AssetName
  told : List Transition

namespace Progress

/-- Tells that an outage is over. -/
def resolve (progress : Progress) (name : AssetName) : Progress :=
  ⟨progress.active.erase name, progress.told ++ [.resolved name]⟩

/-- Tells that an outage has begun, unless it is active already. -/
def raise (monitor : Monitor) (progress : Progress) (name : AssetName) : Progress :=
  if name ∈ progress.active then progress
  else ⟨progress.active ++ [name], progress.told ++ [.raised name (monitor.expiredAt name)]⟩

end Progress

/-- A tick that goes through the records and the active assets as they happen to be listed. -/
def sweep (monitor : Monitor) (now : Seconds) (records : List (AssetName × Record))
    (active : List AssetName) : Progress :=
  let expired := sort ((records.filter fun entry => entry.2.isExpired now).map (·.1))
  let recovered := sort (active.filter fun name => name ∉ expired)
  expired.foldl (Progress.raise monitor) (recovered.foldl Progress.resolve ⟨active, []⟩)

theorem foldl_resolve (names : List AssetName) (progress : Progress) :
    names.foldl Progress.resolve progress =
      ⟨progress.active.diff names, progress.told ++ names.map .resolved⟩ := by
  induction names generalizing progress with
  | nil => simp
  | cons name rest ih =>
    rw [List.foldl_cons, ih]
    simp [Progress.resolve, List.diff_cons]

theorem foldl_raise (monitor : Monitor) {names : List AssetName} (h : names.Nodup)
    (progress : Progress) :
    names.foldl (Progress.raise monitor) progress =
      let begun := names.filter fun name => name ∉ progress.active
      ⟨progress.active ++ begun,
        progress.told ++ begun.map fun name => .raised name (monitor.expiredAt name)⟩ := by
  induction names generalizing progress with
  | nil => simp
  | cons name rest ih =>
    obtain ⟨once, hrest⟩ := List.nodup_cons.1 h
    rw [List.foldl_cons, ih hrest]
    by_cases active : name ∈ progress.active
    · simp [Progress.raise, active]
    · have others : rest.filter (fun other => other ∉ progress.active ++ [name]) =
          rest.filter fun other => other ∉ progress.active := by
        refine List.filter_congr fun other member => ?_
        have apart : other ≠ name := fun e => once (e ▸ member)
        simp [apart]
      simp only [Progress.raise, if_neg active, others]
      simp [active]

/-- In whatever order a tick goes through the records and the active assets, it tells the same
transitions and leaves the same assets active. -/
theorem sweep_eq_tick {monitor : Monitor} {now : Seconds} (h : Ascending monitor.active)
    {records : List (AssetName × Record)} {active : List AssetName}
    (hrecords : records.Perm monitor.cache.records.entries)
    (hactive : active.Perm monitor.active) :
    (monitor.sweep now records active).told = (monitor.tick now).value.2 ∧
      (monitor.sweep now records active).active.Perm (monitor.tick now).value.1.active := by
  have expired : sort ((records.filter fun entry => entry.2.isExpired now).map (·.1)) =
      monitor.cache.expired now :=
    sort_eq_of_perm ((hrecords.filter _).map _) (Cache.ascending_expired _ _)
  have recovered : sort (active.filter fun name => name ∉ monitor.cache.expired now) =
      monitor.recovered (monitor.cache.expired now) :=
    sort_eq_of_perm (hactive.filter _) (h.filter _)
  have nodup : active.Nodup := hactive.nodup_iff.2 h.nodup
  have listed := Cache.ascending_expired monitor.cache now
  -- an expired asset is not among those that are over, so it stays active if it was
  have kept : ∀ name ∈ monitor.cache.expired now,
      (name ∈ active.diff (monitor.recovered (monitor.cache.expired now)) ↔
        name ∈ monitor.active) := by
    intro name member
    rw [List.Nodup.mem_sdiff_iff nodup, mem_recovered, hactive.mem_iff]
    simp [member]
  have begun : (monitor.cache.expired now).filter (fun name =>
      name ∉ active.diff (monitor.recovered (monitor.cache.expired now))) =
        monitor.fresh (monitor.cache.expired now) :=
    List.filter_congr fun name member => by simp [kept name member]
  rw [sweep, expired, recovered, foldl_resolve, foldl_raise monitor listed.nodup, value_tick]
  simp only [begun, List.nil_append, true_and]
  refine (List.perm_ext_iff_of_nodup ?_ listed.nodup).2 fun name => ?_
  · refine List.Nodup.append nodup.diff (listed.nodup.filter _) fun name old new => ?_
    obtain ⟨member, inactive⟩ := mem_fresh.1 new
    exact inactive ((kept name member).1 old)
  · rw [List.mem_append, List.Nodup.mem_sdiff_iff nodup, mem_recovered, mem_fresh,
      hactive.mem_iff]
    by_cases member : name ∈ monitor.cache.expired now <;>
      by_cases active : name ∈ monitor.active <;> simp [member, active]

end AssetWatch.Monitor
