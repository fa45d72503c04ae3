import AssetWatch.Proofs.Cache.Expired
import AssetWatch.Proofs.Cache.Run

/-!
# Deadlines

The deadline of a record is its last observation and two times to live after that, reckoned
over the natural numbers, where nothing is cut off. The expiration is the deadline as far as a
word can hold it. On whether a record is expired the two agree at every instant but the latest
(`Record.isExpired_iff`), so before that one the expired assets are those whose deadline has
come (`expired_by_deadline`).
-/

namespace AssetWatch

namespace Record

/-- Two times to live after the last observation, over the natural numbers. -/
def deadline (record : Record) : Nat := record.lastSeen.toNat + 2 * record.ttl.toNat

variable {record other : Record} {now : Seconds}

theorem toNat_expiration_eq_min (record : Record) :
    record.expiration.toNat = min record.deadline Seconds.latest.toNat :=
  toNat_expiration record

/-- A record is expired when its deadline has come, and at the latest instant every record is. -/
theorem isExpired_iff :
    record.isExpired now = true ↔ record.deadline ≤ now.toNat ∨ now = Seconds.latest := by
  have representable : now.toNat ≤ Seconds.latest.toNat := Seconds.toNat_le_latest now
  rw [isExpired, decide_eq_true_iff, UInt64.le_iff_toNat_le, toNat_expiration_eq_min,
    ← UInt64.toNat_inj]
  omega

theorem expiration_le_of_deadline_le (h : record.deadline ≤ other.deadline) :
    record.expiration ≤ other.expiration := by
  rw [UInt64.le_iff_toNat_le, toNat_expiration_eq_min, toNat_expiration_eq_min]
  omega

/-- As long as a word can hold the later deadline, the expirations differ like the deadlines. -/
theorem expiration_lt_of_deadline_lt (h : record.deadline < other.deadline)
    (fits : other.deadline ≤ Seconds.latest.toNat) : record.expiration < other.expiration := by
  rw [UInt64.lt_iff_toNat_lt, toNat_expiration_eq_min, toNat_expiration_eq_min]
  omega

theorem deadline_le_of_le (seen : record.lastSeen ≤ other.lastSeen)
    (promised : record.ttl ≤ other.ttl) : record.deadline ≤ other.deadline := by
  rw [UInt64.le_iff_toNat_le] at seen promised
  unfold deadline
  omega

theorem deadline_lt_of_lt (seen : record.lastSeen ≤ other.lastSeen)
    (promised : record.ttl ≤ other.ttl)
    (later : record.lastSeen < other.lastSeen ∨ record.ttl < other.ttl) :
    record.deadline < other.deadline := by
  rw [UInt64.le_iff_toNat_le] at seen promised
  rw [UInt64.lt_iff_toNat_lt, UInt64.lt_iff_toNat_lt] at later
  unfold deadline
  omega

end Record

namespace Cache

theorem mem_findExpired_iff_deadline {cache : Cache} {now : Seconds} {name : AssetName} :
    name ∈ (cache.findExpired now).value ↔
      ∃ record, cache.record? name = some record ∧
        (record.deadline ≤ now.toNat ∨ now = Seconds.latest) := by
  simp only [value_findExpired, mem_expired, expired_iff_record?, Record.isExpired_iff]

/-- A record is expired just when its deadline has come, unless the clock shows the latest
instant. Its expiration is the deadline or else the latest instant. It does not become earlier
when the asset is seen later or promises more, and it becomes later as long as a word can hold
the deadline. So before the latest instant the expired assets of a cache, whatever has led to
it, are the watched ones whose deadline has come, each listed once. -/
theorem expired_by_deadline :
    (∀ (record : Record) (now : Seconds), record.isExpired now = true ↔
      record.lastSeen.toNat + 2 * record.ttl.toNat ≤ now.toNat ∨ now = Seconds.latest) ∧
    (∀ record : Record, record.expiration.toNat =
      min (record.lastSeen.toNat + 2 * record.ttl.toNat) (UInt64.size - 1)) ∧
    (∀ record other : Record, record.lastSeen ≤ other.lastSeen → record.ttl ≤ other.ttl →
      record.expiration ≤ other.expiration ∧
      (record.lastSeen < other.lastSeen ∨ record.ttl < other.ttl →
        other.lastSeen.toNat + 2 * other.ttl.toNat ≤ UInt64.size - 1 →
        record.expiration < other.expiration)) ∧
    ∀ (cache : Cache) (now : Seconds), now < Seconds.latest →
      (cache.findExpired now).value.Nodup ∧
      ∀ name, name ∈ (cache.findExpired now).value ↔ ∃ record,
        cache.record? name = some record ∧
          record.lastSeen.toNat + 2 * record.ttl.toNat ≤ now.toNat := by
  refine ⟨?_, ?_, ?_, ?_⟩
  · intro record now
    exact Record.isExpired_iff
  · intro record
    exact record.toNat_expiration_eq_min
  · intro record other seen promised
    refine ⟨Record.expiration_le_of_deadline_le (Record.deadline_le_of_le seen promised), ?_⟩
    intro later fits
    exact Record.expiration_lt_of_deadline_lt (Record.deadline_lt_of_lt seen promised later) fits
  · intro cache now early
    have notLatest : now ≠ Seconds.latest := UInt64.ne_of_lt early
    refine ⟨?_, ?_⟩
    · rw [value_findExpired]
      exact (ascending_expired cache now).nodup
    · intro name
      rw [mem_findExpired_iff_deadline]
      simp only [notLatest, or_false]
      rfl

/-- The notice of a device. -/
def lateNotice : AssetNotice :=
  ⟨⟨"ups"⟩, .create, .ofList [("type", "device"), ("subtype", "ups")], .empty⟩

/-- A device is announced a hundred seconds before the latest instant, with a default expiry of a
minute, so its deadline lies beyond that instant. -/
def lateScene : Scene :=
  run ⟨Seconds.latest - 100⟩ [.setDefaultExpiry 60, .put (.asset lateNotice)]

/-- The device is not expired until the latest instant, and then it is. -/
theorem late_device_expires_at_latest :
    Seconds.latest - 1 < Seconds.latest ∧
      ⟨"ups"⟩ ∉ (lateScene.cache.findExpired (Seconds.latest - 1)).value ∧
      ∃ record, lateScene.cache.record? ⟨"ups"⟩ = some record ∧
        record.isExpired Seconds.latest = true := by
  obtain ⟨test, -, -, listed⟩ := expired_by_deadline
  have early : Seconds.latest - 1 < Seconds.latest := by decide
  have found : lateScene.cache.record? ⟨"ups"⟩ =
      some (Record.begun 60 (Seconds.latest - 100) lateNotice) := by decide +kernel
  refine ⟨early, ?_, _, found, (test _ _).2 (.inr rfl)⟩
  intro member
  obtain ⟨record, found', due⟩ := ((listed _ _ early).2 _).1 member
  rw [found] at found'
  cases found'
  exact absurd due (by decide)

end Cache

end AssetWatch
