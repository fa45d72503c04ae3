import AssetWatch.Cache
import AssetWatch.Proofs.Names

/-!
# The expired assets

Which of the watched assets have expired, said of their records one by one, and the list of
them that the cache gives.
-/

namespace AssetWatch.Cache

/-- An asset has expired if it is watched and the clock has reached its expiration. -/
def Expired (cache : Cache) (now : Seconds) (name : AssetName) : Prop :=
  ∃ instant, cache.expiration? name = some instant ∧ instant ≤ now

theorem expired_iff_record? {cache : Cache} {now : Seconds} {name : AssetName} :
    cache.Expired now name ↔
      ∃ record, cache.record? name = some record ∧ record.isExpired now = true := by
  simp [Expired, expiration?, Record.isExpired]

theorem expired_iff_expiration_le {cache : Cache} {now : Seconds} {name : AssetName}
    {record : Record} (found : cache.record? name = some record) :
    cache.Expired now name ↔ record.expiration ≤ now := by
  simp [Expired, expiration?, found]

/-- The cache lists the assets that have expired. -/
theorem mem_expired {cache : Cache} {now : Seconds} {name : AssetName} :
    name ∈ cache.expired now ↔ cache.Expired now name := by
  rw [expired_iff_record?, expired, List.mem_map]
  constructor
  · rintro ⟨⟨_, record⟩, member, rfl⟩
    obtain ⟨entry, past⟩ := List.mem_filter.1 member
    exact ⟨record, SortedMap.mem_entries.1 entry, past⟩
  · rintro ⟨record, found, past⟩
    exact ⟨(name, record), List.mem_filter.2 ⟨SortedMap.mem_entries.2 found, past⟩, rfl⟩

/-- They are listed in ascending order. -/
theorem ascending_expired (cache : Cache) (now : Seconds) :
    AssetName.Ascending (cache.expired now) :=
  List.pairwise_map.2 (cache.records.sorted.filter _)

theorem value_findExpired (cache : Cache) (now : Seconds) :
    (cache.findExpired now).value = cache.expired now := by
  unfold findExpired
  cases cache.verbose <;> rfl

end AssetWatch.Cache
