import AssetWatch.Proofs.Monitor.Alternation
import AssetWatch.Proofs.Monitor.History

/-!
# When outages are raised

An asset is given two times to live after every observation, and never more than two default
expiries. So no outage is raised of an asset that was observed recently enough
(`tick_spares_observed`), and one is raised of an asset that was silent for too long
(`tick_raises_silent`), whatever else has come in.
-/

namespace AssetWatch.Monitor

open Cache (Moment Watch Observed Promised)

variable {settings : Settings} {clock : Clock} {commands : List Command} {name : AssetName}
  {first : Moment} {since : List Moment}

/-- An asset does not expire before two promised times to live have passed since it was
observed, unless that instant is too late to be represented. -/
theorem le_expiration_of_observed
    (watch : Watch name (history settings clock commands) first since)
    {length : Nat} (promised : ∀ ttl, Promised name first since ttl → length ≤ ttl.toNat)
    {instant : Seconds} (observed : Observed name first since instant) :
    ∃ expiration, (run settings clock commands).monitor.cache.expiration? name = some expiration ∧
      min (UInt64.size - 1) (instant.toNat + 2 * length) ≤ expiration.toNat := by
  obtain ⟨record, found, greatest, least⟩ := exists_record_of_watch watch
  refine ⟨record.expiration, congrArg (Option.map Record.expiration) found, ?_⟩
  have seen : instant.toNat ≤ record.lastSeen.toNat :=
    UInt64.le_iff_toNat_le.1 (greatest.2 observed)
  have long : length ≤ record.ttl.toNat := promised record.ttl least.1
  rw [Record.toNat_expiration]
  omega

/-- An asset expires at the latest when two default expiries have passed since it was last
observed. -/
theorem expiration_le_of_last_observed
    (watch : Watch name (history settings clock commands) first since)
    {last : Seconds} (greatest : IsGreatest {instant | Observed name first since instant} last) :
    ∃ expiration, (run settings clock commands).monitor.cache.expiration? name = some expiration ∧
      expiration.toNat ≤ min (UInt64.size - 1) (last.toNat + 2 * first.expiry.toNat) := by
  obtain ⟨record, found, latest, least⟩ := exists_record_of_watch watch
  refine ⟨record.expiration, congrArg (Option.map Record.expiration) found, ?_⟩
  have seen : record.lastSeen.toNat ≤ last.toNat :=
    UInt64.le_iff_toNat_le.1 (greatest.2 latest.1)
  have short : record.ttl.toNat ≤ first.expiry.toNat :=
    UInt64.le_iff_toNat_le.1 (least.2 (.inl rfl))
  rw [Record.toNat_expiration]
  omega

/-- No outage of a watched asset is raised at a tick, and none is active afterwards, if the
asset was observed less than two times the smallest promised time to live before. -/
theorem tick_spares_observed (settings : Settings) (clock : Clock) (commands : List Command)
    (name : AssetName) :
    let scene := run settings clock commands
    let past := history settings clock commands
    (scene.monitor.cache.contains name = true ↔ ∃ first since, Watch name past first since) ∧
      ∀ first since, Watch name past first since → ∀ (length : Nat) (instant : Seconds),
        (∀ ttl, Promised name first since ttl → length ≤ ttl.toNat) →
        Observed name first since instant →
        scene.now.toNat < instant.toNat + 2 * length → scene.now.toNat < UInt64.size - 1 →
        (∀ expiredAt, .raised name expiredAt ∉ scene.told) ∧
          name ∉ (scene.step .tick).monitor.active := by
  intro scene past
  refine ⟨contains_iff_watch settings clock commands name, ?_⟩
  intro first since watch length instant promised observed recent representable
  obtain ⟨expiration, found, late⟩ := le_expiration_of_observed watch promised observed
  have alive : ¬scene.Expired name := by
    rintro ⟨reached, found', le⟩
    obtain rfl : expiration = reached := Option.some_inj.1 (found.symm.trans found')
    rw [UInt64.le_iff_toNat_le] at le
    change expiration.toNat ≤ scene.now.toNat at le
    omega
  refine ⟨?_, fun active => alive (mem_active_step_tick.1 active)⟩
  intro expiredAt raised
  exact alive ((tells_run settings clock commands).mem_raised.1 raised).1

/-- After a device was seen at 1000, a late average and a metric of the future come in, with
times to live of 60 and 70. -/
def lateAverage : List Command :=
  [.handle (.asset (sampleNotice ⟨"ups"⟩)), .behind (.setClock 1040),
    .handle (.metric (sampleMetric ⟨"ups"⟩ 60 (some 900))),
    .handle (.metric (sampleMetric ⟨"ups"⟩ 70 (some 5000))), .behind (.setClock 1119)]

/-- A late average raises no outage within twice the smallest time to live. -/
theorem tick_spares_late_average :
    let scene := run ⟨100, 1, false⟩ ⟨1000⟩ lateAverage
    scene.monitor.cache.contains ⟨"ups"⟩ = true ∧ scene.now = 1119 ∧
      (∀ expiredAt, .raised ⟨"ups"⟩ expiredAt ∉ scene.told) ∧
      ⟨"ups"⟩ ∉ (scene.step .tick).monitor.active := by
  intro scene
  have watch : Watch ⟨"ups"⟩ (history ⟨100, 1, false⟩ ⟨1000⟩ lateAverage)
      ⟨.put (.asset (sampleNotice ⟨"ups"⟩)), 1000, 100⟩
      [⟨.setClock 1040, 1000, 100⟩,
        ⟨.put (.metric (sampleMetric ⟨"ups"⟩ 60 (some 900))), 1040, 100⟩,
        ⟨.put (.metric (sampleMetric ⟨"ups"⟩ 70 (some 5000))), 1040, 100⟩,
        ⟨.setClock 1119, 1040, 100⟩] :=
    ⟨[⟨.setDefaultExpiry 100, 1000, Settings.standardExpiry⟩, ⟨.setVerbose false, 1000, 100⟩],
      rfl, by decide, by decide +kernel⟩
  obtain ⟨tracked, spares⟩ := tick_spares_observed ⟨100, 1, false⟩ ⟨1000⟩ lateAverage ⟨"ups"⟩
  refine ⟨tracked.2 ⟨_, _, watch⟩, rfl, ?_⟩
  refine spares _ _ watch 60 1000 ?_ (.inl rfl) (by decide) (by decide)
  rintro ttl (rfl | ⟨moment, member, promised⟩)
  · decide
  · simp only [List.mem_cons, List.not_mem_nil, or_false] at member
    rcases member with rfl | rfl | rfl | rfl <;> cases promised <;> decide

/-- On a clock that never went back an asset was not observed ahead of it. -/
theorem observed_le_now (steady : Steady settings clock commands)
    (watch : Watch name (history settings clock commands) first since) {instant : Seconds}
    (observed : Observed name first since instant) :
    instant ≤ (run settings clock commands).now := by
  obtain ⟨moment, member, reached⟩ := observed.exists_moment
  have past := le_now_of_steady steady moment (watch.subset moment member)
  exact UInt64.le_trans reached past

/-- A tick that comes two default expiries or more after the last observation of a watched
asset leaves it with an outage, and raises that outage once unless it was active before. If
the clock never went back, the last observation is past and the expiration of the asset lies
at most two default expiries ahead. -/
theorem tick_raises_silent (settings : Settings) (clock : Clock) (commands : List Command)
    (name : AssetName) :
    let scene := run settings clock commands
    let past := history settings clock commands
    (scene.monitor.cache.contains name = true ↔ ∃ first since, Watch name past first since) ∧
      ∀ first since, Watch name past first since →
        ∃ last, IsGreatest {instant | Observed name first since instant} last ∧
          (last.toNat + 2 * first.expiry.toNat ≤ scene.now.toNat →
            name ∈ (scene.step .tick).monitor.active ∧
              (name ∉ scene.monitor.active →
                ∃ expiredAt, about name scene.told = [.raised name expiredAt])) ∧
          (Steady settings clock commands →
            last ≤ scene.now ∧ ∃ instant, scene.monitor.cache.expiration? name = some instant ∧
              instant.toNat ≤ min (UInt64.size - 1) (scene.now.toNat + 2 * first.expiry.toNat)) := by
  intro scene past
  refine ⟨contains_iff_watch settings clock commands name, ?_⟩
  intro first since watch
  obtain ⟨record, -, greatest, -⟩ := exists_record_of_watch watch
  obtain ⟨expiration, found, early⟩ := expiration_le_of_last_observed watch greatest
  refine ⟨record.lastSeen, greatest, ?_, ?_⟩
  · intro silent
    have reached : expiration ≤ scene.now := by
      rw [UInt64.le_iff_toNat_le]
      omega
    have expired : scene.Expired name := ⟨expiration, found, reached⟩
    refine ⟨mem_active_step_tick.2 expired, ?_⟩
    intro inactive
    exact ⟨expiration, (tells_run settings clock commands).about_raised expired inactive found⟩
  · intro steady
    have past : record.lastSeen ≤ scene.now := observed_le_now steady watch greatest.1
    refine ⟨past, expiration, found, ?_⟩
    rw [UInt64.le_iff_toNat_le] at past
    omega

/-- After a device was seen at 1000, the default expiry becomes longer, a metric of the future
promises much, and the device is announced again. -/
def emptyPromises : List Command :=
  [.handle (.asset (sampleNotice ⟨"ups"⟩)), .behind (.setDefaultExpiry 5000),
    .handle (.metric (sampleMetric ⟨"ups"⟩ 5000 (some 6000))),
    .handle (.asset (sampleNotice ⟨"ups"⟩)), .behind (.setClock 1200)]

/-- Promises alone do not put off an outage. -/
theorem tick_raises_despite_promises :
    let scene := run ⟨100, 1, false⟩ ⟨1000⟩ emptyPromises
    scene.now = 1200 ∧ ⟨"ups"⟩ ∈ (scene.step .tick).monitor.active ∧
      (∃ expiredAt, about ⟨"ups"⟩ scene.told = [.raised ⟨"ups"⟩ expiredAt]) ∧
      ∃ instant, scene.monitor.cache.expiration? ⟨"ups"⟩ = some instant ∧
        instant.toNat ≤ min (UInt64.size - 1) (1200 + 2 * 100) := by
  intro scene
  let first : Moment := ⟨.put (.asset (sampleNotice ⟨"ups"⟩)), 1000, 100⟩
  let since : List Moment :=
    [⟨.setDefaultExpiry 5000, 1000, 100⟩,
      ⟨.put (.metric (sampleMetric ⟨"ups"⟩ 5000 (some 6000))), 1000, 5000⟩,
      ⟨.put (.asset (sampleNotice ⟨"ups"⟩)), 1000, 5000⟩, ⟨.setClock 1200, 1000, 5000⟩]
  have watch : Watch ⟨"ups"⟩ (history ⟨100, 1, false⟩ ⟨1000⟩ emptyPromises) first since :=
    ⟨[⟨.setDefaultExpiry 100, 1000, Settings.standardExpiry⟩, ⟨.setVerbose false, 1000, 100⟩],
      rfl, by decide, by decide +kernel⟩
  have steady : Steady ⟨100, 1, false⟩ ⟨1000⟩ ([] ++ [emptyPromises[0]] ++ [emptyPromises[1]] ++
      [emptyPromises[2]] ++ [emptyPromises[3]] ++ [emptyPromises[4]]) := by
    simp only [steady_concat]
    refine ⟨⟨⟨⟨⟨steady_nil _ _, ?_⟩, ?_⟩, ?_⟩, ?_⟩, ?_⟩ <;> decide +kernel
  obtain ⟨-, raises⟩ := tick_raises_silent ⟨100, 1, false⟩ ⟨1000⟩ emptyPromises ⟨"ups"⟩
  obtain ⟨last, greatest, silent, bounded⟩ := raises first since watch
  have start : last = 1000 := by
    rcases greatest.1 with same | ⟨moment, member, observed⟩
    · exact same
    · have none : ∀ moment ∈ since, moment.observation? ⟨"ups"⟩ = none := by decide +kernel
      rw [none moment member] at observed
      cases observed
  subst start
  obtain ⟨active, raised⟩ := silent (by decide)
  exact ⟨rfl, active, raised (by decide +kernel), (bounded steady).2⟩

end AssetWatch.Monitor
