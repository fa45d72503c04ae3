import AssetWatch.Proofs.Monitor.Detection
import AssetWatch.Proofs.Monitor.Removal

/-!
# Revival, and times to live of 0

A metric that was made just now revives an asset, as long as no time to live of 0 was ever
promised for it. One such promise, even by a late metric or one of the future, is for good: the
time to live of a record never grows, and on a clock that does not go back an asset was never
seen ahead of it, so the asset stays expired until it is removed (`Cache.Scene.Pinned.step`,
`revives_unless_zero_promised`).
-/

namespace AssetWatch

/-- A metric made just now lets an asset live on. -/
theorem Record.lt_expiration_applyMetric {record : Record} {now : Seconds} {metric : Metric}
    (lasting : 0 < record.ttl) (positive : 0 < metric.ttl) (fresh : metric.timeOr now = now)
    (early : now.toNat < UInt64.size - 1) :
    now < (record.applyMetric now metric).expiration := by
  rw [UInt64.lt_iff_toNat_lt] at lasting positive ⊢
  rw [toNat_expiration, toNat_ttl_applyMetric, toNat_lastSeen_applyMetric, fresh,
    if_pos (UInt64.le_refl now)]
  rw [UInt64.toNat_zero] at lasting positive
  omega

namespace Cache

variable {scene : Scene} {name : AssetName} {command : Command}

/-- The asset is watched with a time to live of 0, and was not seen ahead of the clock. -/
def Scene.Pinned (scene : Scene) (name : AssetName) : Prop :=
  ∃ record, scene.cache.record? name = some record ∧ record.ttl = 0 ∧
    record.lastSeen ≤ scene.now

/-- Whatever a moment brings, the time to live stays 0. -/
theorem ttl_amend_eq_zero {moment : Moment} {record : Record} (zero : record.ttl = 0) :
    (moment.amend name record).ttl = 0 := by
  cases promised : moment.ttl? name with
  | none => simpa [Moment.amend, promised] using zero
  | some ttl =>
    rw [← UInt64.toNat_inj]
    simp [Moment.amend, promised, zero, Seconds.toNat_min]

/-- No moment makes an asset seen ahead of its clock. -/
theorem lastSeen_amend_le {moment : Moment} {record : Record}
    (past : record.lastSeen ≤ moment.now) :
    (moment.amend name record).lastSeen ≤ moment.now := by
  cases observed : moment.observation? name with
  | none => simpa [Moment.amend, observed] using past
  | some instant =>
    obtain ⟨_, -, -, -, reached⟩ := exists_metric_of_observation? observed
    simp only [Moment.amend, observed, Option.elim_some]
    exact Std.max_le_iff.2 ⟨past, reached⟩

/-- An asset stays pinned, unless it is removed or the clock goes back. -/
theorem Scene.Pinned.step (pinned : scene.Pinned name) (kept : command.removes name = false)
    (forward : scene.now ≤ (scene.step command).now) : (scene.step command).Pinned name := by
  obtain ⟨record, found, zero, past⟩ := pinned
  have now : (scene.moment command).now = scene.now := rfl
  refine ⟨_, Scene.record?_step_of_kept kept found, ttl_amend_eq_zero zero, ?_⟩
  exact UInt64.le_trans (lastSeen_amend_le (now ▸ past)) (now ▸ forward)

theorem Scene.Pinned.expired (pinned : scene.Pinned name) :
    scene.cache.Expired scene.now name := by
  obtain ⟨record, found, zero, past⟩ := pinned
  refine (expired_iff_expiration_le found).2 ?_
  rw [UInt64.le_iff_toNat_le, Record.toNat_expiration, zero, UInt64.toNat_zero]
  rw [UInt64.le_iff_toNat_le] at past
  omega

end Cache

namespace Monitor

open Cache (Moment Watch Promised)

variable {settings : Settings} {clock : Clock} {commands : List Command} {name : AssetName}
  {first : Moment} {since : List Moment}

/-! ## Assets that are pinned -/

theorem pinned_step {scene : Scene} {command : Command} (pinned : scene.behind.Pinned name)
    (kept : command.removes name = false) (forward : scene.now ≤ (scene.step command).now) :
    (scene.step command).behind.Pinned name := by
  change scene.behind.now ≤ (scene.step command).behind.now at forward
  rw [behind_step] at forward
  apply Scene.cases_behind_step (motive := fun behind => behind.Pinned name)
  · intro _
    exact pinned
  · intro heard told
    rw [removes_of_behind? told] at kept
    rw [told] at forward
    exact pinned.step kept forward

/-- A promise of 0 pins an asset, if the clock has never gone back. -/
theorem pinned_of_promised (steady : Steady settings clock commands)
    (watch : Watch name (history settings clock commands) first since)
    (promised : Promised name first since 0) :
    (run settings clock commands).behind.Pinned name := by
  obtain ⟨record, found, greatest, least⟩ := exists_record_of_watch watch
  have zero : record.ttl = 0 := UInt64.le_antisymm (least.2 promised) UInt64.zero_le
  exact ⟨record, found, zero, observed_le_now steady watch greatest.1⟩

theorem pinned_append {span : List Command}
    (pinned : (run settings clock commands).behind.Pinned name)
    (steady : Steady settings clock (commands ++ span))
    (kept : ∀ command ∈ span, command.removes name = false) :
    (run settings clock (commands ++ span)).behind.Pinned name := by
  apply run_induction (motive := fun scene => scene.behind.Pinned name) pinned steady
  intro scene command member forward pinned
  exact pinned_step pinned (kept command member) forward

/-- From the first tick on the outage of a pinned asset is active. -/
theorem active_of_ticked {span : List Command}
    (pinned : (run settings clock commands).behind.Pinned name)
    (steady : Steady settings clock (commands ++ span))
    (kept : ∀ command ∈ span, command.removes name = false) (ticked : .tick ∈ span) :
    name ∈ (run settings clock (commands ++ span)).monitor.active := by
  -- on the last command: a tick finds the asset expired, and nothing else changes the outage
  induction span using List.reverseRecOn with
  | nil => cases ticked
  | append_singleton span command ih =>
    rw [← List.append_assoc] at steady ⊢
    have earlier := steady.of_append
    have keptEarlier : ∀ command ∈ span, command.removes name = false := by
      intro other member
      exact kept other (List.mem_append_left _ member)
    rw [run_concat]
    by_cases tick : command = .tick
    · subst tick
      exact mem_active_step_tick.2 (pinned_append pinned earlier keptEarlier).expired
    · rw [active_step tick]
      refine ih earlier keptEarlier ?_
      rcases List.mem_append.1 ticked with before | last
      · exact before
      · exact absurd (List.mem_singleton.1 last).symm tick

/-! ## Assets that revive -/

/-- What a metric makes of the record of its asset, whichever way it is handed on. -/
theorem record?_step_of_metric {scene : Scene} {command : Command} {metric : Metric}
    {record : Record} (told : command.behind? = some (.put (.metric metric)))
    (found : scene.monitor.cache.record? metric.source = some record) :
    (scene.step command).monitor.cache.record? metric.source =
      some (record.applyMetric scene.now metric) := by
  change (scene.step command).behind.cache.record? metric.source = _
  rw [behind_step, told]
  refine (Cache.record?_putMetric scene.monitor.cache scene.now metric metric.source).trans ?_
  rw [if_pos rfl, found]
  rfl

theorem now_step_of_put {scene : Scene} {command : Command} {event : Event}
    (told : command.behind? = some (.put event)) : (scene.step command).now = scene.now := by
  change (scene.step command).behind.now = _
  rw [behind_step, told]
  rfl

/-- Unless a time to live of 0 was promised, a metric that was made just now leaves its asset
alive. -/
theorem alive_of_fresh_metric (watch : Watch name (history settings clock commands) first since)
    (lasting : ¬Promised name first since 0) {command : Command} {metric : Metric}
    (told : command.behind? = some (.put (.metric metric))) (same : metric.source = name)
    (positive : 0 < metric.ttl)
    (fresh : metric.timeOr (run settings clock commands).now = (run settings clock commands).now)
    (early : (run settings clock commands).now.toNat < UInt64.size - 1) :
    ¬((run settings clock commands).step command).Expired name := by
  subst same
  obtain ⟨record, found, -, least⟩ := exists_record_of_watch watch
  have long : 0 < record.ttl := by
    apply UInt64.pos_iff_ne_zero.2
    intro zero
    exact lasting (zero ▸ least.1)
  intro expired
  have reached := (Cache.expired_iff_expiration_le (record?_step_of_metric told found)).1 expired
  rw [now_step_of_put told] at reached
  exact UInt64.not_lt.2 reached (Record.lt_expiration_applyMetric long positive fresh early)

/-- An asset for which no time to live of 0 was promised since its watch began is revived by any
metric that was made just now and promises more than 0: the next tick finds it alive and tells
that its outage is over, if it had one. But once such a promise was made, be it the default
expiry or one of a metric that was late or of the future, and on a clock that never goes back,
the asset stays expired until it is removed, and from the next tick on its outage is active. It
stays so until there is a tick after the removal, which resolves it unless the asset is watched
again by then. -/
theorem revives_unless_zero_promised (settings : Settings) (clock : Clock)
    (commands : List Command) (name : AssetName) :
    let scene := run settings clock commands
    let past := history settings clock commands
    (scene.monitor.cache.contains name = true ↔ ∃ first since, Watch name past first since) ∧
      ∀ first since, Watch name past first since →
        (¬Promised name first since 0 → ∀ command metric,
          command.behind? = some (.put (.metric metric)) → metric.source = name →
          0 < metric.ttl → metric.timeOr scene.now = scene.now →
          scene.now.toNat < UInt64.size - 1 →
            let after := scene.step command
            after.now = scene.now ∧ ¬after.Expired name ∧
              name ∉ (after.step .tick).monitor.active ∧
              about name after.told =
                if name ∈ scene.monitor.active then [.resolved name] else []) ∧
        (Promised name first since 0 → ∀ span, Steady settings clock (commands ++ span) →
          (∀ command ∈ span, command.removes name = false) →
            let later := run settings clock (commands ++ span)
            later.Expired name ∧ (.tick ∈ span → ∀ rest, .tick ∉ rest →
              let last := run settings clock (commands ++ span ++ rest)
              name ∈ last.monitor.active ∧
                (last.monitor.cache.contains name = false →
                  about name last.told = [.resolved name] ∧
                    name ∉ (last.step .tick).monitor.active))) := by
  intro scene past
  refine ⟨contains_iff_watch settings clock commands name, ?_⟩
  intro first since watch
  constructor
  · intro lasting command metric told same positive fresh early after
    have alive : ¬after.Expired name :=
      alive_of_fresh_metric watch lasting told same positive fresh early
    have other : command ≠ .tick := by
      rintro rfl
      cases told
    have tells := tells_run settings clock (commands ++ [command])
    rw [run_concat] at tells
    refine ⟨now_step_of_put told, alive, fun active => alive (mem_active_step_tick.1 active), ?_⟩
    rw [tells.about_of_alive alive, active_step other]
  · intro zero span steady kept later
    have pinned := pinned_of_promised steady.of_append watch zero
    refine ⟨(pinned_append pinned steady kept).expired, ?_⟩
    intro ticked rest silent last
    have active : name ∈ last.monitor.active := by
      change name ∈ (run settings clock (commands ++ span ++ rest)).monitor.active
      rw [run_append, active_foldl silent]
      exact active_of_ticked pinned steady kept ticked
    refine ⟨active, ?_⟩
    intro unwatched
    have absent : last.Absent name :=
      Option.isNone_iff_eq_none.1 (Option.isSome_eq_false_iff.1 unwatched)
    have alive : ¬last.Expired name := absent.not_expired last.now
    have tells := tells_run settings clock (commands ++ span ++ rest)
    exact ⟨tells.about_resolved active alive, fun after => alive (mem_active_step_tick.1 after)⟩

/-- Two devices are announced, a late metric promises a time to live of 0 for one of them, and
the outages of both are raised. -/
def onePinned : List Command :=
  [.handle (.asset (sampleNotice ⟨"ups"⟩)), .handle (.asset (sampleNotice ⟨"epdu"⟩)),
    .handle (.metric (sampleMetric ⟨"epdu"⟩ 0 (some 900))), .behind (.setClock 1200), .tick]

/-- The other device is revived by a metric. The one with the promise is not, nor by a notice,
and after its removal the outage stays active until the next tick. -/
theorem one_device_revives :
    let scene := run ⟨100, 1, false⟩ ⟨1000⟩ onePinned
    let revival := Command.handle (.metric (sampleMetric ⟨"ups"⟩ 50 none))
    let attempts := [Command.handle (.metric (sampleMetric ⟨"epdu"⟩ 50 none)),
      .handle (.asset (sampleNotice ⟨"epdu"⟩)), .tick]
    let last := run ⟨100, 1, false⟩ ⟨1000⟩ (onePinned ++ attempts ++ [.behind (.delete ⟨"epdu"⟩)])
    ¬(scene.step revival).Expired ⟨"ups"⟩ ∧
      about ⟨"ups"⟩ (scene.step revival).told = [.resolved ⟨"ups"⟩] ∧
      (run ⟨100, 1, false⟩ ⟨1000⟩ (onePinned ++ attempts)).Expired ⟨"epdu"⟩ ∧
      ⟨"epdu"⟩ ∈ last.monitor.active ∧ about ⟨"epdu"⟩ last.told = [.resolved ⟨"epdu"⟩] := by
  intro scene revival attempts last
  let idle : List Moment := [⟨.setDefaultExpiry 100, 1000, Settings.standardExpiry⟩,
    ⟨.setVerbose false, 1000, 100⟩]
  let first (name : String) : Moment := ⟨.put (.asset (sampleNotice ⟨name⟩)), 1000, 100⟩
  let since : List Moment :=
    [⟨.put (.metric (sampleMetric ⟨"epdu"⟩ 0 (some 900))), 1000, 100⟩, ⟨.setClock 1200, 1000, 100⟩]
  have ups : Watch ⟨"ups"⟩ (history ⟨100, 1, false⟩ ⟨1000⟩ onePinned) (first "ups")
      (first "epdu" :: since) :=
    ⟨idle, rfl, by decide, by decide +kernel⟩
  have epdu : Watch ⟨"epdu"⟩ (history ⟨100, 1, false⟩ ⟨1000⟩ onePinned) (first "epdu") since :=
    ⟨idle ++ [first "ups"], rfl, by decide +kernel, by decide +kernel⟩
  have lasting : ¬Promised ⟨"ups"⟩ (first "ups") (first "epdu" :: since) 0 := by
    rintro (same | ⟨moment, member, promised⟩)
    · exact absurd same (by decide)
    · have none : ∀ moment ∈ first "epdu" :: since, moment.ttl? ⟨"ups"⟩ = none := by
        decide +kernel
      rw [none moment member] at promised
      cases promised
  have zero : Promised ⟨"epdu"⟩ (first "epdu") since 0 :=
    .inr ⟨_, List.mem_cons_self, by decide +kernel⟩
  have steady : Steady ⟨100, 1, false⟩ ⟨1000⟩ (onePinned ++ attempts) :=
    steady_of_forall_take (by decide +kernel)
  obtain ⟨-, decides⟩ := revives_unless_zero_promised ⟨100, 1, false⟩ ⟨1000⟩ onePinned ⟨"ups"⟩
  obtain ⟨-, decides'⟩ := revives_unless_zero_promised ⟨100, 1, false⟩ ⟨1000⟩ onePinned ⟨"epdu"⟩
  obtain ⟨-, alive, -, told⟩ := (decides _ _ ups).1 lasting revival _ rfl rfl (by decide)
    (by decide +kernel) (by decide +kernel)
  obtain ⟨expired, active⟩ := (decides' _ _ epdu).2 zero attempts steady (by decide +kernel)
  obtain ⟨stays, closes⟩ := active (by decide) [.behind (.delete ⟨"epdu"⟩)] (by decide)
  refine ⟨alive, told.trans (if_pos (by decide +kernel)), expired, stays, ?_⟩
  exact (closes (by decide +kernel)).1

end Monitor

end AssetWatch
