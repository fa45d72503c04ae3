import AssetWatch.Proofs.Monitor.History

/-!
# Why outages are resolved

Once an asset has expired, it stays so until it is removed or seen again. Whatever else
happens, its record only comes to expire earlier (`Scene.expired_step`). So if a tick resolves
an outage, there is a command after the tick before that explains it (`resolved_of_revival`).
-/

namespace AssetWatch

namespace Cache

/-- A command that can end the outage of an asset: an event or a deletion that removes the
asset while it is watched, or a metric that counts and was made later than the asset had been
seen. No other answer to an event and no other command can. -/
def Scene.Revives (scene : Scene) (name : AssetName) : Command → Prop
  | .put event =>
    let outcome := (scene.cache.put scene.now event).value.2
    outcome = .removed name true ∨
      outcome = .refreshed name ∧ ∃ metric record, event = .metric metric ∧
        scene.cache.record? name = some record ∧ record.lastSeen < metric.timeOr scene.now
  | .delete other => other = name ∧ scene.cache.contains name = true
  | _ => False

theorem Scene.revives_of_removes {scene : Scene} {name : AssetName} {command : Command}
    (removes : (scene.moment command).removes name = true)
    (watched : scene.cache.contains name = true) : scene.Revives name command := by
  cases command with
  | put event =>
    cases event with
    | metric metric => cases removes
    | asset notice =>
      obtain ⟨same, removal⟩ := Bool.and_eq_true_iff.1 removes
      obtain rfl : notice.name = name := of_decide_eq_true same
      refine .inl ?_
      change (scene.cache.putNotice scene.now notice).value.2 = _
      rw [value_putNotice, if_pos removal, watched]
  | delete other => exact ⟨of_decide_eq_true removes, watched⟩
  | setDefaultExpiry _ => cases removes
  | setVerbose _ => cases removes
  | setClock _ => cases removes

/-- What a metric is answered whose time the clock has reached. -/
theorem put_metric_refreshed {cache : Cache} {metric : Metric} {record : Record} {now : Seconds}
    (found : cache.record? metric.source = some record) (reached : metric.timeOr now ≤ now) :
    (cache.put now (.metric metric)).value.2 = .refreshed metric.source := by
  rw [put, value_putMetric, found]
  exact if_neg (UInt64.not_lt.2 reached)

/-- Without being seen again, an asset is not amended to expire later. -/
theorem expiration_amend_le {name : AssetName} {moment : Moment} {record : Record}
    (unseen : ∀ instant, moment.observation? name = some instant → instant ≤ record.lastSeen) :
    (moment.amend name record).expiration ≤ record.expiration := by
  have ttl : (moment.amend name record).ttl.toNat ≤ record.ttl.toNat := by
    cases promised : moment.ttl? name with
    | none => simp [Moment.amend, promised]
    | some ttl =>
      simp only [Moment.amend, promised, Option.elim_some, Seconds.toNat_min]
      omega
  have lastSeen : (moment.amend name record).lastSeen.toNat ≤ record.lastSeen.toNat := by
    cases observed : moment.observation? name with
    | none => simp [Moment.amend, observed]
    | some instant =>
      have earlier := UInt64.le_iff_toNat_le.1 (unseen instant observed)
      simp only [Moment.amend, observed, Option.elim_some, Seconds.toNat_max]
      omega
  rw [UInt64.le_iff_toNat_le, Record.toNat_expiration, Record.toNat_expiration]
  omega

/-- A command that does not revive an asset leaves it expired. -/
theorem Scene.expired_step {scene : Scene} {name : AssetName} {command : Command}
    {instant : Seconds} (expired : scene.cache.Expired instant name)
    (idle : ¬scene.Revives name command) :
    (scene.step command).cache.Expired instant name := by
  obtain ⟨record, found, past⟩ := expired_iff_record?.1 expired
  have kept : (scene.moment command).removes name ≠ true := by
    intro removes
    refine idle (Scene.revives_of_removes removes ?_)
    rw [contains_eq, found]
    rfl
  have after : (scene.step command).cache.record? name =
      some ((scene.moment command).amend name record) := by
    rw [Scene.record?_step, if_neg kept, found]
    rfl
  have unseen : ∀ time, (scene.moment command).observation? name = some time →
      time ≤ record.lastSeen := by
    intro time observed
    obtain ⟨metric, told, rfl, rfl, reached⟩ := exists_metric_of_observation? observed
    obtain rfl : command = .put (.metric metric) := told
    by_contra later
    have refreshed := put_metric_refreshed found reached
    exact idle (.inr ⟨refreshed, metric, record, rfl, found, UInt64.not_le.1 later⟩)
  refine (expired_iff_expiration_le after).2 ?_
  exact UInt64.le_trans (expiration_amend_le unseen) (of_decide_eq_true past)

end Cache

namespace Monitor

variable {scene : Scene} {name : AssetName} {commands : List Command}

/-- What the cache is told revives the asset. -/
def Scene.Revives (scene : Scene) (name : AssetName) (command : Command) : Prop :=
  ∃ told, command.behind? = some told ∧ scene.behind.Revives name told

theorem Scene.expired_step {command : Command} {instant : Seconds}
    (expired : scene.monitor.cache.Expired instant name)
    (idle : ¬scene.Revives name command) :
    (scene.step command).monitor.cache.Expired instant name := by
  have behind : (scene.step command).monitor.cache = (scene.step command).behind.cache := rfl
  rw [behind, behind_step]
  cases heard : command.behind? with
  | none => exact expired
  | some told =>
    exact Cache.Scene.expired_step expired fun revives => idle ⟨told, heard, revives⟩

/-- An expired asset stays expired, unless one of the commands revives it. -/
theorem expired_or_revived (scene : Scene) (commands : List Command) {instant : Seconds}
    (expired : scene.monitor.cache.Expired instant name) :
    (commands.foldl Scene.step scene).monitor.cache.Expired instant name ∨
      ∃ early command late, commands = early ++ command :: late ∧
        (early.foldl Scene.step scene).Revives name command := by
  induction commands generalizing scene with
  | nil => exact .inl expired
  | cons command rest ih =>
    by_cases revives : scene.Revives name command
    · exact .inr ⟨[], command, rest, rfl, revives⟩
    · rcases ih (scene.step command) (Scene.expired_step expired revives) with still | revived
      · exact .inl still
      · obtain ⟨early, later, late, rfl, revives⟩ := revived
        exact .inr ⟨command :: early, later, late, rfl, revives⟩

/-- Without a tick the active assets stay the same. -/
theorem active_foldl (silent : .tick ∉ commands) (scene : Scene) :
    (commands.foldl Scene.step scene).monitor.active = scene.monitor.active := by
  induction commands generalizing scene with
  | nil => rfl
  | cons command rest ih =>
    rw [List.mem_cons, not_or] at silent
    obtain ⟨other, quiet⟩ := silent
    rw [List.foldl_cons, ih quiet, active_step (Ne.symm other)]

theorem run_append (settings : Settings) (clock : Clock) (commands more : List Command) :
    run settings clock (commands ++ more) =
      more.foldl Scene.step (run settings clock commands) :=
  List.foldl_append

/-- An outage that the second of two ticks resolves, at a time not before the first, has been
ended by something in between: the asset was removed while it was watched, or a metric counted
that was made later than the asset had been seen. Nothing else resolves an outage. -/
theorem resolved_of_revival (settings : Settings) (clock : Clock) (before between : List Command)
    (name : AssetName) (consecutive : .tick ∉ between)
    (forward : (run settings clock before).now ≤
      (run settings clock (before ++ .tick :: between)).now)
    (resolved : .resolved name ∈ (run settings clock (before ++ .tick :: between)).told) :
    ∃ early command late, between = early ++ command :: late ∧
      (run settings clock (before ++ .tick :: early)).Revives name command := by
  have course (part : List Command) : run settings clock (before ++ .tick :: part) =
      part.foldl Scene.step ((run settings clock before).step .tick) := by
    rw [run_append, List.foldl_cons]
  have tells := tells_run settings clock (before ++ .tick :: between)
  obtain ⟨active, alive⟩ := tells.mem_resolved.1 resolved
  -- the asset had expired at the first tick
  rw [course, active_foldl consecutive] at active
  have expired : (run settings clock before).Expired name := mem_active_step_tick.1 active
  rcases expired_or_revived ((run settings clock before).step .tick) between expired with
    still | revived
  · obtain ⟨instant, found, reached⟩ := still
    rw [← course] at found
    exact absurd ⟨instant, found, UInt64.le_trans reached forward⟩ alive
  · obtain ⟨early, command, late, split, revives⟩ := revived
    refine ⟨early, command, late, split, ?_⟩
    rwa [course]

/-- After the outage of a device, a late average and a metric of the future come in, and then
one that was made just now. -/
def recovery : List Command :=
  [.handle (.metric (sampleMetric ⟨"ups"⟩ 100 (some 900))),
    .handle (.metric (sampleMetric ⟨"ups"⟩ 100 (some 5000))),
    .handle (.metric (sampleMetric ⟨"ups"⟩ 100 none))]

/-- One of the metrics has ended the outage. -/
theorem resolved_after_metrics :
    let start : List Command :=
      [.handle (.asset (sampleNotice ⟨"ups"⟩)), .behind (.setClock 1200)]
    .resolved ⟨"ups"⟩ ∈ (run ⟨100, 1, false⟩ ⟨1000⟩ (start ++ .tick :: recovery)).told ∧
      ∃ early command late, recovery = early ++ command :: late ∧
        (run ⟨100, 1, false⟩ ⟨1000⟩ (start ++ .tick :: early)).Revives ⟨"ups"⟩ command := by
  intro start
  have resolved : .resolved ⟨"ups"⟩ ∈
      (run ⟨100, 1, false⟩ ⟨1000⟩ (start ++ .tick :: recovery)).told := by
    decide +kernel
  refine ⟨resolved, ?_⟩
  exact resolved_of_revival ⟨100, 1, false⟩ ⟨1000⟩ start recovery ⟨"ups"⟩ (by decide)
    (by decide +kernel) resolved

end Monitor

end AssetWatch
