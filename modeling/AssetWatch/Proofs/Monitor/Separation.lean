import AssetWatch.Proofs.Monitor.Alternation
import AssetWatch.Proofs.Monitor.History

/-!
# Assets do not interfere

What becomes of an asset depends only on the commands that name it and on those that name no
asset. Two scenes agree on an asset if nothing can be seen of it that differs; a command keeps
them in agreement, and a command that names another asset is not even noticed
(`Scene.Agree.step`, `Scene.Agree.step_left`). So the other assets can be left out of a run, and
the order in which commands about different assets come does not matter
(`assets_do_not_interfere`).
-/

namespace AssetWatch

/-- The asset that an event is about. -/
def Event.subject : Event → AssetName
  | .metric reading => reading.source
  | .asset notice => notice.name

namespace Cache

/-- The asset that a command names, if it names one. -/
def Command.subject? : Command → Option AssetName
  | .put event => some event.subject
  | .delete name => some name
  | _ => none

/-- Two scenes do not differ in what concerns one asset. -/
structure Scene.Agree (name : AssetName) (one other : Scene) : Prop where
  clock : one.clock = other.clock
  defaultExpiry : one.cache.defaultExpiry = other.cache.defaultExpiry
  verbose : one.cache.verbose = other.cache.verbose
  record : one.cache.record? name = other.cache.record? name

variable {name : AssetName} {one other : Scene}

/-- A command is carried out alike. -/
theorem Scene.Agree.step (h : Agree name one other) (command : Command) :
    Agree name (one.step command) (other.step command) := by
  have now : one.now = other.now := congrArg Clock.now h.clock
  have moment : one.moment command = other.moment command := by
    rw [Scene.moment, Scene.moment, now, h.defaultExpiry]
  constructor
  · cases command with
    | setClock later => rfl
    | _ => exact h.clock
  · rw [defaultExpiry_step, defaultExpiry_step, h.defaultExpiry]
  · cases command with
    | put event =>
      change (one.cache.put one.now event).value.1.verbose =
        (other.cache.put other.now event).value.1.verbose
      rw [verbose_put, verbose_put, h.verbose]
    | setVerbose verbose => rfl
    | _ => exact h.verbose
  · rw [record?_step, record?_step, moment, h.record]

/-- A command that names another asset leaves the record of this one as it is. -/
theorem Scene.record?_step_of_subject {command : Command} {subject : AssetName}
    (named : command.subject? = some subject) (apart : subject ≠ name) (scene : Scene) :
    (scene.step command).cache.record? name = scene.cache.record? name := by
  cases command with
  | put event =>
    obtain rfl : event.subject = subject := Option.some_inj.1 named
    cases event with
    | metric metric => exact (record?_putMetric _ _ _ _).trans (if_neg apart)
    | asset notice => exact (record?_putNotice _ _ _ _).trans (if_neg apart)
  | delete other =>
    obtain rfl : other = subject := Option.some_inj.1 named
    exact (record?_delete _ _ _).trans (if_neg apart)
  | setDefaultExpiry _ => cases named
  | setVerbose _ => cases named
  | setClock _ => cases named

/-- A command that names another asset is not noticed. -/
theorem Scene.Agree.step_left (h : Agree name one other) {command : Command}
    {subject : AssetName} (named : command.subject? = some subject) (apart : subject ≠ name) :
    Agree name (one.step command) other := by
  have record := (record?_step_of_subject named apart one).trans h.record
  cases command with
  | put event =>
    exact ⟨h.clock, (defaultExpiry_put _ _ _).trans h.defaultExpiry,
      (verbose_put _ _ _).trans h.verbose, record⟩
  | delete other => exact ⟨h.clock, h.defaultExpiry, h.verbose, record⟩
  | setDefaultExpiry _ => cases named
  | setVerbose _ => cases named
  | setClock _ => cases named

/-- An event about the asset is answered alike. -/
theorem Scene.Agree.outcome (h : Agree name one other) {event : Event}
    (about : event.subject = name) :
    (one.cache.put one.now event).value.2 = (other.cache.put other.now event).value.2 := by
  subst about
  have now : one.now = other.now := congrArg Clock.now h.clock
  cases event with
  | metric metric =>
    have found : one.cache.record? metric.source = other.cache.record? metric.source := h.record
    rw [put, put, value_putMetric, value_putMetric, found, now]
    cases other.cache.record? metric.source <;> rfl
  | asset notice =>
    have watched : one.cache.contains notice.name = other.cache.contains notice.name := by
      rw [contains_eq, contains_eq]
      exact congrArg Option.isSome h.record
    rw [put, put, value_putNotice, value_putNotice, watched]
    repeat' split
    all_goals rfl

end Cache

namespace Monitor

open AssetName

/-- The asset that a command names, if it names one. -/
def Command.subject? : Command → Option AssetName
  | .handle event => some event.subject
  | .behind command => command.subject?
  | .tick => none

/-- Whether a command names the asset or no asset. -/
def Command.concerns (name : AssetName) (command : Command) : Bool :=
  command.subject?.all fun subject => subject = name

/-- The commands without those that name other assets. -/
def restrict (name : AssetName) (commands : List Command) : List Command :=
  commands.filter (Command.concerns name)

theorem restrict_append (name : AssetName) (commands more : List Command) :
    restrict name (commands ++ more) = restrict name commands ++ restrict name more :=
  List.filter_append ..

theorem restrict_cons_of_concerns {name : AssetName} {command : Command}
    (concerned : command.concerns name = true) (commands : List Command) :
    restrict name (command :: commands) = command :: restrict name commands :=
  List.filter_cons_of_pos concerned

theorem restrict_cons_of_foreign {name : AssetName} {command : Command}
    (foreign : command.concerns name = false) (commands : List Command) :
    restrict name (command :: commands) = restrict name commands :=
  List.filter_cons_of_neg (by simp [foreign])

theorem not_mem_of_restrict_eq_nil {name : AssetName} {commands : List Command}
    (h : restrict name commands = []) {command : Command}
    (concerned : command.concerns name = true) : command ∉ commands := by
  intro member
  exact List.filter_eq_nil_iff.1 h command member concerned

/-- Two scenes do not differ in what concerns one asset. -/
structure Scene.Agree (name : AssetName) (one other : Scene) : Prop where
  behind : Cache.Scene.Agree name one.behind other.behind
  active : name ∈ one.monitor.active ↔ name ∈ other.monitor.active

variable {name : AssetName} {one other : Scene}

/-! ## One command -/

theorem Scene.Agree.refl (name : AssetName) (scene : Scene) : Agree name scene scene :=
  ⟨⟨rfl, rfl, rfl, rfl⟩, Iff.rfl⟩

theorem Scene.Agree.now (h : Agree name one other) : one.now = other.now :=
  congrArg Clock.now h.behind.clock

theorem Scene.Agree.expiration (h : Agree name one other) :
    one.monitor.cache.expiration? name = other.monitor.cache.expiration? name :=
  congrArg (Option.map Record.expiration) h.behind.record

theorem Scene.Agree.expired (h : Agree name one other) :
    one.Expired name ↔ other.Expired name := by
  unfold Scene.Expired Cache.Expired
  rw [h.expiration, h.now]

/-- A command is carried out alike. -/
theorem Scene.Agree.step (h : Agree name one other) (command : Command) :
    Agree name (one.step command) (other.step command) := by
  cases command with
  | handle event => exact ⟨h.behind.step (.put event), h.active⟩
  | behind command => exact ⟨h.behind.step command, h.active⟩
  | tick => exact ⟨h.behind, by rw [mem_active_step_tick, mem_active_step_tick, h.expired]⟩

/-- A command that names another asset is not noticed. -/
theorem Scene.Agree.step_left (h : Agree name one other) {command : Command}
    (foreign : command.concerns name = false) : Agree name (one.step command) other := by
  obtain ⟨subject, named, apart⟩ : ∃ subject, command.subject? = some subject ∧
      subject ≠ name := by
    cases found : command.subject? with
    | none => simp [Command.concerns, found] at foreign
    | some subject => exact ⟨subject, rfl, by simpa [Command.concerns, found] using foreign⟩
  cases command with
  | handle event =>
    have put : (Cache.Command.put event).subject? = some subject := named
    exact ⟨h.behind.step_left put apart, h.active⟩
  | behind command => exact ⟨h.behind.step_left named apart, h.active⟩
  | tick => cases named

/-- A tick tells the same of the asset. -/
theorem Scene.Agree.told (h : Agree name one other) (hone : Ascending one.monitor.active)
    (hother : Ascending other.monitor.active) : about name one.told = about name other.told := by
  have tells := tells_tick hone one.now
  have tells' := tells_tick hother other.now
  by_cases was : name ∈ one.monitor.active <;> by_cases is : one.Expired name
  · have same := h.active.1 was
    exact (tells.about_eq_nil (iff_of_true was is)).trans
      (tells'.about_eq_nil (iff_of_true same (h.expired.1 is))).symm
  · exact (tells.about_resolved was is).trans
      (tells'.about_resolved (h.active.1 was) (mt h.expired.2 is)).symm
  · have known := Monitor.expiration?_of_expired is
    exact (tells.about_raised is was known).trans
      (tells'.about_raised (h.expired.1 is) (mt h.active.2 was) (h.expiration ▸ known)).symm
  · have different := mt h.active.2 was
    exact (tells.about_eq_nil (iff_of_false was is)).trans
      (tells'.about_eq_nil (iff_of_false different (mt h.expired.2 is))).symm

/-! ## Whole runs -/

/-- Commands that name other assets can be left out. -/
theorem Scene.Agree.foldl (h : Agree name one other) (commands : List Command) :
    Agree name (commands.foldl Scene.step one) ((restrict name commands).foldl Scene.step other) := by
  induction commands generalizing one other with
  | nil => exact h
  | cons command rest ih =>
    cases concerned : command.concerns name with
    | true =>
      rw [restrict_cons_of_concerns concerned]
      exact ih (h.step command)
    | false =>
      rw [restrict_cons_of_foreign concerned]
      exact ih (h.step_left concerned)

theorem agree_run_restrict (settings : Settings) (clock : Clock) (commands : List Command)
    (name : AssetName) :
    (run settings clock commands).Agree name (run settings clock (restrict name commands)) :=
  (Scene.Agree.refl name _).foldl commands

/-- Scenes that agree on every asset are the same. -/
theorem Scene.eq_of_agree (h : ∀ name, Agree name one other)
    (hone : Ascending one.monitor.active) (hother : Ascending other.monitor.active) :
    one = other := by
  obtain ⟨⟨⟨records, expiry, verbose⟩, active⟩, clock⟩ := one
  obtain ⟨⟨⟨records', expiry', verbose'⟩, active'⟩, clock'⟩ := other
  obtain rfl : records = records' := SortedMap.ext_get? fun name => (h name).behind.record
  obtain rfl : active = active' := hone.eq_of_mem_iff hother fun name => (h name).active
  obtain rfl : clock = clock' := (h default).behind.clock
  obtain rfl : expiry = expiry' := (h default).behind.defaultExpiry
  obtain rfl : verbose = verbose' := (h default).behind.verbose
  rfl

variable {settings : Settings} {clock : Clock} {commands others : List Command}

/-- A run is determined by what it holds for each asset. -/
theorem run_eq_of_restrict_eq (h : ∀ name, restrict name commands = restrict name others) :
    run settings clock commands = run settings clock others := by
  refine Scene.eq_of_agree (fun name => ?_) (ascending_active_run ..) (ascending_active_run ..)
  have mine := agree_run_restrict settings clock commands name
  have theirs := agree_run_restrict settings clock others name
  rw [h name] at mine
  exact ⟨⟨mine.behind.clock.trans theirs.behind.clock.symm,
    mine.behind.defaultExpiry.trans theirs.behind.defaultExpiry.symm,
    mine.behind.verbose.trans theirs.behind.verbose.symm,
    mine.behind.record.trans theirs.behind.record.symm⟩, mine.active.trans theirs.active.symm⟩

/-! ## What the ticks tell -/

/-- What the ticks tell one after the other. -/
def tellingsFrom (scene : Scene) : List Command → List (List Transition)
  | [] => []
  | command :: rest =>
    (if command = .tick then [scene.told] else []) ++ tellingsFrom (scene.step command) rest

/-- What the ticks of a run tell one after the other. -/
def tellings (settings : Settings) (clock : Clock) (commands : List Command) :
    List (List Transition) :=
  tellingsFrom (run settings clock []) commands

theorem tellingsFrom_append (scene : Scene) (commands more : List Command) :
    tellingsFrom scene (commands ++ more) =
      tellingsFrom scene commands ++ tellingsFrom (commands.foldl Scene.step scene) more := by
  induction commands generalizing scene with
  | nil => rfl
  | cons command rest ih =>
    rw [List.cons_append, tellingsFrom, tellingsFrom, ih, List.append_assoc, List.foldl_cons]

theorem tellingsFrom_eq_nil (silent : .tick ∉ commands) (scene : Scene) :
    tellingsFrom scene commands = [] := by
  induction commands generalizing scene with
  | nil => rfl
  | cons command rest ih =>
    rw [List.mem_cons, not_or] at silent
    rw [tellingsFrom, if_neg (Ne.symm silent.1), ih silent.2, List.append_nil]

theorem tellings_append (settings : Settings) (clock : Clock) (commands more : List Command) :
    tellings settings clock (commands ++ more) =
      tellings settings clock commands ++ tellingsFrom (run settings clock commands) more :=
  tellingsFrom_append _ _ _

/-! ## Commands in another order -/

theorem exists_concerns (command : Command) : ∃ name, command.concerns name = true := by
  cases found : command.subject? with
  | none => exact ⟨default, by simp [Command.concerns, found]⟩
  | some subject => exact ⟨subject, by simp [Command.concerns, found]⟩

/-- Every command concerns some asset. -/
theorem eq_nil_of_restrict (h : ∀ name, restrict name commands = []) : commands = [] := by
  refine List.eq_nil_iff_forall_not_mem.2 fun command member => ?_
  obtain ⟨name, concerned⟩ := exists_concerns command
  exact not_mem_of_restrict_eq_nil (h name) concerned member

theorem eq_of_append_singleton_eq {front early late : List Command} {command : Command}
    (h : front ++ [command] = early ++ command :: late) (fresh : command ∉ late) :
    late = [] ∧ front = early := by
  cases late using List.reverseRecOn with
  | nil => exact ⟨rfl, (List.append_inj' h rfl).1⟩
  | append_singleton late last =>
    rw [← List.cons_append, ← List.append_assoc] at h
    obtain ⟨-, same⟩ := List.append_inj' h rfl
    rw [List.singleton_inj.1 same] at fresh
    exact absurd (List.mem_append_right _ (List.mem_singleton_self _)) fresh

/-- Where the last command of a run stands among the same commands in another order. -/
theorem exists_split_of_restrict {command : Command}
    (h : ∀ name, restrict name (commands ++ [command]) = restrict name others) :
    ∃ early late, others = early ++ command :: late ∧
      (∀ name, command.concerns name = true → restrict name late = []) ∧
      ∀ name, restrict name commands = restrict name (early ++ late) := by
  obtain ⟨subject, concerned⟩ := exists_concerns command
  have mine := h subject
  rw [restrict_append, restrict_cons_of_concerns concerned] at mine
  obtain ⟨front, back, rfl, -, found⟩ := List.filter_eq_append_iff.1 mine.symm
  obtain ⟨between, late, rfl, -, -, none⟩ := List.filter_eq_cons_iff.1 found
  have fresh (name : AssetName) : command ∉ restrict name late := by
    intro member
    exact not_mem_of_restrict_eq_nil none concerned (List.mem_of_mem_filter member)
  -- for every asset that the command concerns, it is the last such command in either order
  have last (name : AssetName) (concerned : command.concerns name = true) :
      restrict name late = [] ∧ restrict name commands = restrict name (front ++ between) := by
    have same := h name
    rw [← List.append_assoc, restrict_append, restrict_append, restrict_cons_of_concerns concerned,
      restrict_cons_of_concerns concerned] at same
    exact eq_of_append_singleton_eq same (fresh name)
  refine ⟨front ++ between, late, (List.append_assoc ..).symm, ?_, ?_⟩
  · intro name concerned
    exact (last name concerned).1
  · intro name
    cases concerned : command.concerns name with
    | true =>
      obtain ⟨nothing, same⟩ := last name concerned
      rw [restrict_append, nothing, List.append_nil, same]
    | false =>
      have same := h name
      rw [← List.append_assoc, restrict_append, restrict_append,
        restrict_cons_of_foreign concerned, restrict_cons_of_foreign concerned] at same
      rw [restrict_append, ← same]
      exact (List.append_nil _).symm

/-- Runs that hold the same for each asset tell the same at each tick. -/
theorem tellings_eq_of_restrict_eq (h : ∀ name, restrict name commands = restrict name others) :
    tellings settings clock commands = tellings settings clock others := by
  induction commands using List.reverseRecOn generalizing others with
  | nil => rw [eq_nil_of_restrict fun name => (h name).symm]
  | append_singleton commands command ih =>
    obtain ⟨early, late, rfl, alone, rest⟩ := exists_split_of_restrict h
    rw [tellings_append, tellings_append, ih rest]
    by_cases tick : command = .tick
    · subst tick
      -- a tick concerns every asset, so nothing comes after it
      obtain rfl : late = [] := eq_nil_of_restrict fun name => alone name rfl
      rw [List.append_nil] at rest ⊢
      rw [run_eq_of_restrict_eq rest]
    · obtain ⟨subject, concerned⟩ := exists_concerns command
      have silent : .tick ∉ late := not_mem_of_restrict_eq_nil (alone subject concerned) rfl
      have alone : .tick ∉ [command] := mt List.mem_singleton.1 (Ne.symm tick)
      have both : .tick ∉ command :: late := by
        rw [List.mem_cons, not_or]
        exact ⟨Ne.symm tick, silent⟩
      rw [tellings_append, tellingsFrom_eq_nil silent, tellingsFrom_eq_nil alone,
        tellingsFrom_eq_nil both, List.append_nil]

/-- At every point of a run, what is known of an asset, whether its outage is active, what
becomes of the next event about it and what a tick tells of it are the same as at the same
point of the run without the commands that name other assets. So runs that differ only in how
the commands about different assets are interleaved end alike, and each tick tells the same. -/
theorem assets_do_not_interfere (settings : Settings) (clock : Clock) (commands : List Command) :
    (∀ name before, before <+: commands →
      let whole := run settings clock before
      let alone := run settings clock (restrict name before)
      restrict name before <+: restrict name commands ∧
        whole.monitor.cache.record? name = alone.monitor.cache.record? name ∧
        (name ∈ whole.monitor.active ↔ name ∈ alone.monitor.active) ∧
        (∀ event, event.subject = name →
          (whole.monitor.handle whole.now event).value.2 =
            (alone.monitor.handle alone.now event).value.2) ∧
        (whole.monitor.cache.delete name).value.2 = (alone.monitor.cache.delete name).value.2 ∧
        about name whole.told = about name alone.told) ∧
      ∀ others, (∀ name, restrict name others = restrict name commands) →
        run settings clock others = run settings clock commands ∧
          tellings settings clock others = tellings settings clock commands := by
  refine ⟨?_, fun others same => ⟨run_eq_of_restrict_eq same, tellings_eq_of_restrict_eq same⟩⟩
  intro name before reached whole alone
  have agree : whole.Agree name alone := agree_run_restrict settings clock before name
  refine ⟨reached.filter _, agree.behind.record, agree.active, ?_, ?_, ?_⟩
  · intro event about
    exact agree.behind.outcome about
  · exact congrArg Option.isSome agree.behind.record
  · exact agree.told (ascending_active_run ..) (ascending_active_run ..)

/-- Two devices are announced and fall silent, and one of them is heard of again. -/
def twoDevices : List Command :=
  [.handle (.asset (sampleNotice ⟨"epdu"⟩)), .handle (.asset (sampleNotice ⟨"ups"⟩)),
    .behind (.setClock 1200), .tick, .handle (.metric (sampleMetric ⟨"ups"⟩ 50 none)),
    .handle (.metric (sampleMetric ⟨"epdu"⟩ 50 (some 900))), .tick]

/-- The same happens to each of the two, but in another order. -/
def twoDevicesSwapped : List Command :=
  [.handle (.asset (sampleNotice ⟨"ups"⟩)), .handle (.asset (sampleNotice ⟨"epdu"⟩)),
    .behind (.setClock 1200), .tick, .handle (.metric (sampleMetric ⟨"epdu"⟩ 50 (some 900))),
    .handle (.metric (sampleMetric ⟨"ups"⟩ 50 none)), .tick]

theorem restrict_twoDevicesSwapped (name : AssetName) :
    restrict name twoDevicesSwapped = restrict name twoDevices := by
  by_cases epdu : ⟨"epdu"⟩ = name
  · subst epdu
    decide +kernel
  · by_cases ups : ⟨"ups"⟩ = name
    · subst ups
      decide +kernel
    · simp [restrict, twoDevicesSwapped, twoDevices, List.filter_cons, Command.concerns,
        Command.subject?, Cache.Command.subject?, Event.subject, sampleNotice, sampleMetric,
        epdu, ups]

/-- One of the two devices is not affected by the other, nor by the order. -/
theorem swapped_devices_end_alike :
    let whole := run ⟨100, 1, false⟩ ⟨1000⟩ (twoDevices.take 4)
    let alone := run ⟨100, 1, false⟩ ⟨1000⟩ (restrict ⟨"ups"⟩ (twoDevices.take 4))
    let metric := Event.metric (sampleMetric ⟨"ups"⟩ 50 none)
    (whole.monitor.handle whole.now metric).value.2 =
        (alone.monitor.handle alone.now metric).value.2 ∧
      run ⟨100, 1, false⟩ ⟨1000⟩ twoDevicesSwapped = run ⟨100, 1, false⟩ ⟨1000⟩ twoDevices ∧
      tellings ⟨100, 1, false⟩ ⟨1000⟩ twoDevicesSwapped =
        tellings ⟨100, 1, false⟩ ⟨1000⟩ twoDevices := by
  intro whole alone metric
  obtain ⟨points, orders⟩ := assets_do_not_interfere ⟨100, 1, false⟩ ⟨1000⟩ twoDevices
  obtain ⟨-, -, -, outcome, -, -⟩ := points ⟨"ups"⟩ (twoDevices.take 4) (List.take_prefix _ _)
  exact ⟨outcome metric rfl, orders twoDevicesSwapped restrict_twoDevicesSwapped⟩

end Monitor

end AssetWatch
