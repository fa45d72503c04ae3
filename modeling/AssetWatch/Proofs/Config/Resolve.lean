import AssetWatch.Agent.Process
import AssetWatch.Proofs.CommandLine

/-!
# The settings that are resolved

Whether settings come out of the configuration file and the command line is decided twice: the
file has to be usable as it stands, and the settings have to obey the rules once the command
line has had its word. The rules are those of exact arithmetic, although the alert window is
computed in words (`problemsOf_eq_nil_iff`).
-/

namespace AssetWatch

/-- No rule is broken just when the words obey the rules as numbers. A window that does not fit
into a word is replaced by the greatest word, which no interval exceeds. -/
theorem problemsOf_eq_nil_iff {expiry interval : Seconds} :
    problemsOf expiry interval = [] ↔
      0 < expiry.toNat ∧ 0 < interval.toNat ∧ interval.toNat ≤ 2 * expiry.toNat := by
  have window := expiry.toNat_twiceSat
  have size := Seconds.size_eq
  have bound := interval.toNat_lt
  simp only [problemsOf, List.append_eq_nil_iff, ite_eq_right_iff, imp_false,
    List.cons_ne_nil, ← UInt64.toNat_inj, UInt64.lt_iff_toNat_lt, UInt64.toNat_zero, window]
  omega

namespace Settings

/-- The settings obey the rules, in exact arithmetic. -/
def ObeysRules (settings : Settings) : Prop :=
  0 < settings.defaultExpiry.toNat ∧ 0 < settings.checkInterval.toNat ∧
    settings.checkInterval.toNat ≤ 2 * settings.defaultExpiry.toNat

theorem problems_eq_nil_iff {settings : Settings} : settings.problems = [] ↔ settings.ObeysRules :=
  problemsOf_eq_nil_iff

theorem checked_of_obeysRules {settings : Settings} (h : settings.ObeysRules) :
    settings.checked = .ok settings := by
  rw [checked, problems_eq_nil_iff.2 h]
  rfl

theorem checked_of_not_obeysRules {settings : Settings} (h : ¬settings.ObeysRules) :
    settings.checked = .error (.invalid settings.problems) := by
  refine if_neg fun empty => h (problems_eq_nil_iff.1 ?_)
  exact List.isEmpty_iff.1 empty

end Settings

/-! ## The file -/

/-- The file under a path says what a configuration says, and the configuration can be used as
it stands, with the standard in the place of what is missing. -/
def Configuration.IsUsable (config : Configuration) (files : Files) (path : String) : Prop :=
  ∃ text, files.text path = .ok text ∧ ofText? text = some config ∧
    config.version = currentVersion ∧ config.settings.ObeysRules

theorem Configuration.check_eq_ok_iff {config : Configuration} {settings : Settings} :
    config.check = .ok settings ↔
      config.version = currentVersion ∧ config.settings.ObeysRules ∧
        config.settings = settings := by
  have rules : config.problems = [] ↔ config.settings.ObeysRules := problemsOf_eq_nil_iff
  rw [← rules]
  by_cases supported : config.version = currentVersion <;>
    by_cases sound : config.problems = [] <;> simp [check, supported, sound]

namespace Settings

theorem value_load_eq_ok_iff {files : Files} {path : String} {settings : Settings} :
    (load files path).value = .ok settings ↔
      ∃ config : Configuration, config.IsUsable files path ∧ config.settings = settings := by
  rw [load, Logged.value_bind]
  cases read : files.text path with
  | error reason => simp [Configuration.IsUsable, read]
  | ok text =>
    cases said : Configuration.ofText? text with
    | none => simp [Configuration.IsUsable, read, said, ofText]
    | some config =>
      simp [Configuration.IsUsable, read, said, ofText, Configuration.check_eq_ok_iff, and_assoc]

theorem value_loadNamed_eq_ok_iff {files : Files} {path : String} {settings : Settings} :
    (loadNamed files path).value = .ok settings ↔
      ∃ config : Configuration, config.IsUsable files path ∧ config.settings = settings := by
  rw [← value_load_eq_ok_iff, loadNamed, Logged.value_bind]
  cases (load files path).value <;> simp

theorem exists_of_value_loadNamed_error {files : Files} {path : String} {error : ResolveError}
    (h : (loadNamed files path).value = .error error) :
    ∃ cause, error = .unloadable path cause := by
  rw [loadNamed, Logged.value_bind] at h
  cases loaded : (load files path).value with
  | error cause =>
    rw [loaded] at h
    exact ⟨cause, (Except.error.inj h).symm⟩
  | ok settings =>
    rw [loaded] at h
    cases h

end Settings

/-- The path of the file that is looked at: the one that is named, or else the default path if
anything stands there. -/
def soughtPath? (named : Option String) (environment : Environment) (files : Files) :
    Option String :=
  match named with
  | some path => some path
  | none => if files.present environment.configPath then some environment.configPath else none

/-- What the configuration file contributes. If one is looked at, it has to be usable. -/
inductive Supplies (named : Option String) (environment : Environment) (files : Files) :
    Option Configuration → Prop
  | file {path : String} {config : Configuration}
      (sought : soughtPath? named environment files = some path)
      (usable : config.IsUsable files path) : Supplies named environment files (some config)
  | nothing (sought : soughtPath? named environment files = none) :
      Supplies named environment files none

namespace Settings

variable {arguments : Arguments} {environment : Environment} {files : Files}

theorem value_fromFile :
    (fromFile arguments environment files).value =
      match soughtPath? arguments.config environment files with
      | some path => (loadNamed files path).value
      | none => .ok standard := by
  unfold fromFile soughtPath?
  cases arguments.config with
  | some path => rfl
  | none => by_cases present : files.present environment.configPath = true <;> simp [present]

/-- The settings of the file that is looked at are those of what it contributes. -/
theorem value_fromFile_eq_ok_iff {settings : Settings} :
    (fromFile arguments environment files).value = .ok settings ↔
      ∃ source, Supplies arguments.config environment files source ∧
        (source.map Configuration.settings).getD standard = settings := by
  rw [value_fromFile]
  constructor
  · intro h
    cases sought : soughtPath? arguments.config environment files with
    | some path =>
      simp only [sought] at h
      obtain ⟨config, usable, rfl⟩ := value_loadNamed_eq_ok_iff.1 h
      exact ⟨some config, .file sought usable, rfl⟩
    | none =>
      simp only [sought] at h
      exact ⟨none, .nothing sought, Except.ok.inj h⟩
  · rintro ⟨source, supplies, rfl⟩
    cases supplies with
    | file sought usable =>
      simp only [sought]
      exact value_loadNamed_eq_ok_iff.2 ⟨_, usable, rfl⟩
    | nothing sought =>
      rw [sought]
      rfl

theorem exists_of_value_fromFile_error {error : ResolveError}
    (h : (fromFile arguments environment files).value = .error error) :
    ∃ path cause, error = .unloadable path cause := by
  rw [value_fromFile] at h
  split at h
  next path _ => exact ⟨path, exists_of_value_loadNamed_error h⟩
  next => cases h

/-! ## The last word -/

/-- The settings that the file and the command line ask for: the line has the last word on the
expiry and none on the interval, and either of them asks for verbosity. -/
def merged (source : Option Configuration) (arguments : Arguments) : Settings where
  defaultExpiry := (arguments.defaultExpiry.or (source.bind (·.defaultExpiry))).getD 450
  checkInterval := (source.bind (·.checkInterval)).getD 1
  verbose := source.any (·.verbose) || arguments.verbose

theorem override_eq_merged (source : Option Configuration) (arguments : Arguments) :
    ((source.map Configuration.settings).getD standard).override arguments =
      merged source arguments := by
  have expiry : standardExpiry = 450 := by decide
  have interval : standardInterval = 1 := rfl
  cases source <;> cases given : arguments.defaultExpiry <;>
    simp [override, merged, standard, Configuration.settings, given, expiry, interval]

theorem value_resolve (arguments : Arguments) (environment : Environment) (files : Files) :
    (resolve arguments environment files).value =
      (fromFile arguments environment files).value.bind fun settings =>
        (settings.override arguments).checked := by
  rw [resolve, Logged.value_bind]
  cases (fromFile arguments environment files).value <;> rfl

theorem value_resolve_of_supplies {source : Option Configuration}
    (h : Supplies arguments.config environment files source) :
    (resolve arguments environment files).value = (merged source arguments).checked := by
  rw [value_resolve, value_fromFile_eq_ok_iff.2 ⟨source, h, rfl⟩, ← override_eq_merged]
  rfl

/-- A file that cannot be used stays so, whatever the command line says about the settings. -/
theorem exists_value_resolve_of_not_supplies
    (h : ¬∃ source, Supplies arguments.config environment files source) :
    ∃ path cause, ∀ defaultExpiry verbose,
      (resolve { arguments with defaultExpiry := defaultExpiry, verbose := verbose } environment
        files).value = .error (.unloadable path cause) := by
  cases found : (fromFile arguments environment files).value with
  | ok settings =>
    obtain ⟨source, supplies, -⟩ := value_fromFile_eq_ok_iff.1 found
    exact absurd ⟨source, supplies⟩ h
  | error error =>
    obtain ⟨path, cause, rfl⟩ := exists_of_value_fromFile_error found
    refine ⟨path, cause, fun defaultExpiry verbose => ?_⟩
    -- Only the path is asked for when the file is looked at.
    have same : fromFile { arguments with defaultExpiry := defaultExpiry, verbose := verbose }
        environment files = fromFile arguments environment files := rfl
    rw [value_resolve, same, found]
    rfl

theorem value_resolve_eq_ok_iff {settings : Settings} :
    (resolve arguments environment files).value = .ok settings ↔
      ∃ source, Supplies arguments.config environment files source ∧
        settings = merged source arguments ∧ settings.ObeysRules := by
  constructor
  · intro h
    by_cases supplied : ∃ source, Supplies arguments.config environment files source
    · obtain ⟨source, supplies⟩ := supplied
      rw [value_resolve_of_supplies supplies] at h
      by_cases sound : (merged source arguments).ObeysRules
      · rw [checked_of_obeysRules sound] at h
        cases h
        exact ⟨source, supplies, rfl, sound⟩
      · rw [checked_of_not_obeysRules sound] at h
        cases h
    · obtain ⟨path, cause, fails⟩ := exists_value_resolve_of_not_supplies supplied
      cases h.symm.trans (fails arguments.defaultExpiry arguments.verbose)
  · rintro ⟨source, supplies, rfl, sound⟩
    rw [value_resolve_of_supplies supplies, checked_of_obeysRules sound]

/-- The agent starts with the settings that are resolved. -/
theorem value_resolve_of_start {filter : Log.Filter} {session : Agent.Session}
    (h : (Agent.start filter arguments environment files).value = .ok session) :
    (resolve arguments environment files).value = .ok session.settings := by
  rw [Agent.start, Logged.value_bind, Logged.value_bind] at h
  cases resolved : (resolve arguments environment files).value with
  | error error =>
    rw [resolved] at h
    cases h
  | ok settings =>
    simp only [resolved] at h
    -- What is shown in the log only decides on the order of the reports.
    generalize filter.allows _ = shown at h
    cases shown <;> cases h <;> rfl

/-- There are settings just when the file can be used as it stands, or is missing at the default
path, and what the command line makes of it obeys the rules. The command line rescues no file
that cannot be used, and no file rescues a command line that breaks a rule, so the agent never
starts with a period of zero. The expiry comes from the environment only if the line does not
give it. -/
theorem resolve_checks_twice (arguments : Arguments) (environment : Environment) (files : Files) :
    (∀ settings, (resolve arguments environment files).value = .ok settings ↔
      ∃ source, Supplies arguments.config environment files source ∧
        settings = merged source arguments ∧ settings.ObeysRules) ∧
    ((¬∃ source, Supplies arguments.config environment files source) →
      ∃ path cause, ∀ defaultExpiry verbose,
        (resolve { arguments with defaultExpiry := defaultExpiry, verbose := verbose } environment
          files).value = .error (.unloadable path cause)) ∧
    (∀ source, Supplies arguments.config environment files source →
      ¬(merged source arguments).ObeysRules →
      (resolve arguments environment files).value =
        .error (.invalid (merged source arguments).problems)) ∧
    (∀ filter session, (Agent.start filter arguments environment files).value = .ok session →
      session.settings.ObeysRules ∧
        (resolve arguments environment files).value = .ok session.settings) ∧
    ∀ line, Arguments.parse line environment = .ok arguments →
      arguments.config = CommandLine.given? .config line ∧
        Arguments.ExpiryFrom line environment arguments.defaultExpiry := by
  refine ⟨fun settings => value_resolve_eq_ok_iff, exists_value_resolve_of_not_supplies, ?_, ?_,
    fun line => Arguments.given_of_parse⟩
  · intro source supplies broken
    rw [value_resolve_of_supplies supplies, checked_of_not_obeysRules broken]
  · intro filter session starts
    have resolved := value_resolve_of_start starts
    obtain ⟨source, -, -, sound⟩ := value_resolve_eq_ok_iff.1 resolved
    exact ⟨sound, resolved⟩

example : (resolve ⟨none, some 0, false, "info"⟩ ⟨[]⟩ (.single (.error .notFound))).value =
    .error (.invalid [.zeroDefaultExpiry]) := rfl

end Settings

end AssetWatch
