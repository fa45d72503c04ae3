import AssetWatch.Proofs.Calendar.Display
import AssetWatch.Proofs.Config.Resolve
import AssetWatch.Validator

/-!
# The validator and the agent

The validator and the agent look at a file in different ways. The validator first asks whether
anything stands under the path, and checks what the file says; the agent reads at once, and
checks in addition the settings that come out. For files of which nothing can be read that is not
there, both come to the same verdict, and the validator shows the settings that the agent finds
(`accepts_what_resolves`). What it shows stands in the lines of its summary, and these tell any
two settings apart (`Shows.unique`).
-/

namespace AssetWatch

open Text

/-! ## Lines -/

/-- What stands before the first separator and what stands behind it. -/
theorem append_separator_inj {c : Char} {front other rest rest' : List Char} (h : c ∉ front)
    (h' : c ∉ other) : front ++ c :: rest = other ++ c :: rest' ↔ front = other ∧ rest = rest' := by
  have run {front : List Char} (h : c ∉ front) : ∀ d ∈ front, (d != c) = true := by
    intro d member
    exact bne_iff_ne.2 (ne_of_mem_of_not_mem member h)
  have separates : (c != c) = false := bne_self_eq_false c
  rw [run_append_cons_inj (run h) (run h') separates separates]
  simp only [true_and]

/-- A text consists of lines, each of which is ended by a newline and holds no other. -/
def HoldsLines (text : String) (lines : List String) : Prop :=
  text.toList = lines.flatMap (fun line => line.toList ++ ['\n']) ∧
    ∀ line ∈ lines, '\n' ∉ line.toList

theorem holdsLines_joinLines {lines : List String} (h : ∀ line ∈ lines, '\n' ∉ line.toList) :
    HoldsLines (joinLines lines) lines := by
  refine ⟨?_, h⟩
  rw [joinLines, String.toList_join, List.flatMap_map]
  simp only [String.toList_append]
  rfl

theorem eq_of_flatMap_newline_eq {lines others : List String}
    (h : ∀ line ∈ lines, '\n' ∉ line.toList) (h' : ∀ line ∈ others, '\n' ∉ line.toList)
    (same : lines.flatMap (fun line => line.toList ++ ['\n']) =
      others.flatMap (fun line => line.toList ++ ['\n'])) : lines = others := by
  induction lines generalizing others with
  | nil =>
    cases others with
    | nil => rfl
    | cons line' others => simp at same
  | cons line lines ih =>
    cases others with
    | nil => simp at same
    | cons line' others =>
      rw [List.forall_mem_cons] at h h'
      simp only [List.flatMap_cons, List.append_assoc, List.singleton_append] at same
      obtain ⟨first, rest⟩ := (append_separator_inj h.1 h'.1).1 same
      rw [String.toList_inj.1 first, ih h.2 h'.2 rest]

/-- A text consists of lines in one way only. -/
theorem HoldsLines.unique {text : String} {lines others : List String}
    (h : HoldsLines text lines) (h' : HoldsLines text others) : lines = others :=
  eq_of_flatMap_newline_eq h.2 h'.2 (h.1.symm.trans h'.1)

/-! ## Files -/

/-- What can be read stands under its path. -/
def Files.Coherent (files : Files) : Prop :=
  ∀ path content, files.read path = .ok content → files.present path = true

theorem FileTree.coherent_files (root : FileTree) (workingDirectory : String) :
    (root.files workingDirectory).Coherent := by
  intro path content read
  simp only [files] at read ⊢
  cases reached : resolve root workingDirectory path with
  | error failure =>
    rw [reached] at read
    cases read
  | ok tree => rfl

/-- The rules that a configuration breaks are those that its settings break. -/
theorem Configuration.problems_settings (config : Configuration) :
    config.settings.problems = config.problems := rfl

namespace Settings

variable {files : Files}

/-- What was read from a file that could be loaded. -/
theorem present_of_load (coherent : files.Coherent) {path : String} {settings : Settings}
    (h : (load files path).value = .ok settings) : files.present path = true := by
  obtain ⟨config, ⟨text, readable, -⟩, -⟩ := value_load_eq_ok_iff.1 h
  rw [Files.text] at readable
  cases read : files.read path with
  | error failure =>
    rw [read] at readable
    cases readable
  | ok content => exact coherent path content read

/-- Settings that were loaded obey the rules, and verbosity breaks none. -/
theorem checked_of_load {path : String} {settings : Settings}
    (h : (load files path).value = .ok settings) (verbose : Bool) :
    checked { settings with verbose := verbose } = .ok { settings with verbose := verbose } := by
  obtain ⟨config, ⟨-, -, -, -, sound⟩, rfl⟩ := value_load_eq_ok_iff.1 h
  exact checked_of_obeysRules sound

/-- What is made of a named file if the command line is silent about the expiry. -/
theorem value_resolve_named (path : String) (verbose : Bool) (logLevel : String)
    (environment : Environment) (files : Files) :
    (resolve ⟨some path, none, verbose, logLevel⟩ environment files).value =
      match (load files path).value with
      | .ok settings => .ok { settings with verbose := settings.verbose || verbose }
      | .error cause => .error (.unloadable path cause) := by
  have sought : (fromFile ⟨some path, none, verbose, logLevel⟩ environment files).value =
      (loadNamed files path).value := rfl
  rw [value_resolve, sought, loadNamed, Logged.value_bind]
  cases loaded : (load files path).value with
  | error cause => rfl
  | ok settings => exact checked_of_load loaded _

end Settings

namespace Validator

open Settings Seconds

variable {files : Files}

/-! ## What is shown -/

/-- A text shows settings: how long an asset may be silent, after how long an alert follows, which
is twice as long if that can be counted, how often the assets are checked, and whether the cache
is verbose. -/
def Shows (text : String) (settings : Settings) : Prop :=
  ∃ expiry window interval : String,
    Spells expiry settings.defaultExpiry.toNat ∧
    Spells window (min (2 * settings.defaultExpiry.toNat) (UInt64.size - 1)) ∧
    Spells interval settings.checkInterval.toNat ∧
    HoldsLines text
      ["✓ Configuration is valid", "", "Summary:", "  Config version: 1",
        "  Default expiry: " ++ expiry ++ " (alert after " ++ window ++ ")",
        "  Check interval: " ++ interval, "  Verbose: " ++ toString settings.verbose]

/-- A spelled length of time neither ends a line nor opens a parenthesis. -/
theorem notMem_of_spells {text : String} {n : Nat} (h : Spells text n) :
    '\n' ∉ text.toList ∧ '(' ∉ text.toList := by
  have different {c : Char} (digit : c.isDigit = false) (unit : c ∉ ['h', 'm', 's', ' ']) :
      c ∉ text.toList := by
    intro member
    rcases h.characters c member with isDigit | isUnit
    · exact absurd (digit.symm.trans isDigit) (by decide)
    · exact unit isUnit
  exact ⟨different (by decide) (by decide), different (by decide) (by decide)⟩

theorem newline_notMem_toString (flag : Bool) : '\n' ∉ (toString flag).toList := by
  cases flag <;> decide

theorem eq_of_toString_eq {flag other : Bool} (h : toString flag = toString other) :
    flag = other := by
  cases flag <;> cases other <;> first | rfl | exact absurd h (by decide)

/-- The summary shows the settings that it is made of. -/
theorem shows_summary (settings : Settings) : Shows (summary settings) settings := by
  have expiry := settings.defaultExpiry.spells_lengthText
  have window := settings.defaultExpiry.twiceSat.spells_lengthText
  have interval := settings.checkInterval.spells_lengthText
  rw [toNat_twiceSat] at window
  refine ⟨_, _, _, expiry, window, interval, ?_⟩
  have version : "  Config version: " ++ Decimal.text Configuration.currentVersion.toNat =
    "  Config version: 1" := rfl
  have verbose : (if settings.verbose then "true" else "false") = toString settings.verbose := by
    cases settings.verbose <;> rfl
  rw [summary, version, verbose]
  refine holdsLines_joinLines ?_
  simp [newline_notMem_toString, (notMem_of_spells expiry).1, (notMem_of_spells window).1,
    (notMem_of_spells interval).1]

/-- A text that shows settings shows no others. -/
theorem Shows.unique {text : String} {settings other : Settings} (h : Shows text settings)
    (h' : Shows text other) : settings = other := by
  obtain ⟨expiry, window, interval, long, -, often, lines⟩ := h
  obtain ⟨expiry', window', interval', long', -, often', lines'⟩ := h'
  have same := lines.unique lines'
  simp only [List.cons.injEq, String.append_assoc, String.append_right_inj, true_and,
    and_true] at same
  obtain ⟨expiries, intervals, flags⟩ := same
  have chars : (expiry.toList ++ [' ']) ++ '(' :: ("alert after " ++ window ++ ")").toList =
      (expiry'.toList ++ [' ']) ++ '(' :: ("alert after " ++ window' ++ ")").toList := by
    simpa using congrArg String.toList expiries
  have closed {text : String} {n : Nat} (h : Spells text n) : '(' ∉ text.toList ++ [' '] := by
    simp [(notMem_of_spells h).2]
  have front := ((append_separator_inj (closed long) (closed long')).1 chars).1
  have spelled : expiry = expiry' := String.toList_inj.1 (List.append_cancel_right front)
  rw [← spelled] at long'
  rw [← intervals] at often'
  have defaultExpiry := UInt64.toNat_inj.1 (long.unique long')
  have checkInterval := UInt64.toNat_inj.1 (often.unique often')
  cases settings
  cases other
  rw [Settings.mk.injEq]
  exact ⟨defaultExpiry, checkInterval, eq_of_toString_eq flags⟩

/-! ## The verdict -/

theorem examine_of_load (coherent : files.Coherent) {path : String} {settings : Settings}
    (h : (load files path).value = .ok settings) :
    examine files path = ⟨0, summary settings, ""⟩ := by
  rw [examine, present_of_load coherent h, h]
  rfl

theorem exitCode_examine_of_load_error {path : String} {error : ConfigError}
    (h : (load files path).value = .error error) : (examine files path).exitCode = 1 := by
  rw [examine, h]
  split <;> rfl

/-- The validator ends with success just when the agent, told to use the same file and nothing
else about the settings but its verbosity, finds settings; otherwise it ends with a failure. The
settings that the validator shows, and it shows no others, are those that the agent finds, but for
the verbosity that the command line adds: the lines of its output spell their default expiry with
the alert window, their check interval and their verbosity. -/
theorem accepts_what_resolves (files : Files) (coherent : files.Coherent) (path : String)
    (rest : List String) (environment surroundings : Environment) (logLevel : String) :
    let verdict := run (path :: rest) environment files
    let resolved := fun verbose =>
      (resolve ⟨some path, none, verbose, logLevel⟩ surroundings files).value
    (∀ verbose, verdict.exitCode = if (resolved verbose).isOk then 0 else 1) ∧
      (∀ verbose settings, resolved verbose = .ok settings → ∃ shown : Settings,
        verdict = ⟨0, summary shown, ""⟩ ∧ shown.defaultExpiry = settings.defaultExpiry ∧
          shown.checkInterval = settings.checkInterval ∧
          settings.verbose = (shown.verbose || verbose) ∧
          Shows verdict.output shown ∧ ∀ other, Shows verdict.output other → other = shown) ∧
      ∀ config : Configuration, config.problems = config.settings.problems := by
  intro verdict resolved
  refine ⟨?_, ?_, ?_⟩
  · intro verbose
    simp only [resolved, value_resolve_named]
    cases loaded : (load files path).value with
    | error error => exact exitCode_examine_of_load_error loaded
    | ok settings => exact congrArg Result.exitCode (examine_of_load coherent loaded)
  · intro verbose settings found
    simp only [resolved, value_resolve_named] at found
    cases loaded : (load files path).value with
    | error error =>
      rw [loaded] at found
      cases found
    | ok shown =>
      rw [loaded] at found
      cases found
      have accepted : verdict = ⟨0, summary shown, ""⟩ := examine_of_load coherent loaded
      refine ⟨shown, accepted, rfl, rfl, rfl, ?_, ?_⟩
      · rw [accepted]
        exact shows_summary shown
      · intro other shows
        rw [accepted] at shows
        exact shows.unique (shows_summary shown)
  · intro config
    exact config.problems_settings.symm

/-- A directory with a file that can be used. -/
def sampleTree : FileTree :=
  .directory [("agent.toml", .file (Text.Utf8.encode
    "config_version = 1\n[agent]\ndefault_expiry_seconds = 60\nverbose = true\n".toList))]

theorem accepts_sample_file :
    (sampleTree.files "/").Coherent ∧
      (resolve ⟨some "agent.toml", none, false, "info"⟩ ⟨[]⟩
        (sampleTree.files "/")).value.toOption = some ⟨60, 1, true⟩ ∧
      (run ["agent.toml"] ⟨[]⟩ (sampleTree.files "/")).exitCode = 0 := by
  have coherent := sampleTree.coherent_files "/"
  have succeeds : (resolve ⟨some "agent.toml", none, false, "info"⟩ ⟨[]⟩
      (sampleTree.files "/")).value.isOk = true := by decide +kernel
  obtain ⟨verdict, -, -⟩ :=
    accepts_what_resolves (sampleTree.files "/") coherent "agent.toml" [] ⟨[]⟩ ⟨[]⟩ "info"
  refine ⟨coherent, by decide +kernel, ?_⟩
  exact (verdict false).trans (if_pos succeeds)

end Validator

end AssetWatch
