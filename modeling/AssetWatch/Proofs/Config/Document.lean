import AssetWatch.Config.Configuration
import AssetWatch.Proofs.Toml.Integers

/-!
# What comes of a document

A document whose agent is a table, if it has one, comes to one of four ends, which are looked for
in this order: a key is missing or has a value of the wrong type, the version is not supported,
rules are broken, or there are settings. The rules are stated in exact arithmetic here, with all
that are broken in a fixed order. They can be, because a document only holds integers of 64 bits
with a sign: twice such an expiry still fits into a word (`Seconds.twiceSat_ofNat`).
-/

namespace AssetWatch

theorem Seconds.twiceSat_ofNat {n : Nat} (h : n < 2 ^ 63) :
    twiceSat (.ofNat n) = .ofNat (2 * n) := by
  have size := size_eq
  rw [← UInt64.toNat_inj, toNat_twiceSat, UInt64.toNat_ofNat_of_lt' (by omega),
    UInt64.toNat_ofNat_of_lt' (by omega)]
  omega

namespace Problem

/-- Whether an expiry and an interval break the rule, in exact arithmetic. -/
def isBroken (expiry interval : Nat) : Problem → Bool
  | zeroDefaultExpiry => expiry = 0
  | zeroCheckInterval => interval = 0
  | checkIntervalTooLong _ _ => 0 < expiry ∧ 2 * expiry < interval

/-- All rules in the order in which they are reported, with the numbers that may break them. -/
def inOrder (expiry interval : Nat) : List Problem :=
  [zeroDefaultExpiry, zeroCheckInterval,
    checkIntervalTooLong (.ofNat interval) (.ofNat (2 * expiry))]

/-- The rules that an expiry and an interval break. -/
def broken (expiry interval : Nat) : List Problem :=
  (inOrder expiry interval).filter (isBroken expiry interval)

end Problem

/-- The rules that words break are those that the numbers break. -/
theorem problemsOf_ofNat {expiry interval : Nat} (he : expiry < 2 ^ 63) (hi : interval < 2 ^ 63) :
    problemsOf (.ofNat expiry) (.ofNat interval) = Problem.broken expiry interval := by
  have size := Seconds.size_eq
  have zero : ∀ {n : Nat}, n < 2 ^ 63 → (UInt64.ofNat n = 0 ↔ n = 0) := by
    intro n hn
    rw [← UInt64.toNat_inj, UInt64.toNat_ofNat_of_lt' (by omega), UInt64.toNat_zero]
  have positive : 0 < UInt64.ofNat expiry ↔ 0 < expiry :=
    UInt64.ofNat_lt_iff_lt (by decide) (by omega)
  have tooLong : UInt64.ofNat (2 * expiry) < UInt64.ofNat interval ↔ 2 * expiry < interval :=
    UInt64.ofNat_lt_iff_lt (by omega) (by omega)
  simp only [problemsOf, Seconds.twiceSat_ofNat he, zero he, zero hi, positive, tooLong,
    Problem.broken, Problem.inOrder, List.filter_cons, Problem.isBroken, List.filter_nil,
    decide_eq_true_eq]
  split <;> split <;> split <;> rfl

example : Problem.broken 0 0 = [.zeroDefaultExpiry, .zeroCheckInterval] := by decide

/-! ## Documents -/

namespace Toml

/-- Whether the value is a table. -/
def isTable : Toml → Bool
  | table _ _ => true
  | _ => false

/-- Whether the value is an integer that is not negative. -/
def isNatural : Toml → Bool
  | integer n => 0 ≤ n
  | _ => false

/-- Whether the value is an integer of 32 bits without a sign. -/
def isVersion : Toml → Bool
  | integer n => 0 ≤ n ∧ n ≤ 4294967295
  | _ => false

/-- Whether the value is a truth value. -/
def isFlag : Toml → Bool
  | boolean _ => true
  | _ => false

variable {value : Toml}

theorem isTable_iff : value.isTable = true ↔ ∃ origin inner, value = table origin inner := by
  cases value <;> simp [isTable]

theorem isNatural_iff : value.isNatural = true ↔ ∃ n : Nat, value = integer n := by
  cases value with
  | integer n =>
    simp only [isNatural, decide_eq_true_eq, integer.injEq]
    constructor
    · exact Int.eq_ofNat_of_zero_le
    · rintro ⟨m, rfl⟩
      exact Int.natCast_nonneg m
  | _ => simp [isNatural]

theorem isFlag_iff : value.isFlag = true ↔ ∃ flag, value = boolean flag := by
  cases value <;> simp [isFlag]

theorem isVersion_iff : value.isVersion = true ↔ ∃ n : Nat, n < 2 ^ 32 ∧ value = integer n := by
  cases value with
  | integer n =>
    simp only [isVersion, decide_eq_true_eq, integer.injEq]
    constructor
    · rintro ⟨low, high⟩
      exact ⟨n.toNat, by omega, by omega⟩
    · rintro ⟨m, small, rfl⟩
      omega
  | _ => simp [isVersion]

end Toml

namespace Configuration

open Toml

variable {entries : Entries}

/-- The agent is a table, if the document has one. -/
def AgentIsTable (entries : Entries) : Prop := ∀ value ∈ find? "agent" entries, value.isTable

/-- The entries of the agent, of which there are none if it is missing. -/
def agentEntries (entries : Entries) : Entries :=
  match find? "agent" entries with
  | some (.table _ inner) => inner
  | _ => []

/-- The key is there with a value that is not as expected. -/
def Mistyped (key : String) (expected : Toml → Bool) (entries : Entries) : Prop :=
  ∃ value ∈ find? key entries, ¬expected value

/-- The version is missing, or a value has the wrong type. -/
def Malformed (entries : Entries) : Prop :=
  (¬∃ value ∈ find? "config_version" entries, value.isVersion) ∨
    Mistyped "default_expiry_seconds" isNatural (agentEntries entries) ∨
    Mistyped "check_interval_seconds" isNatural (agentEntries entries) ∨
    Mistyped "verbose" isFlag (agentEntries entries)

instance : Decidable (AgentIsTable entries) :=
  inferInstanceAs (Decidable (∀ value ∈ find? "agent" entries, value.isTable))

instance (key : String) (expected : Toml → Bool) : Decidable (Mistyped key expected entries) :=
  inferInstanceAs (Decidable (∃ value ∈ find? key entries, ¬expected value))

instance : Decidable (Malformed entries) := inferInstanceAs (Decidable (_ ∨ _))

/-- The version and the settings of a document, as numbers. -/
structure Values where
  version : Nat
  expiry : Nat
  interval : Nat
  verbose : Bool

/-- The document gives the values, with the standard in the place of settings that are
missing. -/
structure Gives (entries : Entries) (values : Values) : Prop where
  version_lt : values.version < 2 ^ 32
  version : find? "config_version" entries = some (.integer values.version)
  expiry : (find? "default_expiry_seconds" (agentEntries entries)).getD (.integer 450) =
    .integer values.expiry
  interval : (find? "check_interval_seconds" (agentEntries entries)).getD (.integer 1) =
    .integer values.interval
  verbose : (find? "verbose" (agentEntries entries)).getD (.boolean false) =
    .boolean values.verbose

/-- What comes of values of the right types. -/
def Values.verdict (values : Values) : Except ConfigError Settings :=
  if values.version ≠ 1 then .error (.unsupportedVersion (.ofNat values.version))
  else if Problem.broken values.expiry values.interval ≠ [] then
    .error (.invalid (Problem.broken values.expiry values.interval))
  else .ok ⟨.ofNat values.expiry, .ofNat values.interval, values.verbose⟩

theorem Values.verdict_ne_unparsable (values : Values) :
    values.verdict ≠ .error .unparsable := by
  unfold verdict
  split
  · simp
  · split <;> simp

/-! ## Reading values -/

theorem natural?_eq_some_iff {bound n : Nat} {value : Toml} :
    natural? bound value = some n ↔ value = .integer n ∧ n < bound := by
  cases value <;> simp [natural?]
  omega

theorem seconds?_integer {n : Nat} (h : n < 2 ^ 63) : seconds? (.integer n) = some (.ofNat n) := by
  have natural := natural?_eq_some_iff.2 ⟨rfl, Nat.lt_trans h (by decide : 2 ^ 63 < UInt64.size)⟩
  rw [seconds?, natural]
  rfl

theorem seconds?_eq_none {value : Toml} (h : ¬value.isNatural) : seconds? value = none := by
  rw [seconds?, Option.map_eq_none_iff, Option.eq_none_iff_forall_ne_some]
  intro n natural
  exact h (isNatural_iff.2 ⟨n, (natural?_eq_some_iff.1 natural).1⟩)

theorem flag?_eq_some_iff {value : Toml} {flag : Bool} :
    flag? value = some flag ↔ value = .boolean flag := by
  cases value <;> simp [flag?]

theorem flag?_eq_none {value : Toml} (h : ¬value.isFlag) : flag? value = none := by
  cases value with
  | boolean flag => exact absurd rfl h
  | _ => rfl

section Optional

variable {α : Type} {read : Toml → Option α} {found : Option Toml}

/-- What is read is the value that is there, or the default. -/
theorem optional?_of_getD {default value : Toml} {a d : α} (given : found.getD default = value)
    (reads : read value = some a) (readsDefault : read default = some d) :
    ∃ o, optional? read found = some o ∧ o.getD d = a := by
  subst given
  cases found with
  | none => exact ⟨none, rfl, Option.some.inj (readsDefault.symm.trans reads)⟩
  | some value => exact ⟨some a, congrArg (Option.map some) reads, rfl⟩

theorem optional?_eq_none {value : Toml} (given : found = some value) (fails : read value = none) :
    optional? read found = none := by
  subst given
  exact congrArg (Option.map some) fails

end Optional

theorem agentValues?_of_isTable (agent : AgentIsTable entries) :
    (optional? agentValues? (find? "agent" entries)).map (·.getD (none, none, false)) =
      ofTable? (agentEntries entries) := by
  unfold agentEntries
  cases found : find? "agent" entries with
  | none => rfl
  | some value =>
    obtain ⟨origin, inner, rfl⟩ := isTable_iff.1 (agent value found)
    cases read : ofTable? inner <;> simp [optional?, agentValues?, read]

/-- A document whose agent is a table is read as if the table were always there. -/
theorem ofEntries?_of_isTable (agent : AgentIsTable entries) :
    ofEntries? entries =
      ((find? "config_version" entries).bind (natural? UInt32.size)).bind fun version =>
        (ofTable? (agentEntries entries)).map fun (expiry, interval, verbose) =>
          ⟨UInt32.ofNat version, expiry, interval, verbose⟩ := by
  rw [← agentValues?_of_isTable agent, ofEntries?]
  cases (find? "config_version" entries).bind (natural? UInt32.size) with
  | none => rfl
  | some version => cases optional? agentValues? (find? "agent" entries) <;> rfl

theorem allBounded_agentEntries (bounded : AllBounded entries) :
    AllBounded (agentEntries entries) := by
  unfold agentEntries
  split
  next origin inner found => exact bounded_table_iff.1 (bounded.find? found)
  next => exact allBounded_nil

/-! ## Documents with a key that is missing or of the wrong type -/

theorem ofTable?_of_mistyped
    (h : Mistyped "default_expiry_seconds" isNatural entries ∨
      Mistyped "check_interval_seconds" isNatural entries ∨ Mistyped "verbose" isFlag entries) :
    ofTable? entries = none := by
  obtain ⟨value, found, wrong⟩ | ⟨value, found, wrong⟩ | ⟨value, found, wrong⟩ := h
  · have unread := optional?_eq_none found (seconds?_eq_none wrong)
    simp [ofTable?, unread]
  · have unread := optional?_eq_none found (seconds?_eq_none wrong)
    simp [ofTable?, unread]
  · have unread := optional?_eq_none found (flag?_eq_none wrong)
    simp [ofTable?, unread]

theorem ofEntries?_of_malformed (agent : AgentIsTable entries) (h : Malformed entries) :
    ofEntries? entries = none := by
  rw [ofEntries?_of_isTable agent]
  obtain version | settings := h
  · have unread : (find? "config_version" entries).bind (natural? UInt32.size) = none := by
      rw [Option.eq_none_iff_forall_ne_some]
      intro n read
      obtain ⟨value, found, natural⟩ := Option.bind_eq_some_iff.1 read
      obtain ⟨rfl, small⟩ := natural?_eq_some_iff.1 natural
      exact version ⟨_, found, isVersion_iff.2 ⟨n, small, rfl⟩⟩
    rw [unread]
    rfl
  · rw [ofTable?_of_mistyped settings]
    cases (find? "config_version" entries).bind (natural? UInt32.size) <;> rfl

theorem expected_getD {key : String} {expected : Toml → Bool}
    (h : ¬Mistyped key expected entries) {default : Toml} (hd : expected default) :
    expected ((find? key entries).getD default) := by
  cases found : find? key entries with
  | none => exact hd
  | some value => exact Decidable.byContradiction fun wrong => h ⟨value, found, wrong⟩

/-- A document that is not malformed gives values. -/
theorem exists_gives (h : ¬Malformed entries) : ∃ values, Gives entries values := by
  simp only [Malformed, not_or, Decidable.not_not] at h
  obtain ⟨⟨value, found, isVersion⟩, expiry, interval, verbose⟩ := h
  obtain ⟨version, small, rfl⟩ := isVersion_iff.1 isVersion
  have natural : ∀ n : Nat, isNatural (.integer n) := fun n => isNatural_iff.2 ⟨n, rfl⟩
  obtain ⟨expiry, givesExpiry⟩ := isNatural_iff.1 (expected_getD expiry (natural 450))
  obtain ⟨interval, givesInterval⟩ := isNatural_iff.1 (expected_getD interval (natural 1))
  obtain ⟨verbose, givesVerbose⟩ := isFlag_iff.1 (expected_getD verbose (isFlag_iff.2 ⟨false, rfl⟩))
  exact ⟨⟨version, expiry, interval, verbose⟩, small, found, givesExpiry, givesInterval,
    givesVerbose⟩

/-! ## Documents that give values -/

/-- An integer of a document or a default that is as small. -/
theorem lt_of_getD {found : Option Toml} (bounded : ∀ value, found = some value → value.Bounded)
    {default n : Nat} (small : default < 2 ^ 63)
    (given : found.getD (.integer default) = .integer n) : n < 2 ^ 63 := by
  cases found with
  | none =>
    cases given
    exact small
  | some value =>
    cases given
    cases bounded _ rfl with
    | integer low high => omega

namespace Gives

variable {values : Values}

theorem expiry_lt (h : Gives entries values) (bounded : AllBounded entries) :
    values.expiry < 2 ^ 63 :=
  lt_of_getD (fun _ found => (allBounded_agentEntries bounded).find? found) (by decide) h.expiry

theorem interval_lt (h : Gives entries values) (bounded : AllBounded entries) :
    values.interval < 2 ^ 63 :=
  lt_of_getD (fun _ found => (allBounded_agentEntries bounded).find? found) (by decide) h.interval

/-- The values are read as words. -/
theorem exists_ofEntries? (h : Gives entries values) (agent : AgentIsTable entries)
    (bounded : AllBounded entries) :
    ∃ config, ofEntries? entries = some config ∧ config.version = .ofNat values.version ∧
      config.settings = ⟨.ofNat values.expiry, .ofNat values.interval, values.verbose⟩ := by
  have standardExpiry : Settings.standardExpiry = .ofNat 450 := by decide
  have standardInterval : Settings.standardInterval = .ofNat 1 := rfl
  have version : natural? UInt32.size (.integer values.version) = some values.version :=
    natural?_eq_some_iff.2 ⟨rfl, h.version_lt⟩
  obtain ⟨expiry, readsExpiry, expiry_eq⟩ := optional?_of_getD h.expiry
    (seconds?_integer (h.expiry_lt bounded)) (seconds?_integer (by decide))
  obtain ⟨interval, readsInterval, interval_eq⟩ := optional?_of_getD h.interval
    (seconds?_integer (h.interval_lt bounded)) (seconds?_integer (by decide))
  obtain ⟨verbose, readsVerbose, verbose_eq⟩ := optional?_of_getD h.verbose
    (flag?_eq_some_iff.2 rfl) (flag?_eq_some_iff.2 rfl)
  refine ⟨⟨.ofNat values.version, expiry, interval, verbose.getD false⟩, ?_, rfl, ?_⟩
  · rw [ofEntries?_of_isTable agent, h.version, Option.bind_some, version, ofTable?, readsExpiry,
      readsInterval, readsVerbose]
    rfl
  · rw [settings, standardExpiry, standardInterval, expiry_eq, interval_eq, verbose_eq]

theorem check_eq_verdict (h : Gives entries values) (bounded : AllBounded entries)
    {config : Configuration} (version : config.version = .ofNat values.version)
    (settings : config.settings = ⟨.ofNat values.expiry, .ofNat values.interval, values.verbose⟩) :
    config.check = values.verdict := by
  have problems : config.problems = Problem.broken values.expiry values.interval := by
    show config.settings.problems = _
    rw [settings]
    exact problemsOf_ofNat (h.expiry_lt bounded) (h.interval_lt bounded)
  have current : UInt32.ofNat values.version = currentVersion ↔ values.version = 1 := by
    rw [← UInt32.toNat_inj, UInt32.toNat_ofNat_of_lt' h.version_lt]
    rfl
  simp [check, Values.verdict, problems, settings, version, current]

end Gives

end Configuration

namespace Settings

open AssetWatch.Configuration

variable {text : List Char} {entries : Toml.Entries}

theorem ofText_of_malformed (document : Toml.parse text = some entries)
    (agent : AgentIsTable entries) (h : Malformed entries) :
    ofText text = .error .unparsable := by
  rw [ofText, ofText?, document, Option.bind_some, ofEntries?_of_malformed agent h]

theorem ofText_of_gives (document : Toml.parse text = some entries) (agent : AgentIsTable entries)
    {values : Values} (h : Gives entries values) : ofText text = values.verdict := by
  have bounded := Toml.allBounded_parse document
  obtain ⟨config, read, version, settings⟩ := h.exists_ofEntries? agent bounded
  rw [ofText, ofText?, document, Option.bind_some, read]
  exact h.check_eq_verdict bounded version settings

/-- A document whose agent is a table, if it has one, comes to one of four ends. It is not
understood just when a key is missing or has a value of the wrong type. Otherwise it gives values,
and they decide: about the version first, whatever the others are, then about the rules, of which
all that are broken are listed in their order; if there are none, the values are the settings. No
expiry that a document can give has an alert window that does not fit into a word. -/
theorem ofText_decides (document : Toml.parse text = some entries) (agent : AgentIsTable entries) :
    (ofText text = .error .unparsable ↔ Malformed entries) ∧
      (Malformed entries ∨ ∃ values, Gives entries values) ∧
      ∀ values, Gives entries values → ofText text = values.verdict ∧
        values.expiry < 2 ^ 63 ∧ values.interval < 2 ^ 63 ∧
        (Seconds.twiceSat (.ofNat values.expiry)).toNat = 2 * values.expiry := by
  refine ⟨⟨?_, ofText_of_malformed document agent⟩, ?_, ?_⟩
  · intro unparsable
    refine Decidable.byContradiction fun wellFormed => ?_
    obtain ⟨values, gives⟩ := exists_gives wellFormed
    have decided := ofText_of_gives document agent gives
    exact values.verdict_ne_unparsable (decided.symm.trans unparsable)
  · exact (Decidable.em _).imp_right exists_gives
  · intro values gives
    have bounded := Toml.allBounded_parse document
    have small := gives.expiry_lt bounded
    refine ⟨ofText_of_gives document agent gives, small, gives.interval_lt bounded, ?_⟩
    rw [Seconds.twiceSat_ofNat small, UInt64.toNat_ofNat_of_lt' (by rw [Seconds.size_eq]; omega)]

/-- A document with keys that are not known and an interval that its alert window does not
allow. -/
def hastyDocument : List Char :=
  ("config_version = 1\nowner = 'night shift'\n[agent]\ndefault_expiry_seconds = 10\n"
    ++ "check_interval_seconds = 0x1e\nretries = [1, 2]\n").toList

theorem hasty_document_is_invalid :
    ∃ entries, Toml.parse hastyDocument = some entries ∧ AgentIsTable entries ∧
      Gives entries ⟨1, 10, 30, false⟩ ∧
      ofText hastyDocument = .error (.invalid [.checkIntervalTooLong 30 20]) := by
  have isDocument : (Toml.parse hastyDocument).isSome = true := by decide +kernel
  obtain ⟨entries, document⟩ := Option.isSome_iff_exists.1 isDocument
  -- Values cannot be compared, but what is read of them can.
  have said : ∀ entries ∈ Toml.parse hastyDocument, AgentIsTable entries ∧
      (Toml.find? "config_version" entries).bind (natural? (2 ^ 32)) = some 1 ∧
      natural? (2 ^ 63) ((Toml.find? "default_expiry_seconds" (agentEntries entries)).getD
        (.integer 450)) = some 10 ∧
      natural? (2 ^ 63) ((Toml.find? "check_interval_seconds" (agentEntries entries)).getD
        (.integer 1)) = some 30 ∧
      flag? ((Toml.find? "verbose" (agentEntries entries)).getD (.boolean false)) =
        some false := by decide +kernel
  obtain ⟨agent, version, expiry, interval, verbose⟩ := said entries document
  obtain ⟨value, found, one⟩ := Option.bind_eq_some_iff.1 version
  obtain ⟨rfl, small⟩ := natural?_eq_some_iff.1 one
  have gives : Gives entries ⟨1, 10, 30, false⟩ := ⟨small, found,
    (natural?_eq_some_iff.1 expiry).1, (natural?_eq_some_iff.1 interval).1,
    flag?_eq_some_iff.1 verbose⟩
  obtain ⟨-, -, decides⟩ := ofText_decides document agent
  exact ⟨entries, document, agent, gives, (decides _ gives).1⟩

end Settings

end AssetWatch
