import AssetWatch.CommandLine

/-!
# What a command line gives

Where the value of an option comes from. On a line that is understood, every argument says by
itself which options it gives: no value begins with a hyphen that another character follows.
So the value of an option is found without regard to what stands before it (`given?`), and
that is the value the agent goes by (`Slot.kept_takeAll`).
-/

namespace AssetWatch

theorem exists_of_bind_eq_ok {ε α β : Type} {step : Except ε α} {next : α → Except ε β} {b : β}
    (h : step >>= next = .ok b) : ∃ a, step = .ok a ∧ next a = .ok b := by
  cases step with
  | error error => cases h
  | ok a => exact ⟨a, rfl, h⟩

namespace CommandLine

/-- The value that is attached to an option, if there is one. An equals sign in front of it is
no part of it. -/
def attached? : List Char → Option String
  | [] => none
  | '=' :: value => some (String.ofList value)
  | value => some (String.ofList value)

/-- What letters say about an option that takes a value. The verbosity may stand before it. -/
def inLetters? (switch : Switch) (letters : List Char) : Option (Option String) :=
  match letters.dropWhile (· = 'v') with
  | letter :: rest => if Switch.ofShort? letter = some switch then some (attached? rest) else none
  | [] => none

/-- What a long form says about an option that takes a value. -/
def inLong? (switch : Switch) (long : List Char) : Option (Option String) :=
  if Switch.ofLong? (String.ofList (long.takeWhile (· ≠ '='))) = some switch then
    some (attached? (long.dropWhile (· ≠ '=')))
  else none

/-- What an argument says about an option that takes a value: nothing, or the value, if it is
attached. -/
def said? (switch : Switch) (argument : String) : Option (Option String) :=
  match argument.toList with
  | '-' :: '-' :: long => inLong? switch long
  | '-' :: letters => inLetters? switch letters
  | _ => none

theorem said?_of_short (switch : Switch) {argument : String} {letter : Char} {letters : List Char}
    (characters : argument.toList = '-' :: letter :: letters) (short : letter ≠ '-') :
    said? switch argument = inLetters? switch (letter :: letters) := by
  rw [said?, characters]
  split
  next same => exact absurd (List.cons.inj (List.cons.inj same).2).1 short
  next same => rw [(List.cons.inj same).2]
  next notShort => exact absurd rfl (notShort _)

theorem said?_of_plain (switch : Switch) {argument : String}
    (plain : ∀ letter letters, argument.toList ≠ '-' :: letter :: letters) :
    said? switch argument = none := by
  rw [said?]
  split
  next long characters => exact absurd characters (plain _ _)
  next letters _ characters =>
    cases letters with
    | nil => rfl
    | cons letter letters => exact absurd characters (plain letter letters)
  next => rfl

/-- The value that a line gives to an option. If it is not attached, it is the next argument. -/
def given? (switch : Switch) : List String → Option String
  | [] => none
  | argument :: rest => (said? switch argument).elim (given? switch rest) (·.or rest.head?)

namespace Draft

variable {draft after : Draft}

theorem exists_of_take {switch : Switch} {value : Option String}
    (h : draft.take switch value = .ok after) :
    ∃ settled, draft.settle = .ok settled ∧ settled.record switch value = .ok after :=
  exists_of_bind_eq_ok h

theorem exists_of_await {switch : Switch} (h : draft.await switch = .ok after) :
    ∃ settled, draft.settle = .ok settled ∧
      { settled with pending := some (switch, none) } = after := by
  obtain ⟨settled, settles, rest⟩ := exists_of_bind_eq_ok h
  exact ⟨settled, settles, Except.ok.inj rest⟩

theorem of_once {given : Bool} {next : Unit → Except ArgumentError Draft}
    (h : once given >>= next = .ok after) : given = false ∧ next () = .ok after := by
  cases given with
  | true => cases h
  | false => exact ⟨rfl, h⟩

/-- Takes an option that takes a value, whether or not the value is attached. -/
def takeValued (draft : Draft) (switch : Switch) : Option String → Except ArgumentError Draft
  | some value => draft.take switch (some value)
  | none => draft.await switch

theorem takeLong_eq (draft : Draft) (long : List Char) :
    draft.takeLong long =
      match Switch.ofLong? (String.ofList (long.takeWhile (· ≠ '='))) with
      | none => .error .unknown
      | some switch =>
        let value := attached? (long.dropWhile (· ≠ '='))
        if switch.takesValue then draft.takeValued switch value
        else if value.isSome then .error .unwantedValue
        else draft.take switch none := by
  rw [takeLong]
  cases rest : long.dropWhile (· ≠ '=') with
  | nil => rfl
  | cons sign value =>
    have found := List.head?_dropWhile_not (· ≠ '=') long
    rw [rest] at found
    obtain rfl : sign = '=' := by simpa using found
    rfl

theorem takeShort_cons (draft : Draft) (letter : Char) (rest : List Char) :
    draft.takeShort (letter :: rest) =
      match Switch.ofShort? letter with
      | none => .error .unknown
      | some switch =>
        if switch.takesValue then draft.takeValued switch (attached? rest)
        else draft.take switch none >>= fun draft => draft.takeShort rest := by
  rw [takeShort]
  cases Switch.ofShort? letter with
  | none => rfl
  | some switch =>
    cases rest with
    | nil => rfl
    | cons first rest =>
      by_cases sign : first = '='
      · subst sign
        rfl
      · simp [attached?, sign, takeValued]

/-- What recording an option with its value leads to: the option is given for the first time,
and nothing else changes. -/
inductive Recorded (draft : Draft) : Switch → Option String → Draft → Prop
  | config {text : String} (fresh : draft.config = none) (full : text.isEmpty = false) :
    Recorded draft .config (some text) { draft with config := some text }
  | defaultExpiry {text : String} {seconds : Seconds} (fresh : draft.defaultExpiry = none)
      (read : Seconds.ofText? text = some seconds) :
    Recorded draft .defaultExpiry (some text) { draft with defaultExpiry := some seconds }
  | verbose {value : Option String} (fresh : draft.verbose = false) :
    Recorded draft .verbose value { draft with verbose := true }
  | logLevel {text : String} (fresh : draft.logLevel = none) :
    Recorded draft .logLevel (some text) { draft with logLevel := some text }

theorem recorded_of_record {switch : Switch} {value : Option String}
    (h : draft.record switch value = .ok after) : Recorded draft switch value after := by
  cases switch with
  | help => cases value <;> cases h
  | verbose =>
    have h : (once draft.verbose >>= fun _ => pure { draft with verbose := true }) = .ok after := by
      cases value <;> exact h
    obtain ⟨fresh, same⟩ := of_once h
    exact Except.ok.inj same ▸ .verbose fresh
  | config =>
    cases value with
    | none => cases h
    | some text =>
      obtain ⟨fresh, same⟩ := of_once h
      cases full : text.isEmpty with
      | true => simp [full] at same
      | false =>
        simp only [full, Bool.false_eq_true, if_false] at same
        exact Except.ok.inj same ▸ .config (by simpa using fresh) full
  | defaultExpiry =>
    cases value with
    | none => cases h
    | some text =>
      obtain ⟨fresh, same⟩ := of_once h
      cases read : Seconds.ofText? text with
      | none => simp [read] at same
      | some seconds =>
        simp only [read] at same
        exact Except.ok.inj same ▸ .defaultExpiry (by simpa using fresh) read
  | logLevel =>
    cases value with
    | none => cases h
    | some text =>
      obtain ⟨fresh, same⟩ := of_once h
      exact Except.ok.inj same ▸ .logLevel (by simpa using fresh)

/-- The verbosity is the only option without a value that does not end the reading. -/
theorem eq_v_of_take {letter : Char} {switch : Switch}
    (known : Switch.ofShort? letter = some switch) (without : ¬switch.takesValue = true)
    (h : draft.take switch none = .ok after) : letter = 'v' := by
  obtain ⟨settled, -, records⟩ := exists_of_take h
  cases recorded_of_record records
  grind [Switch.ofShort?]

theorem Recorded.pending {switch : Switch} {value : Option String}
    (h : Recorded draft switch value after) : after.pending = draft.pending := by
  cases h <;> rfl

end Draft

/-- An option that takes a value, with the place where a draft keeps the value. Recording the
option fills the place, which was empty, and no other option touches it. -/
structure Slot (α : Type) where
  switch : Switch
  /-- What a text stands for. -/
  read? : String → Option α
  kept : Draft → Option α
  takesValue : switch.takesValue = true
  kept_empty : kept {} = none
  kept_pending : ∀ draft pending, kept { draft with pending := pending } = kept draft
  kept_recorded : ∀ {draft value after}, draft.Recorded switch value after →
    kept draft = none ∧ ∃ text, value = some text ∧ (kept after).map some = some (read? text)
  kept_other : ∀ {draft other value after}, other ≠ switch → draft.Recorded other value after →
    kept after = kept draft

namespace Slot

/-- The slot of the configuration file, whose path is not empty. -/
def config : Slot String where
  switch := .config
  read? text := if text.isEmpty then none else some text
  kept := Draft.config
  takesValue := rfl
  kept_empty := rfl
  kept_pending _ _ := rfl
  kept_recorded h := by
    cases h with
    | config fresh full => exact ⟨fresh, _, rfl, by simp [full]⟩
  kept_other different h := by
    cases h with
    | config => exact absurd rfl different
    | _ => rfl

/-- The slot of the default expiry. -/
def defaultExpiry : Slot Seconds where
  switch := .defaultExpiry
  read? := Seconds.ofText?
  kept := Draft.defaultExpiry
  takesValue := rfl
  kept_empty := rfl
  kept_pending _ _ := rfl
  kept_recorded h := by
    cases h with
    | defaultExpiry fresh read => exact ⟨fresh, _, rfl, by simp [read]⟩
  kept_other different h := by
    cases h with
    | defaultExpiry => exact absurd rfl different
    | _ => rfl

variable {α : Type} (slot : Slot α) {draft after : Draft}

/-- The value that a draft and the rest of the line lead to: the one that is kept, or else the
one of the option that is pending, or else the one that the rest gives. A pending option may
wait for the next argument. -/
def due (draft : Draft) (next given : Option String) : Option (Option α) :=
  ((slot.kept draft).map some).or <| Option.map slot.read? <|
    match draft.pending with
    | some (switch, value) => if switch = slot.switch then value.or next else given
    | none => given

theorem due_of_settled (h : draft.pending = none) (next given : Option String) :
    slot.due draft next given = ((slot.kept draft).map some).or (given.map slot.read?) := by
  rw [due, h]

/-- Settling the last option leads to the same value, and nothing waits any more. -/
theorem settle_due (h : draft.settle = .ok after) :
    after.pending = none ∧
      ∀ next next' given, slot.due after next' given = slot.due draft next given := by
  rw [Draft.settle] at h
  cases waits : draft.pending with
  | none =>
    rw [waits] at h
    cases h
    exact ⟨waits, fun _ _ _ => by rw [slot.due_of_settled waits, slot.due_of_settled waits]⟩
  | some waiting =>
    obtain ⟨switch, value⟩ := waiting
    rw [waits] at h
    have recorded := Draft.recorded_of_record h
    have settled : after.pending = none := recorded.pending
    refine ⟨settled, fun next next' given => ?_⟩
    rw [slot.due_of_settled settled, due, waits]
    by_cases own : switch = slot.switch
    · subst own
      obtain ⟨fresh, text, rfl, kept⟩ := slot.kept_recorded recorded
      rw [slot.kept_pending] at fresh
      simp [fresh, kept]
    · rw [slot.kept_other own recorded, slot.kept_pending]
      simp [own]

theorem take_due {switch : Switch} {value : Option String}
    (h : draft.take switch value = .ok after) :
    after.pending = none ∧ ∀ next next' given,
      slot.due after next' given =
        slot.due draft next (if switch = slot.switch then value else given) := by
  obtain ⟨settled, settles, records⟩ := Draft.exists_of_take h
  obtain ⟨calm, same⟩ := slot.settle_due settles
  have recorded := Draft.recorded_of_record records
  have calmAfter : after.pending = none := recorded.pending.trans calm
  refine ⟨calmAfter, fun next next' given => ?_⟩
  rw [← same next next, slot.due_of_settled calm, slot.due_of_settled calmAfter]
  by_cases own : switch = slot.switch
  · subst own
    obtain ⟨fresh, text, rfl, kept⟩ := slot.kept_recorded recorded
    simp [fresh, kept]
  · rw [slot.kept_other own recorded, if_neg own]

theorem await_due {switch : Switch} (h : draft.await switch = .ok after)
    (next next' given : Option String) :
    slot.due after next' given =
      slot.due draft next (if switch = slot.switch then next' else given) := by
  obtain ⟨settled, settles, rfl⟩ := Draft.exists_of_await h
  obtain ⟨calm, same⟩ := slot.settle_due settles
  rw [← same next next, slot.due_of_settled calm, due, slot.kept_pending]
  simp

theorem takeValued_due {switch : Switch} {value : Option String}
    (h : draft.takeValued switch value = .ok after) (next next' given : Option String) :
    slot.due after next' given =
      slot.due draft next (if switch = slot.switch then value.or next' else given) := by
  cases value with
  | none => exact slot.await_due h next next' given
  | some value => exact (slot.take_due h).2 next next' given

theorem takeLong_due {long : List Char} (h : draft.takeLong long = .ok after)
    (next next' given : Option String) :
    slot.due after next' given =
      slot.due draft next ((inLong? slot.switch long).elim given (·.or next')) := by
  rw [Draft.takeLong_eq] at h
  rw [inLong?]
  cases known : Switch.ofLong? (String.ofList (long.takeWhile (· ≠ '='))) with
  | none =>
    rw [known] at h
    cases h
  | some switch =>
    simp only [known] at h
    split at h
    next =>
      rw [slot.takeValued_due h next]
      by_cases own : switch = slot.switch <;> simp [own]
    next without =>
      have other : switch ≠ slot.switch := fun own => without (own ▸ slot.takesValue)
      split at h
      next => cases h
      next => simpa [other] using (slot.take_due h).2 next next' given

theorem takeShort_due {letters : List Char} (h : draft.takeShort letters = .ok after)
    (begun : letters = [] → draft.pending = none) (next next' given : Option String) :
    slot.due after next' given =
      slot.due draft next ((inLetters? slot.switch letters).elim given (·.or next')) := by
  -- Letters are left over only behind one that has been taken, and then nothing waits.
  induction letters generalizing draft next with
  | nil =>
    cases h
    rw [slot.due_of_settled (begun rfl), slot.due_of_settled (begun rfl)]
    rfl
  | cons letter rest ih =>
    rw [Draft.takeShort_cons] at h
    cases known : Switch.ofShort? letter with
    | none =>
      rw [known] at h
      cases h
    | some switch =>
      simp only [known] at h
      split at h
      next takes =>
        have notVerbose : letter ≠ 'v' := by
          rintro rfl
          cases known
          cases takes
        rw [slot.takeValued_due h next, inLetters?]
        by_cases own : switch = slot.switch <;> simp [own, notVerbose, known]
      next without =>
        obtain ⟨middle, takes, goes⟩ := exists_of_bind_eq_ok h
        obtain rfl := Draft.eq_v_of_take known without takes
        obtain ⟨calm, same⟩ := slot.take_due takes
        have other : switch ≠ slot.switch := fun own => without (own ▸ slot.takesValue)
        rw [ih goes (fun _ => calm) next, same, if_neg other]
        rfl

theorem takeValue_due {argument : String} (h : draft.takeValue argument = .ok after)
    (next' given : Option String) :
    slot.due after next' given = slot.due draft (some argument) given := by
  rw [Draft.takeValue] at h
  split at h
  next switch waits =>
    cases h
    simp [due, waits, slot.kept_pending]
  next => cases h

/-- What an argument adds to a draft it says by itself. -/
theorem takeArgument_due {argument : String} (h : draft.takeArgument argument = .ok after)
    (rest : List String) :
    slot.due after rest.head? (given? slot.switch rest) =
      slot.due draft (some argument) (given? slot.switch (argument :: rest)) := by
  rw [given?]
  rw [Draft.takeArgument] at h
  split at h
  next long characters =>
    rw [said?, characters]
    exact slot.takeLong_due h _ _ _
  next letter letters short characters =>
    rw [said?_of_short slot.switch characters short]
    exact slot.takeShort_due h (fun empty => absurd empty (List.cons_ne_nil _ _)) _ _ _
  next notLong notShort =>
    rw [said?_of_plain slot.switch notShort]
    exact slot.takeValue_due h _ _

/-- On a line that is understood a draft comes to hold the value that is due. -/
theorem takeAll_due {line : List String} (h : draft.takeAll line = .ok after) :
    (slot.kept after).map some = slot.due draft line.head? (given? slot.switch line) := by
  have ends : ∀ {draft : Draft} {next : Option String}, draft.settle = .ok after →
      (slot.kept after).map some = slot.due draft next none := by
    intro draft next settles
    obtain ⟨calm, same⟩ := slot.settle_due settles
    rw [← same next next, slot.due_of_settled calm]
    simp
  -- What is due stays the same from argument to argument; at the end it is what is kept.
  induction line generalizing draft with
  | nil => exact ends h
  | cons argument rest ih =>
    rw [Draft.takeAll] at h
    split at h
    next hyphens =>
      subst hyphens
      cases rest with
      | nil => exact ends h
      | cons => cases h
    next =>
      obtain ⟨middle, takes, goes⟩ := exists_of_bind_eq_ok h
      rw [ih goes, slot.takeArgument_due takes]
      rfl

/-- On a line that is understood the value of an option is the one that the line gives, and it
is well-formed. -/
theorem kept_takeAll {line : List String} (h : Draft.takeAll {} line = .ok after) :
    (slot.kept after).map some = (given? slot.switch line).map slot.read? := by
  rw [slot.takeAll_due h, due, slot.kept_empty]
  rfl

example : given? .defaultExpiry ["--config", "agent.toml", "-vd=60"] = some "60" := by decide

end Slot

end CommandLine

namespace Arguments

open CommandLine

/-- Where a default expiry comes from: the line, or else the variable, or else nowhere. A value
that is given has to be a number of seconds. -/
inductive ExpiryFrom (line : List String) (environment : Environment) : Option Seconds → Prop
  | option {text : String} {seconds : Seconds} (given : given? .defaultExpiry line = some text)
      (read : Seconds.ofText? text = some seconds) : ExpiryFrom line environment (some seconds)
  | variable {bytes : List UInt8} {text : String} {seconds : Seconds}
      (notGiven : given? .defaultExpiry line = none)
      (set : environment.bytes? expiryVariable = some bytes)
      (decoded : Text.Utf8.text? bytes = some text)
      (read : Seconds.ofText? text = some seconds) : ExpiryFrom line environment (some seconds)
  | nowhere (notGiven : given? .defaultExpiry line = none)
      (unset : environment.bytes? expiryVariable = none) : ExpiryFrom line environment none

variable {line : List String} {environment : Environment}

theorem expiryFrom_of_eq_ok {expiry : Option Seconds}
    (notGiven : given? .defaultExpiry line = none) (h : expiryFrom environment = .ok expiry) :
    ExpiryFrom line environment expiry := by
  rw [expiryFrom] at h
  cases set : environment.bytes? expiryVariable with
  | none =>
    rw [set] at h
    cases h
    exact .nowhere notGiven set
  | some bytes =>
    cases decoded : Text.Utf8.text? bytes with
    | none => simp [set, decoded] at h
    | some text =>
      cases read : Seconds.ofText? text with
      | none => simp [set, decoded, read] at h
      | some seconds =>
        simp only [set, decoded, read] at h
        cases h
        exact .variable notGiven set decoded read

theorem config_of_takeAll {draft : Draft} (h : Draft.takeAll {} line = .ok draft) :
    draft.config = given? .config line := by
  have kept : (given? .config line).map (fun path => if path.isEmpty then none else some path) =
      draft.config.map some := (Slot.config.kept_takeAll h).symm
  cases held : draft.config with
  | none =>
    rw [held, Option.map_none, Option.map_eq_none_iff] at kept
    exact kept.symm
  | some path =>
    rw [held, Option.map_some, Option.map_eq_some_iff] at kept
    obtain ⟨text, given, read⟩ := kept
    split at read
    next => cases read
    next => rw [given, read]

/-- The arguments of a command line that is understood have their values from the line, and the
expiry may have its value from the environment. -/
theorem given_of_parse {arguments : Arguments} (h : parse line environment = .ok arguments) :
    arguments.config = given? .config line ∧
      ExpiryFrom line environment arguments.defaultExpiry := by
  obtain ⟨draft, takes, rest⟩ := exists_of_bind_eq_ok h
  have config := config_of_takeAll takes
  have kept : (given? .defaultExpiry line).map Seconds.ofText? = draft.defaultExpiry.map some :=
    (Slot.defaultExpiry.kept_takeAll takes).symm
  cases held : draft.defaultExpiry with
  | some seconds =>
    simp only [held] at rest
    cases rest
    rw [held, Option.map_some, Option.map_eq_some_iff] at kept
    obtain ⟨text, given, read⟩ := kept
    exact ⟨config, .option given read⟩
  | none =>
    simp only [held] at rest
    obtain ⟨expiry, found, same⟩ := exists_of_bind_eq_ok rest
    cases same
    rw [held, Option.map_none, Option.map_eq_none_iff] at kept
    exact ⟨config, expiryFrom_of_eq_ok kept found⟩

end Arguments

end AssetWatch
