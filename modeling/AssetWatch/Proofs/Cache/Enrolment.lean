import AssetWatch.Proofs.Cache.History

/-!
# What begins and what ends a watch

A command can remove an asset or enrol it. An asset that is not watched stays so until a command
enrols it (`Scene.record?_step_of_absent`), and one that is watched keeps its record until a
command removes it (`Scene.record?_step_of_kept`). So every record holds a notice that could
enrol its asset (`sound_run`).
-/

namespace AssetWatch

/-- A notice that puts the asset on watch. -/
structure AssetNotice.Enrols (name : AssetName) (notice : AssetNotice) : Prop where
  name : notice.name = name
  kept : notice.isRemoval = false
  kind : notice.isTrackedKind = true

namespace Cache

/-- Whether a command removes the asset, be it watched or not. -/
def Command.removes (name : AssetName) : Command → Bool
  | .put (.asset notice) => notice.name = name && notice.isRemoval
  | .delete other => other = name
  | _ => false

/-- Whether a command announces the asset as one to be watched and does not remove it. -/
def Command.enrols (name : AssetName) : Command → Bool
  | .put (.asset notice) => notice.name = name && !notice.isRemoval && notice.isTrackedKind
  | _ => false

variable {name : AssetName}

theorem removes_moment (scene : Scene) (command : Command) :
    (scene.moment command).removes name = command.removes name := by
  cases command with
  | put event => cases event <;> rfl
  | _ => rfl

/-- What a moment begins was announced by a notice. -/
theorem exists_notice_of_begins? {moment : Moment} {record : Record}
    (begun : moment.begins? name = some record) :
    ∃ notice, moment.command = .put (.asset notice) ∧ notice.name = name ∧
      notice.isTrackedKind = true ∧ record = Record.begun moment.expiry moment.now notice := by
  unfold Moment.begins? at begun
  split at begun
  next notice command =>
    split at begun
    next announced =>
      cases begun
      exact ⟨notice, command, announced.1, announced.2, rfl⟩
    · cases begun
  · cases begun

/-! ## The record of an asset after a command -/

theorem Scene.record?_step_of_removes {command : Command}
    (removes : command.removes name = true) (scene : Scene) :
    (scene.step command).cache.record? name = none := by
  rw [record?_step, removes_moment, if_pos removes]

theorem Scene.record?_step_of_kept {scene : Scene} {command : Command} {record : Record}
    (kept : command.removes name = false) (found : scene.cache.record? name = some record) :
    (scene.step command).cache.record? name =
      some ((scene.moment command).amend name record) := by
  rw [record?_step, removes_moment, kept, if_neg Bool.false_ne_true, found]
  rfl

/-- A record that is found after a command was there before, or the command has begun it. -/
theorem Scene.exists_of_record?_step {scene : Scene} {command : Command} {record : Record}
    (found : (scene.step command).cache.record? name = some record) :
    (∃ before, scene.cache.record? name = some before ∧
        record = (scene.moment command).amend name before) ∨
      scene.cache.record? name = none ∧ ∃ notice, command = .put (.asset notice) ∧
        notice.Enrols name ∧ record = Record.begun scene.cache.defaultExpiry scene.now notice := by
  cases removes : command.removes name with
  | true =>
    rw [record?_step_of_removes removes] at found
    cases found
  | false =>
    rw [record?_step, removes_moment, removes, if_neg Bool.false_ne_true] at found
    cases known : scene.cache.record? name with
    | some before =>
      rw [known] at found
      exact .inl ⟨before, rfl, (Option.some_inj.1 found).symm⟩
    | none =>
      rw [known] at found
      obtain ⟨notice, told, same, kind, begun⟩ := exists_notice_of_begins? found
      obtain rfl : command = .put (.asset notice) := told
      -- the command does not remove the asset, so neither does its notice
      have kept : notice.isRemoval = false := by simpa [Command.removes, same] using removes
      exact .inr ⟨rfl, notice, rfl, ⟨same, kept, kind⟩, begun⟩

theorem enrols_of_notice {notice : AssetNotice} (enrols : notice.Enrols name) :
    Command.enrols name (.put (.asset notice)) = true := by
  simp [Command.enrols, enrols.name, enrols.kept, enrols.kind]

theorem Scene.record?_step_of_absent {scene : Scene} {command : Command}
    (absent : scene.cache.record? name = none) (idle : command.enrols name = false) :
    (scene.step command).cache.record? name = none := by
  by_contra present
  obtain ⟨record, found⟩ := Option.ne_none_iff_exists'.1 present
  rcases Scene.exists_of_record?_step found with ⟨before, known, -⟩ | ⟨-, notice, rfl, enrols, -⟩
  · rw [absent] at known
    cases known
  · rw [enrols_of_notice enrols] at idle
    cases idle

/-! ## Sound caches -/

/-- Every record holds a notice that puts its asset on watch. -/
def Sound (cache : Cache) : Prop :=
  ∀ name record, cache.record? name = some record → record.snapshot.Enrols name

theorem sound_new : Sound new := by
  intro name record found
  cases found

theorem Scene.sound_step {scene : Scene} (sound : Sound scene.cache) (command : Command) :
    Sound (scene.step command).cache := by
  intro name record found
  rcases Scene.exists_of_record?_step found with
    ⟨before, known, rfl⟩ | ⟨-, notice, -, enrols, rfl⟩
  · exact sound name before known
  · exact enrols

theorem sound_run (clock : Clock) (commands : List Command) :
    Sound (run clock commands).cache := by
  apply List.foldlRecOn (motive := fun scene : Scene => Sound scene.cache)
  · exact sound_new
  · intro scene sound command _
    exact Scene.sound_step sound command

end Cache

end AssetWatch
