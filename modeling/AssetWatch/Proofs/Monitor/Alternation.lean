import AssetWatch.Proofs.Monitor.Tick
import Mathlib.Data.List.Induction

/-!
# Raised and resolved in turn

About one asset, transitions alternate: an outage is raised, resolved, raised again, and so on.
`Alternating.append` says that a tick goes on with the alternation, if an outage of the asset
is active just when the last transition about it has raised one.
-/

namespace AssetWatch

/-- Whether the transition raises an outage. -/
def Transition.isRaised : Transition → Bool
  | raised _ _ => true
  | resolved _ => false

namespace Monitor

/-- The transitions about one asset. -/
def about (name : AssetName) (transitions : List Transition) : List Transition :=
  transitions.filter fun transition => transition.asset = name

/-- Raised and resolved in turn, beginning with raised. -/
def Alternating (transitions : List Transition) : Prop :=
  ∀ (i : Nat) (transition : Transition), transitions[i]? = some transition →
    (transition.isRaised = true ↔ i % 2 = 0)

/-- Whether an outage is open when all has been told: the last transition has raised one. -/
def EndsRaised (transitions : List Transition) : Prop :=
  ∃ transition, transitions.getLast? = some transition ∧ transition.isRaised = true

theorem about_append (name : AssetName) (transitions more : List Transition) :
    about name (transitions ++ more) = about name transitions ++ about name more :=
  List.filter_append ..

theorem alternating_nil : Alternating [] := by
  intro i transition found
  cases found

theorem not_endsRaised_nil : ¬EndsRaised [] := by
  rintro ⟨transition, found, -⟩
  cases found

theorem endsRaised_concat {transitions : List Transition} {transition : Transition} :
    EndsRaised (transitions ++ [transition]) ↔ transition.isRaised = true := by
  simp [EndsRaised]

/-- The last of alternating transitions has raised an outage just when their number is odd. -/
theorem Alternating.endsRaised_iff {transitions : List Transition} (h : Alternating transitions) :
    EndsRaised transitions ↔ transitions.length % 2 = 1 := by
  cases transitions using List.reverseRecOn with
  | nil => exact iff_of_false not_endsRaised_nil (by decide)
  | append_singleton transitions last =>
    have turn := h transitions.length last (by simp)
    rw [endsRaised_concat, turn, List.length_append, List.length_singleton]
    omega

theorem Alternating.concat {transitions : List Transition} (h : Alternating transitions)
    {transition : Transition}
    (turn : transition.isRaised = true ↔ ¬EndsRaised transitions) :
    Alternating (transitions ++ [transition]) := by
  rw [h.endsRaised_iff] at turn
  intro i other found
  rw [List.getElem?_append] at found
  split at found
  next earlier => exact h i other found
  next late =>
    obtain ⟨last, rfl⟩ : i - transitions.length = 0 ∧ transition = other := by
      simpa [List.getElem?_singleton] using found
    have place : i = transitions.length := by omega
    rw [turn, place]
    omega

/-! ## What a tick adds -/

variable {before now : AssetName → Prop} {expiration? : AssetName → Option Seconds}
  {transitions : List Transition}

/-- A tick tells at most one transition of each asset. -/
theorem Tells.nodup_assets (h : Tells before now expiration? transitions) :
    (transitions.map Transition.asset).Nodup := by
  obtain ⟨past, begun, rfl, ascendingPast, memPast, ascendingBegun, memBegun⟩ := h
  have assets : (past.map Transition.resolved ++
      begun.map fun outage => Transition.raised outage.1 outage.2).map Transition.asset =
        past ++ begun.map (·.1) := by
    simp [Function.comp_def, Transition.asset]
  rw [assets]
  refine ascendingPast.nodup.append ascendingBegun.nodup fun name old new => ?_
  obtain ⟨outage, member, rfl⟩ := List.mem_map.1 new
  exact ((memPast _).1 old).2 ((memBegun _ _).1 member).1

theorem about_eq_singleton (h : (transitions.map Transition.asset).Nodup)
    {transition : Transition} (member : transition ∈ transitions) :
    about transition.asset transitions = [transition] := by
  induction transitions with
  | nil => cases member
  | cons first rest ih =>
    obtain ⟨once, distinct⟩ := List.nodup_cons.1 h
    rcases List.mem_cons.1 member with rfl | later
    · have none : about transition.asset rest = [] := by
        refine List.filter_eq_nil_iff.2 fun other more same => once ?_
        exact List.mem_map.2 ⟨other, more, of_decide_eq_true same⟩
      rw [about, List.filter_cons_of_pos (by simp)]
      exact congrArg _ none
    · have apart : first.asset ≠ transition.asset := fun same =>
        once (List.mem_map.2 ⟨transition, later, same.symm⟩)
      rw [about, List.filter_cons_of_neg (by simp [apart])]
      exact ih distinct later

theorem Tells.about_eq_nil (h : Tells before now expiration? transitions) {name : AssetName}
    (same : before name ↔ now name) : about name transitions = [] := by
  refine List.filter_eq_nil_iff.2 fun transition member about => ?_
  have about : transition.asset = name := of_decide_eq_true about
  cases transition with
  | raised asset instant =>
    cases about
    obtain ⟨is, fresh, -⟩ := h.mem_raised.1 member
    exact fresh (same.2 is)
  | resolved asset =>
    cases about
    obtain ⟨was, gone⟩ := h.mem_resolved.1 member
    exact gone (same.1 was)

theorem Tells.about_resolved (h : Tells before now expiration? transitions) {name : AssetName}
    (was : before name) (gone : ¬now name) : about name transitions = [.resolved name] :=
  about_eq_singleton h.nodup_assets (h.mem_resolved.2 ⟨was, gone⟩)

theorem Tells.about_raised (h : Tells before now expiration? transitions) {name : AssetName}
    {instant : Seconds} (is : now name) (fresh : ¬before name)
    (known : expiration? name = some instant) :
    about name transitions = [.raised name instant] :=
  about_eq_singleton h.nodup_assets (h.mem_raised.2 ⟨is, fresh, known⟩)

/-- Of an asset that is not expired a tick tells at most that its outage is over. -/
theorem Tells.about_of_alive (h : Tells before now expiration? transitions) {name : AssetName}
    [Decidable (before name)] (alive : ¬now name) :
    about name transitions = if before name then [.resolved name] else [] := by
  split
  next was => exact h.about_resolved was alive
  next fresh => exact h.about_eq_nil (iff_of_false fresh alive)

/-- A tick goes on with the alternation, and the outage of an asset is open afterwards just
when the asset is expired. -/
theorem Alternating.append {told : List Transition} (h : Alternating told) {name : AssetName}
    (isOpen : EndsRaised told ↔ before name) (tells : Tells before now expiration? transitions)
    (known : now name → ∃ instant, expiration? name = some instant) :
    Alternating (told ++ about name transitions) ∧
      (EndsRaised (told ++ about name transitions) ↔ now name) := by
  by_cases was : before name <;> by_cases is : now name
  · rw [tells.about_eq_nil (iff_of_true was is), List.append_nil]
    exact ⟨h, iff_of_true (isOpen.2 was) is⟩
  · rw [tells.about_resolved was is]
    refine ⟨h.concat ?_, ?_⟩
    · exact iff_of_false Bool.false_ne_true (not_not_intro (isOpen.2 was))
    · exact endsRaised_concat.trans (iff_of_false Bool.false_ne_true is)
  · obtain ⟨instant, found⟩ := known is
    rw [tells.about_raised is was found]
    refine ⟨h.concat ?_, ?_⟩
    · exact iff_of_true rfl (mt isOpen.1 was)
    · exact endsRaised_concat.trans (iff_of_true rfl is)
  · rw [tells.about_eq_nil (iff_of_false was is), List.append_nil]
    exact ⟨h, iff_of_false (mt isOpen.1 was) is⟩

end Monitor

end AssetWatch
