import AssetWatch.Proofs.Cache.Run

/-!
# What commands are answered

A command to a cache has an answer, and reports are made on the way to it. Both are kept here,
so that runs can be compared and counted by what they have been answered.
-/

namespace AssetWatch.Cache

/-- What a command is answered. -/
inductive Answer
  /-- What became of an event. -/
  | outcome (outcome : Outcome)
  /-- Whether an asset that was to be deleted was watched. -/
  | existed (existed : Bool)
  /-- There is nothing to say. -/
  | done
deriving DecidableEq

/-- Carries out a command: the scene that it leads to and its answer, with the reports. -/
def Scene.take (scene : Scene) : Command → Logged (Scene × Answer)
  | .put event => do
    let (cache, outcome) ← scene.cache.put scene.now event
    return ({ scene with cache := cache }, .outcome outcome)
  | .delete name => do
    let (cache, existed) ← scene.cache.delete name
    return ({ scene with cache := cache }, .existed existed)
  | .setDefaultExpiry expiry =>
    return ({ scene with cache := scene.cache.setDefaultExpiry expiry }, .done)
  | .setVerbose verbose =>
    return ({ scene with cache := scene.cache.setVerbose verbose }, .done)
  | .setClock now => return ({ scene with clock := scene.clock.set now }, .done)

/-- The answer to a command. -/
def Scene.answer (scene : Scene) (command : Command) : Answer := (scene.take command).value.2

/-- The answers to commands that are given one after the other. -/
def answersFrom (scene : Scene) : List Command → List Answer
  | [] => []
  | command :: rest => scene.answer command :: answersFrom (scene.step command) rest

/-- The answers in a run from an empty cache. -/
def answers (clock : Clock) (commands : List Command) : List Answer :=
  answersFrom ⟨new, clock⟩ commands

end AssetWatch.Cache
