import AssetWatch.Clock
import AssetWatch.Proofs.Cache.Step

/-!
# Runs of a cache

A run is a sequence of commands, given to a cache that begins empty or to the clock that it
goes by. The clock may be set to any instant at any time.
-/

namespace AssetWatch.Cache

/-- What can happen to a cache and to the clock that it goes by. -/
inductive Command
  | put (event : Event)
  | delete (name : AssetName)
  | setDefaultExpiry (expiry : Seconds)
  | setVerbose (verbose : Bool)
  /-- The clock shows another instant from now on, be it earlier or later. -/
  | setClock (now : Seconds)
deriving DecidableEq

/-- A cache and the clock that it goes by. -/
structure Scene where
  cache : Cache
  clock : Clock
deriving DecidableEq

namespace Scene

/-- What the clock shows. -/
def now (scene : Scene) : Seconds := scene.clock.now

/-- Carries out a command. -/
def step (scene : Scene) : Command → Scene
  | .put event => { scene with cache := (scene.cache.put scene.now event).value.1 }
  | .delete name => { scene with cache := (scene.cache.delete name).value.1 }
  | .setDefaultExpiry expiry => { scene with cache := scene.cache.setDefaultExpiry expiry }
  | .setVerbose verbose => { scene with cache := scene.cache.setVerbose verbose }
  | .setClock now => { scene with clock := scene.clock.set now }

end Scene

/-- A run from an empty cache. -/
def run (clock : Clock) (commands : List Command) : Scene :=
  commands.foldl Scene.step ⟨new, clock⟩

@[simp] theorem run_concat (clock : Clock) (commands : List Command) (command : Command) :
    run clock (commands ++ [command]) = (run clock commands).step command := by
  simp [run, List.foldl_append]

/-! ## The clock and the default expiry -/

/-- What the clock shows after a command. -/
def Command.clockAfter (now : Seconds) : Command → Seconds
  | .setClock later => later
  | _ => now

/-- The default expiry that is in force after a command. -/
def Command.expiryAfter (expiry : Seconds) : Command → Seconds
  | .setDefaultExpiry other => other
  | _ => expiry

theorem Scene.now_step (scene : Scene) (command : Command) :
    (scene.step command).now = command.clockAfter scene.now := by
  cases command <;> rfl

theorem Scene.defaultExpiry_step (scene : Scene) (command : Command) :
    (scene.step command).cache.defaultExpiry = command.expiryAfter scene.cache.defaultExpiry := by
  cases command with
  | put event => exact defaultExpiry_put _ _ _
  | _ => rfl

end AssetWatch.Cache
