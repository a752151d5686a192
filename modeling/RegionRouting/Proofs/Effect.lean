/-
  Region routing — what an action does to a client.

  * `Effect` lists what one action may do to the client, and `effect_play`
    says that the list is complete;
  * `Scene.storeUpdate?` is the update of a store that an action makes, be it a
    caller's or that of a round of health checks.
-/
import RegionRouting.Proofs.LookupEffect
import RegionRouting.Proofs.Run

namespace RegionRouting

/-! ## Updates of stores -/

/-- The update that a stage is about to make, the old value first. -/
def Stage.storeUpdate? : Stage → Option (Store × Store)
  | .install store direct => some (store, direct)
  | _ => none

theorem Stage.storeUpdate?_eq_some {stage : Stage} {old new : Store} :
    stage.storeUpdate? = some (old, new) ↔ stage = .install old new := by
  cases stage <;> simp [storeUpdate?]

variable {ω : Type}

/-- The update of a store that an action makes, the old value first. -/
def Scene.storeUpdate? (scene : Scene ω) : Action ω → Option (Store × Store)
  | .updateStore old new => some (old, new)
  | .stepRound place => scene.rounds[place]?.bind (·.stage.storeUpdate?)
  | _ => none

/-! ## One action -/

/-- What an action may do to the client: it looks a region up; it loads a store;
    it makes one of the updates and invalidations; or it leaves the cache as
    it is. -/
inductive Effect (scene : Scene ω) : Action ω → Client ω → Prop
  | resolves {action : Action ω} {result : Except RouteError Region} {client : Client ω}
      (resolved : Lookup.Resolves scene.client result client) : Effect scene action client
  | loads {action : Action ω} {client : Client ω} (grown : scene.client.Grows client) :
      Effect scene action client
  | updatesRegion (expected : Option Region) (replacement : Region) :
      Effect scene (.updateRegion expected replacement)
        (scene.client.updateRegion expected replacement).2
  | updatesStore {action : Action ω} {old new : Store}
      (update : scene.storeUpdate? action = some (old, new)) :
      Effect scene action (scene.client.updateStore old new).2
  | invalidatesRegion (region : Region) :
      Effect scene (.invalidateRegion region) (scene.client.invalidateRegion region).2
  | invalidatesLedBy {action : Action ω} (store : Store) :
      Effect scene action (scene.client.invalidateLedBy store).2
  | invalidatesStore {action : Action ω} (id : StoreId) :
      Effect scene action (scene.client.invalidateStore id).2
  | clears : Effect scene .clear scene.client.clear
  | keeps {action : Action ω} {client : Client ω} (same : client.cache = scene.client.cache) :
      Effect scene action client

variable [Authority ω] [Prober ω]

theorem effect_stepRound (scene : Scene ω) {place : Nat} {round : Round}
    (running : scene.rounds[place]? = some round) :
    Effect scene (.stepRound place) (scene.stepRound place round).client := by
  have moved := round.moves scene.client
  rw [Scene.stepRound]
  generalize (round.step scene.client).2 = next at moved ⊢
  obtain ⟨round', client'⟩ := next
  cases moved with
  | settles | makes => exact .keeps rfl
  | evicts => exact .invalidatesLedBy _
  | drops => exact .invalidatesStore _
  | installs stage =>
    refine .updatesStore ?_
    rw [Scene.storeUpdate?, running, Option.bind_some, stage, Stage.storeUpdate?]

theorem effect_play (scene : Scene ω) (action : Action ω) :
    Effect scene action (scene.play action).client := by
  cases action with
  | regionByKey key budget => exact .resolves (Lookup.resolves_regionByKey key budget _)
  | regionById id budget => exact .resolves (Lookup.resolves_regionById id budget _)
  | storeById id budget => exact .loads (Lookup.grows_storeById id budget _)
  | updateRegion expected replacement =>
    rw [Scene.play, Operation.run_updateRegion]
    exact .updatesRegion expected replacement
  | updateStore old new => exact .updatesStore rfl
  | invalidateRegion region => exact .invalidatesRegion region
  | invalidateLedBy store => exact .invalidatesLedBy store
  | invalidateStore id => exact .invalidatesStore id
  | clear => exact .clears
  | stepRound place =>
    rw [Scene.play]
    cases running : scene.rounds[place]? with
    | none => exact .keeps rfl
    | some round => exact effect_stepRound scene running
  | finishRound place =>
    rw [Scene.play]
    cases scene.rounds[place]? with
    | none => exact .keeps rfl
    | some round =>
      rw [Option.elim_some, Scene.finishRound]
      split
      · exact .keeps (scene.client.cache_withQueue _)
      · exact .keeps rfl
  | beginRound => exact .keeps (scene.client.cache_withQueue _)
  | cachedRegion | cachedStore | makeRegion | switchLeader | makeStore | forwardThrough | reconnect
  | judge | schedule | takeUp | elsewhere => exact .keeps rfl

end RegionRouting
