/-
  Region routing — runs of a client.

  A `Scene` is a client in use: with it go the rounds of health checks under
  way, and the region and store values that were given out so far.

  An `Action` is something that happens to a scene without interruption.  A
  lookup is one action, since it holds the lock until it is done; a round of
  health checks is one action for each of its steps, and so is what takes a
  new value to the cache: one action makes it, a later one installs it.
  Actions may come in any order, and the authority may answer what it likes.

  A `Run` is a sequence of actions that starts with an empty cache, where each
  action presents only values that were given out before, and a round takes up
  the stores of its queue in any order.

  * `Scene.play` is the scene after one action, and `Run.moment` the scene after
    the first actions of a run;
  * `Run.induct`: what every action keeps holds at every moment.
-/
import RegionRouting.Proofs.Outcome
import RegionRouting.Proofs.Queue
import RegionRouting.Proofs.RoundStep

namespace RegionRouting

/-! ## Actions -/

/-- What may happen to a client without interruption. -/
inductive Action (ω : Type) where
  | regionByKey (key : Key) (budget : Backoffer)
  | regionById (id : RegionId) (budget : Backoffer)
  | storeById (id : StoreId) (budget : Backoffer)
  | cachedRegion (id : RegionId)
  | cachedStore (id : StoreId)
  | updateRegion (expected : Option Region) (replacement : Region)
  | updateStore (old new : Store)
  | invalidateRegion (region : Region)
  | invalidateLedBy (store : Store)
  | invalidateStore (id : StoreId)
  | clear
  /-- makes a region value, as what follows makes others -/
  | makeRegion (descriptor : RegionDescriptor) (leader : Peer) (stores : List Store)
  | switchLeader (region : Region) (store : StoreId)
  | makeStore (descriptor : StoreDescriptor)
  | forwardThrough (store proxy : Store)
  | reconnect (store : Store)
  /-- judges a store value reachable or not -/
  | judge (store : Store) (reachable : Bool)
  /-- hands a store value over for a health check -/
  | schedule (store : Store)
  /-- begins a round of the checker that is the scheduler, with the stores in the order in
  which they were drained from its queue -/
  | beginRound (drained : List Store)
  /-- begins a round of a checker that stands apart -/
  | takeUp (stores : List Store)
  | stepRound (place : Nat)
  /-- puts back what a round that is over has kept -/
  | finishRound (place : Nat)
  /-- something happens in the world outside -/
  | elsewhere (f : ω → ω)

namespace Action

variable {ω : Type}

/-- The region values that an action presents. -/
def regions : Action ω → List Region
  | updateRegion expected replacement => expected.toList ++ [replacement]
  | invalidateRegion region | switchLeader region _ => [region]
  | _ => []

/-- The store values that an action presents. -/
def stores : Action ω → List Store
  | updateStore old new => [old, new]
  | forwardThrough store proxy => [store, proxy]
  | invalidateLedBy store | reconnect store | judge store _ | schedule store => [store]
  | makeRegion _ _ stores | takeUp stores => stores
  | _ => []

end Action

/-! ## Scenes -/

/-- A client in use: the rounds of health checks under way, and the region and
    store values given out so far. -/
structure Scene (ω : Type) where
  client : Client ω
  rounds : List Round := []
  regions : List Region := []
  stores : List Store := []

namespace Scene

variable {ω : Type}

/-- An empty cache, and nobody who uses it yet. -/
def start (world : ω) (scheduler : Scheduler) (subscribed : Bool) : Scene ω :=
  { client := { world, scheduler, subscribed } }

def withClient (scene : Scene ω) (client : Client ω) : Scene ω :=
  { scene with client }

/-- Goes on with a client that has given out a region, perhaps. -/
def givesRegion (scene : Scene ω) (given : Option Region × Client ω) : Scene ω :=
  { scene with client := given.2, regions := scene.regions ++ given.1.toList }

/-- Goes on with a client that has given out a store, perhaps. -/
def givesStore (scene : Scene ω) (given : Option Store × Client ω) : Scene ω :=
  { scene with client := given.2, stores := scene.stores ++ given.1.toList }

/-- Goes on with a client that has made a value. -/
def made {α : Type} (given : α × Client ω) : Option α × Client ω :=
  (some given.1, given.2)

/-- Goes on with what a lookup came to. -/
def resolved {α : Type} (out : Lookup.Outcome ω α) : Option α × Client ω :=
  (out.1.1.toOption, out.2)

/-- The store values in the hands of those who use the client: those given out,
    those of the rounds under way, those that a region refers to, and the
    proxies of all these. -/
inductive HoldsStore (scene : Scene ω) : Store → Prop
  | given {store : Store} (h : store ∈ scene.stores) : HoldsStore scene store
  | inRound {round : Round} {store : Store} (h : round ∈ scene.rounds)
      (member : store ∈ round.stores) : HoldsStore scene store
  | ofRegion {region : Region} {id : StoreId} {store : Store} (h : region ∈ scene.regions)
      (refers : region.stores[id]? = some store) : HoldsStore scene store
  | proxy {store proxy : Store} (h : HoldsStore scene store)
      (forwards : store.proxy? = some proxy) : HoldsStore scene proxy

/-- Does the action present only values that were given out before, and begin a round with
    none but the stores that wait?  These may come in any order. -/
structure Allows (scene : Scene ω) (action : Action ω) : Prop where
  regions : ∀ region ∈ action.regions, region ∈ scene.regions
  stores : ∀ store ∈ action.stores, scene.HoldsStore store
  drained : ∀ drained, action = .beginRound drained →
    drained.Perm scene.client.scheduler.queue.values

variable [Authority ω] [Prober ω]

/-- Makes the next step of a round. -/
def stepRound (scene : Scene ω) (place : Nat) (round : Round) : Scene ω :=
  let next := round.step scene.client
  { scene with client := next.2.2, rounds := scene.rounds.set place next.2.1 }

/-- Ends a round of the checker that is the scheduler. -/
def finishRound (scene : Scene ω) (place : Nat) (round : Round) : Scene ω :=
  if round.isOver then
    { scene with
      client := Checker.own.finish round scene.client
      rounds := scene.rounds.set place { waiting := [] } }
  else
    scene

/-- The scene after an action. -/
def play (scene : Scene ω) : Action ω → Scene ω
  | .regionByKey key budget =>
    scene.givesRegion (resolved ((Lookup.regionByKey key).outcome budget scene.client))
  | .regionById id budget =>
    scene.givesRegion (resolved ((Lookup.regionById id).outcome budget scene.client))
  | .storeById id budget =>
    scene.givesStore (resolved ((Lookup.storeById id).outcome budget scene.client))
  | .cachedRegion id => scene.givesRegion ((Operation.cachedRegion id).run scene.client)
  | .cachedStore id => scene.givesStore ((Operation.cachedStore id).run scene.client)
  | .updateRegion expected replacement =>
    scene.withClient ((Operation.updateRegion expected replacement).run scene.client).2
  | .updateStore old new => scene.withClient ((Operation.updateStore old new).run scene.client).2
  | .invalidateRegion region =>
    scene.withClient ((Operation.invalidateRegion region).run scene.client).2
  | .invalidateLedBy store =>
    scene.withClient ((Operation.invalidateLedBy store).run scene.client).2
  | .invalidateStore id => scene.withClient ((Operation.invalidateStore id).run scene.client).2
  | .clear => scene.withClient (Operation.clear.run scene.client).2
  | .makeRegion descriptor leader stores =>
    scene.givesRegion (made (scene.client.create (Region.create descriptor leader stores)))
  | .switchLeader region store =>
    scene.givesRegion (scene.client.create (region.switchLeader store))
  | .makeStore descriptor =>
    scene.givesStore (made (scene.client.create (Store.create descriptor)))
  | .forwardThrough store proxy =>
    scene.givesStore (made (scene.client.create (store.forwardThrough proxy)))
  | .reconnect store => scene.givesStore (made (scene.client.create store.reconnect))
  | .judge store reachable =>
    let ledger := scene.client.ledger
    scene.withClient { scene.client with
      ledger := if reachable then ledger.markReachable store else ledger.markUnreachable store }
  | .schedule store =>
    scene.withClient { scene.client with scheduler := scene.client.scheduler.schedule store }
  | .beginRound drained =>
    let (round, client) := Checker.own.beginWith drained scene.client
    { scene with client, rounds := scene.rounds ++ [round] }
  | .takeUp stores => { scene with rounds := scene.rounds ++ [{ waiting := stores }] }
  | .stepRound place => (scene.rounds[place]?).elim scene (scene.stepRound place)
  | .finishRound place => (scene.rounds[place]?).elim scene (scene.finishRound place)
  | .elsewhere f => scene.withClient { scene.client with world := f scene.client.world }

/-- The scene after some actions. -/
def after (scene : Scene ω) (actions : List (Action ω)) : Scene ω :=
  actions.foldl play scene

end Scene

/-! ## Runs -/

/-- A sequence of actions that starts with an empty cache and a scheduler that
    nobody has used; each action presents only what was given out before. -/
structure Run (ω : Type) [Authority ω] [Prober ω] where
  world : ω
  scheduler : Scheduler
  subscribed : Bool
  actions : List (Action ω)
  unused : scheduler.waiting = []
  allowed : ∀ i action, actions[i]? = some action →
    ((Scene.start world scheduler subscribed).after (actions.take i)).Allows action

namespace Run

variable {ω : Type} [Authority ω] [Prober ω] (run : Run ω) {i : Nat} {action : Action ω}

/-- The scene after the first actions of a run. -/
def moment (i : Nat) : Scene ω :=
  (Scene.start run.world run.scheduler run.subscribed).after (run.actions.take i)

theorem moment_allows (h : run.actions[i]? = some action) : (run.moment i).Allows action :=
  run.allowed i action h

theorem moment_succ (h : run.actions[i]? = some action) :
    run.moment (i + 1) = (run.moment i).play action := by
  rw [moment, Scene.after, List.take_add_one, List.foldl_append, h]
  rfl

theorem moment_succ_of_none (h : run.actions[i]? = none) : run.moment (i + 1) = run.moment i := by
  rw [moment, Scene.after, List.take_add_one, List.foldl_append, h]
  rfl

/-- What holds at the start, and after an action if it held before, holds at
    every moment. -/
theorem induct {P : Scene ω → Prop}
    (start : P (Scene.start run.world run.scheduler run.subscribed))
    (play : ∀ scene action, scene.Allows action → P scene → P (scene.play action)) :
    ∀ i, P (run.moment i)
  | 0 => start
  | i + 1 => by
    cases h : run.actions[i]? with
    | none => exact run.moment_succ_of_none h ▸ induct start play i
    | some action =>
      rw [run.moment_succ h]
      exact play _ action (run.moment_allows h) (induct start play i)

end Run
end RegionRouting
