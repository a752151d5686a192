/-
  Region routing — counters tell the truth.

  A client counts its lookups, the calls that these place, the updates that are
  applied or refused, and what is dropped from the cache.  The transcript and the
  caches of a run tell the same numbers.

  * `Departs` lists what an action may take out of the cache, and
    `Scene.departs_play` says that the list is complete;
  * `Run.books`: every action of a run keeps the books;
  * `Run.counters`: so the counters are what the run adds up to, up to a wrap
    at `2 ^ 64`.
-/
import Mathlib.Algebra.GroupWithZero.Nat
import RegionRouting.Proofs.Bookkeeping
import RegionRouting.Proofs.Mirror

namespace RegionRouting

/-! ## What leaves the cache -/

namespace Stage

/-- The store whose regions a stage is about to drop. -/
def ledDrop? : Stage → Option Store
  | .evict store => some store
  | _ => none

/-- The id of the store that a stage is about to drop. -/
def storeDrop? : Stage → Option StoreId
  | .drop store => some store.id
  | _ => none

end Stage

variable {ω : Type}

namespace Scene

variable (scene : Scene ω)

/-- The store whose regions an action drops, be it a caller's or a round's. -/
def ledDrop? : Action ω → Option Store
  | .invalidateLedBy store => some store
  | .stepRound place => scene.rounds[place]?.bind (·.stage.ledDrop?)
  | _ => none

/-- The id of the store that an action drops, be it a caller's or a round's. -/
def storeDrop? : Action ω → Option StoreId
  | .invalidateStore id => some id
  | .stepRound place => scene.rounds[place]?.bind (·.stage.storeDrop?)
  | _ => none

end Scene

/-- What an action may take out of the cache: nothing; the regions that a region has
    to have out of its way when it is put in; a region, or those that are led
    from a store, or all; or a store. -/
inductive Departs (scene : Scene ω) : Action ω → Cache → Prop
  | nothing {action : Action ω} {cache : Cache}
      (regions : cache.regions = scene.client.cache.regions)
      (stores : ∀ id ∈ scene.client.cache.stores, id ∈ cache.stores) : Departs scene action cache
  | overlap {action : Action ω} {cache : Cache} {region : Region} (valid : region.isValid)
      (regions : cache.regions = (scene.client.cache.regions.insert region).2)
      (stores : ∀ id ∈ scene.client.cache.stores, id ∈ cache.stores) : Departs scene action cache
  | region (region : Region) : Departs scene (.invalidateRegion region)
      { scene.client.cache with regions := scene.client.cache.regions.erase region.id }
  | ledBy {action : Action ω} {store : Store} (dropped : scene.ledDrop? action = some store) :
      Departs scene action { scene.client.cache with
        regions := (scene.client.cache.regions.evict (scene.client.ledBy store.id)).2 }
  | all : Departs scene .clear { scene.client.cache with regions := {} }
  | store {action : Action ω} {id : StoreId} (dropped : scene.storeDrop? action = some id) :
      Departs scene action
        { scene.client.cache with stores := scene.client.cache.stores.erase id }

namespace Departs

variable {scene : Scene ω} {action : Action ω} {client : Client ω}

theorem of_eq (same : client.cache = scene.client.cache) : Departs scene action client.cache :=
  .nothing (congrArg Cache.regions same) fun _ there => same ▸ there

theorem of_grows (grown : scene.client.Grows client) : Departs scene action client.cache :=
  .nothing grown.regions grown.mem_stores

theorem of_resolves {result : Except RouteError Region}
    (h : Lookup.Resolves scene.client result client) : Departs scene action client.cache := by
  cases h with
  | cached => exact of_eq rfl
  | @fetched region evicted before regions grown _ valid inserted =>
    rw [Client.announceEvicted_eq]
    exact .overlap valid (by rw [inserted]; rfl) grown.mem_stores
  | failed grown => exact of_grows grown

theorem of_updateRegion (expected : Option Region) (replacement : Region) :
    Departs scene action (scene.client.updateRegion expected replacement).2.cache := by
  cases applied : (scene.client.updateRegion expected replacement).1 with
  | false =>
    rw [scene.client.updateRegion_snd_of_refused expected replacement applied]
    refine of_eq ?_
    split <;> rfl
  | true =>
    have valid := scene.client.isValid_of_updateRegion expected replacement applied
    rw [scene.client.updateRegion_snd_of_applied expected replacement applied,
      Client.announceEvicted_eq]
    exact .overlap valid rfl fun _ there => there

theorem of_updateStore (old new : Store) :
    Departs scene action (scene.client.updateStore old new).2.cache := by
  cases applied : (scene.client.updateStore old new).1 with
  | false =>
    rw [scene.client.updateStore_snd_of_refused old new applied]
    exact of_eq rfl
  | true =>
    obtain ⟨_, eq⟩ := scene.client.updateStore_snd_of_applied old new applied
    rw [eq]
    exact .nothing rfl fun _ there => Std.ExtTreeMap.mem_insert.2 (.inr there)

theorem of_invalidateRegion (region : Region) :
    Departs scene (.invalidateRegion region) (scene.client.invalidateRegion region).2.cache := by
  obtain ⟨_, _, eq⟩ := scene.client.invalidateRegion_snd region
  rw [eq]
  dsimp only
  split
  · exact .region region
  · exact .nothing rfl fun _ there => there

theorem of_invalidateLedBy {store : Store} (dropped : scene.ledDrop? action = some store) :
    Departs scene action (scene.client.invalidateLedBy store).2.cache := by
  obtain ⟨_, _, eq⟩ := scene.client.invalidateLedBy_snd store
  rw [eq]
  dsimp only
  split
  · exact .ledBy dropped
  · exact .nothing rfl fun _ there => there

theorem of_clear : Departs scene .clear scene.client.clear.cache := by
  obtain ⟨_, _, eq⟩ := scene.client.clear_eq
  rw [eq]
  exact .all

theorem of_invalidateStore {id : StoreId} (dropped : scene.storeDrop? action = some id) :
    Departs scene action (scene.client.invalidateStore id).2.cache := by
  obtain ⟨_, _, _, eq⟩ := scene.client.invalidateStore_snd id
  rw [eq]
  exact .store dropped

end Departs

namespace Scene

variable [Authority ω] [Prober ω] {scene : Scene ω}

theorem departs_stepRound {place : Nat} {round : Round}
    (running : scene.rounds[place]? = some round) :
    Departs scene (.stepRound place) (scene.stepRound place round).client.cache := by
  rw [Scene.stepRound, Round.step_client]
  obtain ⟨waiting, stage, kept, tally⟩ := round
  cases stage with
  | evict store => exact .of_invalidateLedBy (by rw [ledDrop?, running]; rfl)
  | drop store => exact .of_invalidateStore (by rw [storeDrop?, running]; rfl)
  | install store direct => exact .of_updateStore store direct
  | listen store =>
    dsimp only [Round.listen]
    split <;> exact .of_eq rfl
  | examine | call | ask | probe => exact .of_eq rfl

/-- **One action.** What leaves the cache leaves it in one of these ways. -/
theorem departs_play (action : Action ω) :
    Departs scene action (scene.play action).client.cache := by
  cases action with
  | regionByKey key budget => exact .of_resolves (Lookup.resolves_regionByKey key budget _)
  | regionById id budget => exact .of_resolves (Lookup.resolves_regionById id budget _)
  | storeById id budget => exact .of_grows (Lookup.grows_storeById id budget _)
  | updateRegion expected replacement =>
    rw [Scene.play, Operation.run_updateRegion]
    exact .of_updateRegion expected replacement
  | updateStore old new => exact .of_updateStore old new
  | invalidateRegion region => exact .of_invalidateRegion region
  | invalidateLedBy store => exact .of_invalidateLedBy rfl
  | invalidateStore id => exact .of_invalidateStore rfl
  | clear => exact .of_clear
  | stepRound place =>
    rw [Scene.play]
    cases running : scene.rounds[place]? with
    | none => exact .of_eq rfl
    | some round => exact departs_stepRound running
  | finishRound place =>
    rw [Scene.play]
    cases scene.rounds[place]? with
    | none => exact .of_eq rfl
    | some round =>
      rw [Option.elim_some, Scene.finishRound]
      split
      · exact .of_eq (scene.client.cache_withQueue _)
      · exact .of_eq rfl
  | beginRound => exact .of_eq (scene.client.cache_withQueue _)
  | cachedRegion | cachedStore | makeRegion | switchLeader | makeStore | forwardThrough | reconnect
  | judge | schedule | takeUp | elsewhere => exact .of_eq rfl

end Scene

/-! ## What a run adds up to -/

namespace Run

variable [Authority ω] [Prober ω]

/-- The transcript is blank at the start, and only calls are written in it. -/
structure Transcribes (run : Run (Observed ω)) : Prop where
  blank : run.world.calls = []
  discreet : ∀ action ∈ run.actions, action.Discreet

variable (run : Run (Observed ω))

/-- The calls that the authority has received by a moment. -/
def callsBy (i : Nat) : List Call :=
  (run.moment i).client.world.calls

/-- The calls that the action at a moment places. -/
def callsAt (i : Nat) : List Call :=
  (run.callsBy (i + 1)).drop (run.callsBy i).length

/-- Is the action at a moment a step of a round of health checks? -/
def stepsRound (i : Nat) : Bool :=
  run.actions[i]?.any Action.isRoundStep

/-- The calls that a lookup places at a moment. -/
def lookupCallsAt (i : Nat) : List Call :=
  if run.stepsRound i then [] else run.callsAt i

/-- The result of the update at a moment, if there is one that is not turned away. -/
def swapAt (i : Nat) : Option Bool :=
  run.actions[i]?.bind (run.moment i).swap?

/-- How many stores, and how many regions, leave the cache at a moment. -/
def storesLostAt (i : Nat) : Nat :=
  (run.moment i).client.cache.storesLost (run.moment (i + 1)).client.cache

def regionsLostAt (i : Nat) : Nat :=
  (run.moment i).client.cache.regionsLost (run.moment (i + 1)).client.cache

/-- The counters at a moment are what the actions before it add up to. -/
structure Counted (n : Nat) (m : Metrics) : Prop where
  lookups : m.regionLookups = m.regionHits + m.regionMisses
  regionFetches : m.authorityRegionFetches = .ofNat ((run.callsBy n).countP Call.isRegion)
  misses : m.regionMisses = .ofNat ((run.callsBy n).countP Call.isByKey)
  storeFetches : m.authorityStoreFetches =
    .ofNat (((List.range n).flatMap run.lookupCallsAt).countP Call.isStore)
  applied : m.casApplied = .ofNat (((List.range n).filterMap run.swapAt).count true)
  rejected : m.casRejected = .ofNat (((List.range n).filterMap run.swapAt).count false)
  storesInvalidated : m.storesInvalidated = .ofNat ((List.range n).map run.storesLostAt).sum
  regionsInvalidated : m.regionsInvalidated = .ofNat ((List.range n).map run.regionsLostAt).sum

variable {run}

/-- **One moment.** The action there keeps its books. -/
theorem books (h : run.Transcribes) (i : Nat) :
    (run.moment i).client.Books (run.callsAt i) (run.lookupCallsAt i) (run.swapAt i)
      (run.moment (i + 1)).client := by
  have booked : ∃ placed, (run.moment i).client.Books placed
      (if run.stepsRound i then [] else placed) (run.swapAt i) (run.moment (i + 1)).client := by
    cases played : run.actions[i]? with
    | none =>
      rw [run.moment_succ_of_none played, stepsRound, swapAt, played]
      exact ⟨[], Client.books_idle rfl rfl rfl⟩
    | some action =>
      rw [run.moment_succ played, stepsRound, swapAt, played]
      exact Scene.books_play (run.wellFormed_moment i).toConsistent
        (h.discreet action (List.mem_of_getElem? played))
  obtain ⟨placed, books⟩ := booked
  have calls : run.callsBy (i + 1) = run.callsBy i ++ placed := books.calls
  have same : run.callsAt i = placed := by
    rw [callsAt, calls, List.drop_left]
  rwa [lookupCallsAt, same]

theorem counted (h : run.Transcribes) (n : Nat) :
    run.Counted n (run.moment n).client.metrics := by
  induction n with
  | zero =>
    have blank : run.callsBy 0 = [] := h.blank
    constructor
    case regionFetches | misses =>
      rw [blank]
      rfl
    all_goals rfl
  | succ n ih =>
    have books := books h n
    have calls : run.callsBy (n + 1) = run.callsBy n ++ run.callsAt n := books.calls
    have swaps (result : Bool) : ((List.range (n + 1)).filterMap run.swapAt).count result =
        ((List.range n).filterMap run.swapAt).count result +
          (run.swapAt n).toList.count result := by
      rw [List.range_succ, List.filterMap_append, List.count_append]
      cases h : run.swapAt n <;> simp [h]
    constructor
    case lookups =>
      have lookups := books.lookups
      rw [ih.lookups] at lookups
      grind
    case regionFetches =>
      rw [books.regionFetches, ih.regionFetches, calls, List.countP_append, UInt64.ofNat_add]
    case misses => rw [books.misses, ih.misses, calls, List.countP_append, UInt64.ofNat_add]
    case storeFetches =>
      rw [books.storeFetches, ih.storeFetches, List.range_succ, List.flatMap_append,
        List.countP_append, UInt64.ofNat_add, List.flatMap_singleton]
    case applied => rw [books.applied, ih.applied, swaps, UInt64.ofNat_add]
    case rejected => rw [books.rejected, ih.rejected, swaps, UInt64.ofNat_add]
    case storesInvalidated =>
      rw [books.storesInvalidated, ih.storesInvalidated, List.range_succ, List.map_append,
        List.sum_append_nat, UInt64.ofNat_add, List.map_singleton, List.sum_singleton]
      rfl
    case regionsInvalidated =>
      rw [books.regionsInvalidated, ih.regionsInvalidated, List.range_succ, List.map_append,
        List.sum_append_nat, UInt64.ofNat_add, List.map_singleton, List.sum_singleton]
      rfl

/-- **Counters tell the truth.** At every moment of a run whose transcript holds the
    calls, the counters are what the actions before it add up to; and what leaves
    the cache does so in the ways that are counted. -/
theorem counters (h : run.Transcribes) (n : Nat) :
    run.Counted n (run.moment n).client.metrics ∧
    ∀ i action, run.actions[i]? = some action →
      Departs (run.moment i) action (run.moment (i + 1)).client.cache := by
  refine ⟨counted h n, fun i action played => ?_⟩
  rw [run.moment_succ played]
  exact Scene.departs_play action

/-! ## A run with a transcript -/

/-- The store on the far node, as the authority first told of it. -/
def farStore : Store :=
  .direct farNode 2

/-- The upper region is fetched and evicts the lower, and is hit; its store is
    updated, checked in a round, and reported; the store is dropped, and another
    update comes too late. -/
def auditedActions : List (Action (Observed Script)) :=
  [.regionByKey [] {}, .elsewhere fun o => { o with world := o.world.force upperRegion },
    .regionByKey [7] {}, .regionByKey [8] {}, .cachedStore ⟨2⟩, .updateStore farStore farStore,
    .takeUp [farStore], .stepRound 0, .stepRound 0, .invalidateLedBy farStore,
    .invalidateStore ⟨2⟩, .updateStore farStore farStore, .clear]

/-- An authority with the two nodes, a lower region and a blank transcript. -/
def auditedWorld : Observed Script :=
  { world := { twoNodes with regions := [lowerRegion] } }

theorem audited_allowed : ∀ i action, auditedActions[i]? = some action →
    ((Scene.start auditedWorld .unwatched false).after (auditedActions.take i)).Allows action
  | 0, _, rfl | 1, _, rfl | 2, _, rfl | 3, _, rfl | 4, _, rfl | 7, _, rfl | 8, _, rfl
  | 10, _, rfl | 12, _, rfl => ⟨by rintro _ ⟨⟩, by rintro _ ⟨⟩, by rintro _ ⟨⟩⟩
  | 5, _, rfl | 6, _, rfl | 9, _, rfl | 11, _, rfl =>
    ⟨by rintro _ ⟨⟩, fun store presented => .given (by revert store; decide +kernel),
      by rintro _ ⟨⟩⟩

def audited : Run (Observed Script) where
  world := auditedWorld
  scheduler := .unwatched
  subscribed := false
  actions := auditedActions
  unused := Scheduler.waiting_unwatched
  allowed := audited_allowed

theorem audited_counters : audited.Transcribes ∧
    audited.Counted 13 (audited.moment 13).client.metrics ∧
    (audited.moment 13).client.metrics =
      { regionLookups := 3, regionHits := 1, regionMisses := 2, authorityRegionFetches := 2,
        authorityStoreFetches := 2, regionsInvalidated := 2, storesInvalidated := 1,
        casApplied := 1, casRejected := 1 } ∧
    audited.callsBy 13 =
      [.region (.byKey []), .store ⟨1⟩, .region (.byKey [7]), .store ⟨2⟩, .store ⟨2⟩] := by
  have transcribes : audited.Transcribes := by
    refine ⟨rfl, ?_⟩
    rintro action among f rfl world
    simp only [audited, auditedActions, List.mem_cons, reduceCtorEq, false_or, or_false,
      List.not_mem_nil, Action.elsewhere.injEq] at among
    rw [among]
  exact ⟨transcribes, (counters transcribes 13).1, by decide +kernel, by decide +kernel⟩

end Run
end RegionRouting
