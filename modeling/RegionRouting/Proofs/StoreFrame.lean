/-
  Region routing — what leaves the stores alone, and what the regions.

  Lookups add stores and neither replace nor drop any; they ask the authority about a
  store only while none is cached under its id.  What changes regions alone leaves the
  stores as they are, and what changes stores alone leaves the regions.  All that holds
  of each act, whatever others do in between that keep to the lock.

  * `Inquired ω` is a world that writes down the stores that its authority is asked
    about, at each call and again at each attempt;
  * `Client.Adds` is what an act of a lookup may do to the stores, and `Client.AddsOnly`
    what an act may do that only loads stores;
  * `Lookup.locked_loadStore`: the lock makes good what a lookup has seen before it
    asks;
  * `framed`: the frames of all lookups and operations, and of each action of a run.
-/
import RegionRouting.Proofs.Interference
import RegionRouting.Proofs.Tombstone

namespace RegionRouting

variable {ω α : Type}

/-! ## Worlds that write down inquiries -/

/-- A world, and the stores that its authority was asked about so far: once when the
    call was placed, and once for each attempt of it. -/
structure Inquired (ω : Type) where
  world : ω
  inquiries : List StoreId := []

namespace Inquired

/-- Acts on the world inside, and writes down what is asked. -/
def about (ids : List StoreId) (f : ω → α × ω) (inquired : Inquired ω) : α × Inquired ω :=
  let (result, world) := f inquired.world
  (result, { world, inquiries := inquired.inquiries ++ ids })

/-- The store that a call is about. -/
def target : Call → List StoreId
  | .region _ => []
  | .store id => [id]

instance [Authority ω] : Authority (Inquired ω) where
  place call := about (target call) (Authority.place call)
  region query := about [] (Authority.region query)
  store id := about [id] (Authority.store id)

end Inquired

/-! ## What an act may do -/

namespace Client

/-- The same stores are cached. -/
def KeepsStores (before after : Client ω) : Prop :=
  after.cache.stores = before.cache.stores

/-- The same regions are cached, with the stores that they refer to, and the index is the same. -/
def KeepsRegions (before after : Client ω) : Prop :=
  after.cache.regions = before.cache.regions

/-- Stores were added alone, and the authority was asked about none that was cached. -/
structure Adds (before after : Client (Inquired ω)) : Prop where
  stores (id : StoreId) (store : Store) : before.cache.stores[id]? = some store →
    after.cache.stores[id]? = some store
  inquiries : ∃ ids, after.world.inquiries = before.world.inquiries ++ ids ∧
    ∀ id ∈ ids, before.cache.stores[id]? = none

/-- Stores were added alone, as by `Adds`, and the regions were left alone. -/
structure AddsOnly (before after : Client (Inquired ω)) : Prop extends Adds before after where
  regions : before.KeepsRegions after

variable {before after : Client (Inquired ω)}

theorem adds_of_eq (stores : after.cache.stores = before.cache.stores)
    (world : after.world = before.world) : Adds before after where
  stores id store present := by rwa [stores]
  inquiries := ⟨[], by rw [world, List.append_nil], nofun⟩

theorem addsOnly_of_eq (cache : after.cache = before.cache) (world : after.world = before.world) :
    AddsOnly before after where
  toAdds := adds_of_eq (congrArg Cache.stores cache) world
  regions := congrArg Cache.regions cache

/-- The authority may be asked about stores that are not cached. -/
theorem addsOnly_about {ids : List StoreId} {f : ω → α × ω}
    (absent : ∀ id ∈ ids, before.cache.stores[id]? = none) :
    AddsOnly before (before.onWorld (Inquired.about ids f)).2 where
  stores _ _ present := present
  inquiries := ⟨ids, rfl, absent⟩
  regions := rfl

/-- The authority may be asked about regions. -/
theorem adds_unasked {f : ω → α × ω} : Adds before (before.onWorld (Inquired.about [] f)).2 :=
  (addsOnly_about (List.forall_mem_nil _)).toAdds

/-- A store may be cached where there is none. -/
theorem addsOnly_insert {id : StoreId} (absent : before.cache.stores[id]? = none) (store : Store) :
    AddsOnly before (before.withStores (before.cache.stores.insert id store)) where
  stores other value present := by
    have distinct : id ≠ other := by
      rintro rfl
      cases absent.symm.trans present
    simpa [withStores, Std.ExtTreeMap.getElem?_insert, distinct] using present
  inquiries := ⟨[], (List.append_nil _).symm, nofun⟩
  regions := rfl

end Client

/-! ## Lookups -/

namespace Lookup

open Client

theorem idle_addsOnly : Idle (ω := Inquired ω) AddsOnly := fun _ _ _ => addsOnly_of_eq rfl rfl

theorem idle_adds : Idle (ω := Inquired ω) Adds := fun _ _ _ => adds_of_eq rfl rfl

variable [Authority ω]

/-- A store is loaded only if it is not cached, and that is still so when it has come. -/
theorem locked_loadStore (id : StoreId) (seen : Cache) :
    AbidesLocked AddsOnly (loadStore (ω := Inquired ω) id) seen fun _ _ => True := by
  cases cached : seen.stores[id]? with
  | some store =>
    exact .read_bind idle_addsOnly (fun found same => same ▸ cached) (abidesLocked_pure trivial)
  | none =>
    -- the cache stays as it was seen until the store is put into it
    have absent (found : Client (Inquired ω)) (same : found.cache = seen) :
        ∀ other ∈ [id], found.cache.stores[other]? = none := by simpa [same] using cached
    refine .read_bind idle_addsOnly (fun found same => same ▸ cached) ?_
    refine .record_bind idle_addsOnly ?_
    refine .ask_bind (fun found same => addsOnly_about (absent found same))
      (fun found same => addsOnly_about (absent found same)) fun descriptor => ?_
    refine .create_bind idle_addsOnly fun store => ?_
    split
    · exact abidesLocked_pure trivial
    · refine AbidesLocked.bind (abidesLocked_change fun found same => ?_)
        fun _ _ _ => abidesLocked_pure trivial
      exact addsOnly_insert (absent found same id List.mem_cons_self) store

theorem locked_loadStores : ∀ (peers : List Peer) (seen : Cache),
    AbidesLocked AddsOnly (loadStores (ω := Inquired ω) peers) seen fun _ _ => True
  | [], _ => abidesLocked_pure trivial
  | peer :: peers, seen =>
    (locked_loadStore peer.store seen).bind fun _ left _ =>
      (locked_loadStores peers left).bind fun _ _ _ => abidesLocked_pure trivial

omit [Authority ω] in
theorem locked_insert (region : Region) (seen : Cache) :
    AbidesLocked Adds (insert (ω := Inquired ω) region) seen fun _ _ => True := by
  refine .read_bind idle_adds (a := seen.regions.insert region) (fun found same => same ▸ rfl) ?_
  exact AbidesLocked.bind (abidesLocked_change fun _ _ => adds_of_eq rfl rfl)
    fun _ _ _ => abidesLocked_pure trivial

/-- What a fetch asks about besides its region are stores that are not cached. -/
theorem locked_fetch (query : RegionQuery) (seen : Cache) :
    AbidesLocked Adds (fetch (ω := Inquired ω) query) seen fun _ _ => True := by
  rw [fetch_eq]
  refine .record_bind idle_adds ?_
  refine AbidesLocked.ask_bind (fun _ _ => adds_unasked) (fun _ _ => adds_unasked) fun answer => ?_
  refine ((locked_loadStores answer.1.peers seen).mono fun _ _ loads => loads.toAdds).bind
    fun stores left _ => .create_bind idle_adds fun region => ?_
  split
  · exact AbidesLocked.bind (abidesLocked_throw _) fun _ left (_ : True) =>
      locked_insert region left
  · exact locked_insert region left

theorem locked_settleKey (key : Key) (seen : Cache) :
    AbidesLocked Adds (settleKey (ω := Inquired ω) key) seen fun _ _ => True := by
  cases owner : seen.regions.find? key with
  | some region =>
    refine .read_bind idle_adds (fun found same => same ▸ owner) ?_
    exact .record_bind idle_adds (abidesLocked_pure trivial)
  | none =>
    refine .read_bind idle_adds (fun found same => same ▸ owner) ?_
    exact .record_bind idle_adds (locked_fetch _ seen)

theorem locked_settleId (id : RegionId) (seen : Cache) :
    AbidesLocked Adds (settleId (ω := Inquired ω) id) seen fun _ _ => True := by
  cases cached : seen.regions.get? id with
  | some region =>
    exact .read_bind idle_adds (fun found same => same ▸ cached) (abidesLocked_pure trivial)
  | none => exact .read_bind idle_adds (fun found same => same ▸ cached) (locked_fetch _ seen)

omit [Authority ω] in
theorem abides_announced (settled : Region × List Region) :
    Abides Adds (announced (ω := Inquired ω) settled) := by
  refine (abides_change (fun client => ?_) fun client => ?_).bind fun _ => abides_pure _
  · rw [Client.announceEvicted_eq]
  · rw [Client.announceEvicted_eq]
    exact adds_of_eq rfl rfl

theorem abides_regionByKey (key : Key) : Abides Adds (regionByKey (ω := Inquired ω) key) :=
  Abides.bind (abides_change (fun _ => rfl) fun _ => adds_of_eq rfl rfl) fun _ =>
    (abides_exclusively (locked_settleKey key)).bind abides_announced

theorem abides_regionById (id : RegionId) : Abides Adds (regionById (ω := Inquired ω) id) :=
  (abides_exclusively (locked_settleId id)).bind abides_announced

theorem abides_storeById (id : StoreId) : Abides AddsOnly (storeById (ω := Inquired ω) id) :=
  (abides_exclusively (locked_loadStore id)).bind fun found =>
    match found with
    | some _ => abides_pure _
    | none => abides_throw _

end Lookup

/-! ## Operations -/

namespace Operation

open Routine

variable (expected : Option Region) (replacement region : Region) (store old new : Store)
  (id : StoreId)

theorem only_updateRegion :
    Only Client.KeepsStores (updateRegion (ω := ω) expected replacement) := by
  unfold updateRegion
  dsimp only
  split
  · exact only_atomically fun client => client.stores_updateRegion expected replacement
  · next invalid =>
    -- an update that takes no lock is refused
    have refused (client : Client ω) :
        (client.updateRegion expected replacement).2 = client := by
      rw [Client.updateRegion, if_pos (by simpa using invalid)]
    exact only_perform (fun client => by rw [refused])
      fun client => client.stores_updateRegion expected replacement

theorem only_invalidateRegion : Only Client.KeepsStores (invalidateRegion (ω := ω) region) :=
  only_atomically fun client => client.stores_invalidateRegion region

theorem only_invalidateLedBy : Only Client.KeepsStores (invalidateLedBy (ω := ω) store) :=
  only_atomically fun client => client.stores_invalidateLedBy store

theorem only_clear : Only Client.KeepsStores (clear (ω := ω)) :=
  only_atomically fun client => client.stores_clear

theorem only_updateStore : Only Client.KeepsRegions (updateStore (ω := ω) old new) :=
  only_atomically fun client => client.regions_updateStore old new

theorem only_invalidateStore : Only Client.KeepsRegions (invalidateStore (ω := ω) id) :=
  only_atomically fun client => by
    obtain ⟨_, _, _, eq⟩ := client.invalidateStore_snd id
    rw [Client.KeepsRegions, eq]

end Operation

/-! ## Runs -/

/-- May the action put a store in the place of another, or drop one?  A round of health
    checks does both. -/
def Action.changesStores : Action ω → Bool
  | updateStore .. | invalidateStore _ | stepRound _ => true
  | _ => false

/-- Is the action about a store, and not about regions? -/
def Action.sparesRegions : Action ω → Bool
  | storeById .. | updateStore .. | invalidateStore _ => true
  | _ => false

/-- What an action leaves of a cache: the stores, unless it is one that changes them;
    and the regions, if it is about a store.  Stores come into the cache by lookups
    alone, but for the new value of an update whose old value is cached. -/
structure Cache.FramedBy (action : Action ω) (update : Option (Store × Store))
    (before after : Cache) : Prop where
  kept : action.changesStores = false → ∀ (id : StoreId) (store : Store),
    before.stores[id]? = some store → after.stores[id]? = some store
  same : action.changesStores = false → action.isLookup = false → after.stores = before.stores
  added : action.isLookup = false → ∀ (id : StoreId) (store : Store),
    after.stores[id]? = some store → before.stores[id]? = some store ∨
      ∃ old, update = some (old, store) ∧ store.id = id ∧ before.holdsStore old
  regions : action.sparesRegions = true → after.regions = before.regions

theorem Lookup.Resolves.stores {client client' : Client ω} {result : Except RouteError Region}
    (h : Resolves client result client') (id : StoreId) (store : Store)
    (present : client.cache.stores[id]? = some store) : client'.cache.stores[id]? = some store := by
  cases h with
  | cached => exact present
  | fetched grown =>
    rw [Client.announceEvicted_eq]
    exact grown.stores present
  | failed grown => exact grown.stores present

/-- What is no lookup and changes no store leaves the stores as they are. -/
theorem Scene.stores_play_of_neither [Authority ω] [Prober ω] {scene : Scene ω}
    {action : Action ω} (keeps : action.changesStores = false) (lookup : action.isLookup = false) :
    (scene.play action).client.cache.stores = scene.client.cache.stores := by
  cases action with
  | regionByKey | regionById | storeById => cases lookup
  | updateStore | invalidateStore | stepRound => cases keeps
  | updateRegion expected replacement =>
    rw [play, withClient, Operation.run_updateRegion, Client.stores_updateRegion]
  | invalidateRegion region => exact scene.client.stores_invalidateRegion region
  | invalidateLedBy store => exact scene.client.stores_invalidateLedBy store
  | clear => exact scene.client.stores_clear
  | beginRound => exact congrArg Cache.stores (scene.client.cache_withQueue _)
  | finishRound place =>
    rw [play]
    cases scene.rounds[place]? with
    | none => rfl
    | some round =>
      rw [Option.elim_some, finishRound]
      split
      · exact congrArg Cache.stores (scene.client.cache_withQueue _)
      · rfl
  | cachedRegion | cachedStore | makeRegion | switchLeader | makeStore | forwardThrough | reconnect
  | judge | schedule | takeUp | elsewhere => rfl

variable [Authority ω] [Prober ω]

theorem Scene.framed_play (scene : Scene ω) (action : Action ω) :
    Cache.FramedBy action (scene.storeUpdate? action) scene.client.cache
      (scene.play action).client.cache where
  kept keeps id store present := by
    cases lookup : action.isLookup with
    | false => rwa [stores_play_of_neither keeps lookup]
    | true =>
      cases action with
      | regionByKey key budget =>
        exact (Lookup.resolves_regionByKey key budget scene.client).stores id store present
      | regionById region budget =>
        exact (Lookup.resolves_regionById region budget scene.client).stores id store present
      | storeById other budget =>
        exact (Lookup.grows_storeById other budget scene.client).stores present
      | _ => cases lookup
  same := stores_play_of_neither
  added lookup id store present := by
    rcases stores_play lookup present with before | ⟨old, update, same, applied⟩
    · exact .inl before
    · rw [Client.updateStore_fst] at applied
      exact .inr ⟨old, update, same, applied⟩
  regions spares := by
    cases action with
    | storeById id budget => exact (Lookup.grows_storeById id budget scene.client).regions
    | updateStore old new => exact scene.client.regions_updateStore old new
    | invalidateStore id =>
      obtain ⟨_, _, _, eq⟩ := scene.client.invalidateStore_snd id
      rw [play, withClient, Operation.run_invalidateStore, eq]
    | _ => cases spares

/-- Which lookups and operations touch the stores, and which the regions. -/
structure Framed (ω : Type) [Authority ω] [Prober ω] : Prop where
  /-- lookups only add stores, and ask about none that is cached -/
  regionByKey (key : Key) (budget : Backoffer) :
    (Lookup.regionByKey (ω := Inquired ω) key budget).Only Client.Adds
  regionById (id : RegionId) (budget : Backoffer) :
    (Lookup.regionById (ω := Inquired ω) id budget).Only Client.Adds
  /-- a lookup of a store leaves the regions alone besides -/
  storeById (id : StoreId) (budget : Backoffer) :
    (Lookup.storeById (ω := Inquired ω) id budget).Only Client.AddsOnly
  /-- what is about regions leaves the stores alone -/
  updateRegion (expected : Option Region) (replacement : Region) :
    (Operation.updateRegion (ω := ω) expected replacement).Only Client.KeepsStores
  invalidateRegion (region : Region) :
    (Operation.invalidateRegion (ω := ω) region).Only Client.KeepsStores
  invalidateLedBy (store : Store) :
    (Operation.invalidateLedBy (ω := ω) store).Only Client.KeepsStores
  clear : (Operation.clear (ω := ω)).Only Client.KeepsStores
  /-- what is about stores leaves the regions alone -/
  updateStore (old new : Store) :
    (Operation.updateStore (ω := ω) old new).Only Client.KeepsRegions
  invalidateStore (id : StoreId) :
    (Operation.invalidateStore (ω := ω) id).Only Client.KeepsRegions
  /-- no action of a run does more -/
  actions (run : Run ω) {i : Nat} {action : Action ω} : run.actions[i]? = some action →
    Cache.FramedBy action ((run.moment i).storeUpdate? action) (run.moment i).client.cache
      (run.moment (i + 1)).client.cache

/-- **The frames of the operations.** Each act of an operation, whatever others do in
    between that keep to the lock, touches only what it is about. -/
theorem framed (ω : Type) [Authority ω] [Prober ω] : Framed ω where
  regionByKey key := Lookup.abides_regionByKey key
  regionById id := Lookup.abides_regionById id
  storeById id := Lookup.abides_storeById id
  updateRegion := Operation.only_updateRegion
  invalidateRegion := Operation.only_invalidateRegion
  invalidateLedBy := Operation.only_invalidateLedBy
  clear := Operation.only_clear
  updateStore := Operation.only_updateStore
  invalidateStore := Operation.only_invalidateStore
  actions run i action played := by
    rw [run.moment_succ played]
    exact (run.moment i).framed_play action

end RegionRouting
