/-
  Region routing — what a subscriber is told.

  Whatever is done to a cache, its subscriber is told of what has left it.

  * `Announces` lists what may happen to a cache, with the notices that go along:
    single regions leave it, each named once; all of them do; or a store does;
  * `Announces.hasRegion_iff`: the regions that are cached afterwards are those
    that were there, and the one that was handed out, less those struck off by
    the notices;
  * `Scene.tells_play`: every action announces what it does to the cache.
-/
import RegionRouting.Proofs.LookupEffect
import RegionRouting.Proofs.Run

namespace RegionRouting

/-! ## Notices -/

namespace Invalidation

/-- The region that a notice about a single region names. -/
def droppedRegion? (notice : Invalidation) : Option RegionId :=
  match notice.scope with
  | .region | .regionStore => notice.region
  | .store | .all => none

/-- Does the notice say that the region is cached no more? -/
def Strikes (notice : Invalidation) (id : RegionId) : Prop :=
  notice.scope = .all ∨ notice.droppedRegion? = some id

@[simp] theorem droppedRegion?_ofRegion (id : RegionId) :
    (ofRegion id).droppedRegion? = some id := rfl

@[simp] theorem droppedRegion?_ofLedRegion (id : RegionId) (leader : StoreId) :
    (ofLedRegion id leader).droppedRegion? = some id := rfl

@[simp] theorem droppedRegion?_ofStore (id : StoreId) : (ofStore id).droppedRegion? = none := rfl

@[simp] theorem droppedRegion?_ofAll : ofAll.droppedRegion? = none := rfl

/-- A notice that names a region is neither about a store nor about all regions. -/
theorem scope_of_droppedRegion? {notice : Invalidation} (h : notice.droppedRegion?.isSome) :
    notice.scope = .region ∨ notice.scope = .regionStore := by
  unfold droppedRegion? at h
  split at h
  · next scope => exact .inl scope
  · next scope => exact .inr scope
  · cases h
  · cases h

theorem droppedRegion?_of_scope {notice : Invalidation}
    (h : notice.scope = .region ∨ notice.scope = .regionStore) :
    notice.droppedRegion? = notice.region := by
  unfold droppedRegion?
  rcases h with scope | scope <;> rw [scope]

/-- The ids that some notices name are those they were made of. -/
theorem filterMap_droppedRegion? (ids : List RegionId) (make : RegionId → Invalidation)
    (names : ∀ id, (make id).droppedRegion? = some id) :
    (ids.map make).filterMap droppedRegion? = ids := by
  rw [List.filterMap_map, show droppedRegion? ∘ make = some from funext names,
    List.filterMap_some]

end Invalidation

/-! ## What happens to a cache -/

/-- Is a region cached under the id? -/
def Cache.HasRegion (cache : Cache) (id : RegionId) : Prop :=
  (cache.regions.get? id).isSome

/-- What may happen to a cache at once, with the id of the region that is handed
    out and the notices that are given: regions leave it, and each is named once;
    all regions leave it; or a store does. -/
inductive Announces (cache : Cache) : Option RegionId → List Invalidation → Cache → Prop
  | regions {told : Option RegionId} {fired : List Invalidation} {cache' : Cache}
      (named : ∀ notice ∈ fired, notice.droppedRegion?.isSome)
      (left : ∀ id, id ∈ fired.filterMap Invalidation.droppedRegion? ↔
        cache.HasRegion id ∧ ¬cache'.HasRegion id)
      (distinct : (fired.filterMap Invalidation.droppedRegion?).Nodup)
      (entered : ∀ id, cache'.HasRegion id → told = some id ∨ cache.HasRegion id)
      (present : ∀ id, told = some id → cache'.HasRegion id)
      (stores : ∀ id ∈ cache.stores, id ∈ cache'.stores) : Announces cache told fired cache'
  | all : Announces cache none [.ofAll] { cache with regions := {} }
  | store {id : StoreId} (present : id ∈ cache.stores) :
      Announces cache none [.ofStore id] { cache with stores := cache.stores.erase id }

namespace Announces

variable {cache cache' : Cache} {told : Option RegionId} {fired : List Invalidation}

/-- Nothing leaves the cache, and nothing is announced. -/
theorem silent (has : ∀ id, cache'.HasRegion id ↔ cache.HasRegion id)
    (present : ∀ id, told = some id → cache.HasRegion id)
    (stores : ∀ id ∈ cache.stores, id ∈ cache'.stores) : Announces cache told [] cache' :=
  .regions nofun (fun id => by simp [has id]) List.nodup_nil
    (fun id after => .inr ((has id).1 after))
    (fun id one => (has id).2 (present id one)) stores

/-- Regions that are evicted are announced one by one. -/
theorem evicted {ids : List RegionId} {regions : RegionTable} (make : RegionId → Invalidation)
    (names : ∀ id, (make id).droppedRegion? = some id) (distinct : ids.Nodup)
    (left : ∀ id, id ∈ ids ↔ cache.HasRegion id ∧ regions.get? id = none)
    (entered : ∀ id, (regions.get? id).isSome → told = some id ∨ cache.HasRegion id)
    (present : ∀ id, told = some id → (regions.get? id).isSome)
    (stores : ∀ id ∈ cache.stores, id ∈ cache'.stores) (after : cache'.regions = regions) :
    Announces cache told (ids.map make) cache' := by
  subst after
  refine .regions ?_ ?_ ?_ entered present stores
  · intro notice among
    obtain ⟨id, -, rfl⟩ := List.mem_map.1 among
    exact Option.isSome_iff_exists.2 ⟨id, names id⟩
  · intro id
    rw [Invalidation.filterMap_droppedRegion? ids make names, left id]
    simp [Cache.HasRegion]
  · rwa [Invalidation.filterMap_droppedRegion? ids make names]

/-- Cached regions that are dropped are announced. -/
theorem dropped {ids : List RegionId} (make : RegionId → Invalidation)
    (names : ∀ id, (make id).droppedRegion? = some id) (distinct : ids.Nodup)
    (cached : ∀ id ∈ ids, cache.HasRegion id) :
    Announces cache none (ids.map make)
      { cache with regions := (cache.regions.evict ids).2 } := by
  refine evicted make names distinct ?_ ?_ nofun (fun _ before => before) rfl
  · intro id
    rw [RegionTable.get?_evict]
    constructor
    · intro led
      exact ⟨cached id led, if_pos led⟩
    · rintro ⟨before, gone⟩
      refine Classical.byContradiction fun other => ?_
      rw [if_neg other] at gone
      simp [Cache.HasRegion, gone] at before
  · intro id after
    obtain ⟨r, after⟩ := Option.isSome_iff_exists.1 after
    exact .inr (Option.isSome_iff_exists.2 ⟨r, RegionTable.get?_of_evict after⟩)

/-- A region that is named has left the cache. -/
theorem left_of_named (h : Announces cache told fired cache') {notice : Invalidation}
    (among : notice ∈ fired) {id : RegionId} (named : notice.droppedRegion? = some id) :
    cache.HasRegion id ∧ ¬cache'.HasRegion id := by
  cases h with
  | regions _ left => exact (left id).1 (List.mem_filterMap.2 ⟨notice, among, named⟩)
  | all | store =>
    obtain rfl := List.mem_singleton.1 among
    cases named

/-- The cached regions afterwards. -/
theorem hasRegion_iff (h : Announces cache told fired cache') (id : RegionId) :
    cache'.HasRegion id ↔
      (told = some id ∨ cache.HasRegion id) ∧ ∀ notice ∈ fired, ¬notice.Strikes id := by
  have announces := h
  cases h with
  | regions named left distinct entered present =>
    constructor
    · intro after
      refine ⟨entered id after, fun notice among strikes => ?_⟩
      rcases strikes with all | one
      · rcases Invalidation.scope_of_droppedRegion? (named notice among) with scope | scope <;>
          rw [scope] at all <;> cases all
      · exact (announces.left_of_named among one).2 after
    · rintro ⟨told | before, unstruck⟩
      · exact present id told
      · refine Classical.byContradiction fun gone => ?_
        obtain ⟨notice, among, one⟩ := List.mem_filterMap.1 ((left id).2 ⟨before, gone⟩)
        exact unstruck notice among (.inr one)
  | all => simp [Cache.HasRegion, Invalidation.Strikes, Invalidation.ofAll]
  | store => simp [Cache.HasRegion, Invalidation.Strikes, Invalidation.ofStore,
      Invalidation.droppedRegion?]

/-- A notice about a region names one. -/
theorem region_named (h : Announces cache told fired cache') {notice : Invalidation}
    (among : notice ∈ fired) (about : notice.scope = .region ∨ notice.scope = .regionStore) :
    ∃ id, notice.region = some id ∧ notice.droppedRegion? = some id := by
  cases h with
  | regions named =>
    obtain ⟨id, one⟩ := Option.isSome_iff_exists.1 (named notice among)
    exact ⟨id, (Invalidation.droppedRegion?_of_scope about).symm.trans one, one⟩
  | all | store =>
    obtain rfl := List.mem_singleton.1 among
    rcases about with scope | scope <;> cases scope

/-- No region is named twice. -/
theorem nodup (h : Announces cache told fired cache') :
    (fired.filterMap Invalidation.droppedRegion?).Nodup := by
  cases h with
  | regions _ _ distinct => exact distinct
  | all | store => exact List.nodup_nil

/-- A notice about a store names one that has left the cache. -/
theorem store_named (h : Announces cache told fired cache') {notice : Invalidation}
    (among : notice ∈ fired) (about : notice.scope = .store) :
    ∃ id, notice.store = some id ∧ id ∈ cache.stores ∧ id ∉ cache'.stores := by
  cases h with
  | regions named =>
    rcases Invalidation.scope_of_droppedRegion? (named notice among) with scope | scope <;>
      rw [scope] at about <;> cases about
  | all =>
    obtain rfl := List.mem_singleton.1 among
    cases about
  | @store id present =>
    obtain rfl := List.mem_singleton.1 among
    exact ⟨id, rfl, present, by simp⟩

/-- A store leaves the cache with a notice. -/
theorem exists_notice (h : Announces cache told fired cache') {id : StoreId}
    (before : id ∈ cache.stores) (after : id ∉ cache'.stores) :
    ∃ notice ∈ fired, notice.scope = .store ∧ notice.store = some id := by
  cases h with
  | regions _ _ _ _ _ stores => exact absurd (stores id before) after
  | all => exact absurd before after
  | @store dropped =>
    by_cases same : dropped = id
    · subst same
      exact ⟨_, List.mem_singleton_self _, rfl, rfl⟩
    · refine absurd (Std.ExtTreeMap.mem_erase.2 ⟨?_, before⟩) after
      exact fun equal => same (Std.LawfulEqCmp.compare_eq_iff_eq.1 equal)

end Announces

/-! ## What a client tells -/

variable {ω : Type} {client client' : Client ω}

/-- What is done to a client is announced to its subscriber, if it has one. -/
structure Client.Tells (client : Client ω) (told : Option RegionId) (fired : List Invalidation)
    (client' : Client ω) : Prop where
  notices : client'.notices = client.notices ++ if client.subscribed then fired else []
  subscribed : client'.subscribed = client.subscribed
  announces : Announces client.cache told fired client'.cache

namespace Client

theorem tells_same (cache : client'.cache = client.cache)
    (notices : client'.notices = client.notices)
    (subscribed : client'.subscribed = client.subscribed) : client.Tells none [] client' where
  notices := by simp [notices]
  subscribed := subscribed
  announces := cache ▸ .silent (fun _ => Iff.rfl) nofun fun _ before => before

theorem mem_stores_iff (id : StoreId) :
    id ∈ client.cache.stores ↔ ∃ store, client.cache.stores[id]? = some store := by
  rw [Std.ExtTreeMap.mem_iff_isSome_getElem?, Option.isSome_iff_exists]

theorem Grows.tells (h : client.Grows client') : client.Tells none [] client' where
  notices := by simp [h.notices]
  subscribed := h.subscribed
  announces := by
    refine .silent (fun id => by rw [Cache.HasRegion, h.regions]; rfl) nofun fun id before => ?_
    obtain ⟨store, present⟩ := (mem_stores_iff id).1 before
    exact (mem_stores_iff id).2 ⟨store, h.stores present⟩

/-- An insertion announces the regions that it evicts. -/
theorem announces_insert (consistent : client.cache.regions.Consistent) (region : Region)
    {cache' : Cache} (stores : ∀ id ∈ client.cache.stores, id ∈ cache'.stores)
    (after : cache'.regions = (client.cache.regions.insert region).2) :
    Announces client.cache (some region.id)
      ((client.cache.regions.insert region).1.map fun region => .ofRegion region.id) cache' := by
  have evicted : Announces client.cache (some region.id)
      (((client.cache.regions.insert region).1.map Region.id).map .ofRegion) cache' := by
    refine .evicted .ofRegion (fun _ => rfl) ((consistent.erase region.id).nodup_evicted _)
      (fun _ => consistent.mem_evicted_insert region) ?_ ?_ stores after
    · intro id present
      obtain ⟨r, present⟩ := Option.isSome_iff_exists.1 present
      rcases RegionTable.get?_of_insert present with ⟨rfl, -⟩ | old
      · exact .inl rfl
      · exact .inr (Option.isSome_iff_exists.2 ⟨r, old⟩)
    · rintro _ ⟨⟩
      exact Option.isSome_iff_exists.2 ⟨region, RegionTable.get?_insert_self _ _⟩
  rwa [List.map_map] at evicted

end Client

theorem Lookup.Resolves.tells {result : Except RouteError Region}
    (consistent : client.cache.regions.Consistent) (h : Resolves client result client') :
    ∃ fired, client.Tells (result.toOption.map Region.id) fired client' := by
  cases h with
  | @cached region _ _ present =>
    have own := consistent.get?_id present
    refine ⟨[], by simp, rfl, .silent (fun _ => Iff.rfl) ?_ fun _ before => before⟩
    rintro _ ⟨⟩
    exact Option.isSome_iff_exists.2 ⟨region, own⟩
  | @fetched region evicted before regions grown _ _ inserted =>
    have insertion : client.cache.regions.insert region = (evicted, regions) := inserted
    refine ⟨_, ?_, ?_, Client.announces_insert consistent region ?_ ?_⟩
    · rw [Client.announceEvicted_eq, insertion]
      change before.notices ++ (if before.subscribed then _ else _) = _
      rw [grown.notices, grown.subscribed]
    · rw [Client.announceEvicted_eq]
      exact grown.subscribed
    · rw [Client.announceEvicted_eq]
      exact fun id stored => by
        obtain ⟨store, present⟩ := (Client.mem_stores_iff id).1 stored
        exact Std.ExtTreeMap.mem_iff_isSome_getElem?.2
          (Option.isSome_iff_exists.2 ⟨store, grown.stores present⟩)
    · rw [Client.announceEvicted_eq, insertion]
      rfl
  | failed grown => exact ⟨[], grown.tells⟩

namespace Client

variable (client)

theorem tells_updateRegion (consistent : client.cache.regions.Consistent)
    (expected : Option Region) (replacement : Region) : ∃ fired, client.Tells
      (if (client.updateRegion expected replacement).1 then some replacement.id else none) fired
      (client.updateRegion expected replacement).2 := by
  cases applied : (client.updateRegion expected replacement).1 with
  | false =>
    rw [client.updateRegion_snd_of_refused expected replacement applied]
    refine ⟨[], tells_same ?_ ?_ ?_⟩ <;> split <;> rfl
  | true =>
    rw [client.updateRegion_snd_of_applied expected replacement applied, announceEvicted_eq]
    exact ⟨_, rfl, rfl, announces_insert consistent replacement (fun _ before => before) rfl⟩

theorem tells_updateStore (old new : Store) :
    client.Tells none [] (client.updateStore old new).2 := by
  cases applied : (client.updateStore old new).1 with
  | false =>
    rw [client.updateStore_snd_of_refused old new applied]
    exact tells_same rfl rfl rfl
  | true =>
    have stores := client.getElem?_updateStore_of_applied old new applied
    have regions := client.regions_updateStore old new
    obtain ⟨_, eq⟩ := client.updateStore_snd_of_applied old new applied
    refine ⟨by rw [eq]; simp [record], by rw [eq]; rfl, .silent ?_ nofun ?_⟩
    · intro id
      rw [Cache.HasRegion, regions]
      rfl
    · intro id before
      rw [Std.ExtTreeMap.mem_iff_isSome_getElem?] at before ⊢
      rw [stores]
      split
      · rfl
      · exact before

theorem tells_invalidateRegion (region : Region) :
    ∃ fired, client.Tells none fired (client.invalidateRegion region).2 := by
  unfold invalidateRegion
  split
  · next held =>
    obtain ⟨cached, present, -⟩ := RegionTable.holds_iff.1 held
    rw [notify_eq]
    refine ⟨_, rfl, rfl, .dropped .ofRegion (fun _ => rfl) (List.nodup_singleton region.id) ?_⟩
    intro id same
    rw [List.mem_singleton.1 same]
    exact Option.isSome_iff_exists.2 ⟨cached, present⟩
  · exact ⟨[], tells_same rfl rfl rfl⟩

/-- The regions led from a store are cached, and listed once. -/
theorem nodup_ledBy (consistent : client.cache.regions.Consistent) (store : StoreId) :
    (client.ledBy store).Nodup :=
  consistent.nodup_values.sublist (List.filter_sublist.map Region.id)

theorem hasRegion_of_mem_ledBy (consistent : client.cache.regions.Consistent) {store : StoreId}
    {id : RegionId} (led : id ∈ client.ledBy store) : client.cache.HasRegion id := by
  obtain ⟨region, member, rfl⟩ := List.mem_map.1 led
  obtain ⟨_, present⟩ := RegionTable.mem_values.1 (List.mem_filter.1 member).1
  exact Option.isSome_iff_exists.2 ⟨region, consistent.get?_id present⟩

theorem tells_invalidateLedBy (consistent : client.cache.regions.Consistent) (store : Store) :
    ∃ fired, client.Tells none fired (client.invalidateLedBy store).2 := by
  unfold invalidateLedBy
  split
  · dsimp only
    rw [notifyAll_eq]
    exact ⟨_, rfl, rfl, .dropped (.ofLedRegion · store.id) (fun _ => rfl)
      (client.nodup_ledBy consistent store.id) fun _ => client.hasRegion_of_mem_ledBy consistent⟩
  · exact ⟨[], tells_same rfl rfl rfl⟩

theorem tells_invalidateStore (id : StoreId) :
    ∃ fired, client.Tells none fired (client.invalidateStore id).2 := by
  unfold invalidateStore
  split
  · exact ⟨[], tells_same rfl rfl rfl⟩
  · next store present =>
    dsimp only
    rw [notify_eq]
    exact ⟨[.ofStore id], rfl, rfl, .store ((mem_stores_iff id).2 ⟨store, present⟩)⟩

theorem tells_clear : client.Tells none [.ofAll] client.clear := by
  rw [clear, notify_eq]
  exact ⟨rfl, rfl, .all⟩

theorem tells_withQueue (queue : WatchQueue) : client.Tells none [] (client.withQueue queue) := by
  obtain ⟨_, eq, -⟩ := client.withQueue_eq queue
  rw [eq]
  exact tells_same rfl rfl rfl

end Client

/-! ## What an action tells -/

namespace Scene

variable [Authority ω] [Prober ω] (scene : Scene ω)

/-- The id of the region that an action hands out, or takes into the cache for
    its caller. -/
def told? : Action ω → Option RegionId
  | .regionByKey key budget =>
    ((Lookup.regionByKey key).outcome budget scene.client).1.1.toOption.map Region.id
  | .regionById id budget =>
    ((Lookup.regionById id).outcome budget scene.client).1.1.toOption.map Region.id
  | .updateRegion expected replacement =>
    if ((Operation.updateRegion expected replacement).run scene.client).1 then some replacement.id
    else none
  | _ => none

variable (consistent : scene.client.cache.regions.Consistent)
include consistent

theorem tells_stepRound (place : Nat) (round : Round) :
    ∃ fired, scene.client.Tells none fired (scene.stepRound place round).client := by
  have moved := round.moves scene.client
  rw [Scene.stepRound]
  generalize (round.step scene.client).2 = next at moved ⊢
  obtain ⟨round', client'⟩ := next
  cases moved with
  | settles | makes => exact ⟨[], Client.tells_same rfl rfl rfl⟩
  | evicts => exact scene.client.tells_invalidateLedBy consistent _
  | drops => exact scene.client.tells_invalidateStore _
  | installs => exact ⟨[], scene.client.tells_updateStore _ _⟩

/-- **One action.** Whatever it does to the cache, it announces. -/
theorem tells_play (action : Action ω) :
    ∃ fired, scene.client.Tells (scene.told? action) fired (scene.play action).client := by
  cases action with
  | regionByKey key budget => exact (Lookup.resolves_regionByKey key budget _).tells consistent
  | regionById id budget => exact (Lookup.resolves_regionById id budget _).tells consistent
  | storeById id budget => exact ⟨[], (Lookup.grows_storeById id budget _).tells⟩
  | updateRegion expected replacement =>
    rw [told?, Scene.play, Operation.run_updateRegion]
    exact scene.client.tells_updateRegion consistent expected replacement
  | updateStore old new => exact ⟨[], scene.client.tells_updateStore old new⟩
  | invalidateRegion region => exact scene.client.tells_invalidateRegion region
  | invalidateLedBy store => exact scene.client.tells_invalidateLedBy consistent store
  | invalidateStore id => exact scene.client.tells_invalidateStore id
  | clear => exact ⟨_, scene.client.tells_clear⟩
  | stepRound place =>
    rw [Scene.play]
    cases scene.rounds[place]? with
    | none => exact ⟨[], Client.tells_same rfl rfl rfl⟩
    | some round => exact scene.tells_stepRound consistent place round
  | finishRound place =>
    rw [Scene.play]
    cases scene.rounds[place]? with
    | none => exact ⟨[], Client.tells_same rfl rfl rfl⟩
    | some round =>
      rw [Option.elim_some, Scene.finishRound]
      split
      · exact ⟨[], scene.client.tells_withQueue _⟩
      · exact ⟨[], Client.tells_same rfl rfl rfl⟩
  | beginRound => exact ⟨[], scene.client.tells_withQueue _⟩
  | cachedRegion | cachedStore | makeRegion | switchLeader | makeStore | forwardThrough | reconnect
  | judge | schedule | takeUp | elsewhere => exact ⟨[], Client.tells_same rfl rfl rfl⟩

end Scene
end RegionRouting
