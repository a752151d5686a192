/-
  Region routing — what one action does to the counters.

  Beside the cache a client keeps counters, and the world may keep a transcript
  of the calls to the authority.  An action changes them in step:

  * `Metrics.recordCalls_eq`: what a lookup counts for the calls that it places;
  * `departed` is how many entries a map has lost; that is what is counted of the
    regions and stores that leave the cache, whatever removes them;
  * `Client.Books` says how the counters go up with an action, and
    `Scene.books_play` that every action keeps its books so.
-/
import RegionRouting.Proofs.Notice
import RegionRouting.Proofs.Tombstone

namespace RegionRouting

/-! ## Calls -/

namespace Call

def isByKey : Call → Bool
  | .region (.byKey _) => true
  | _ => false

def isStore : Call → Bool
  | .store _ => true
  | .region _ => false

/-- What is counted for a call of a lookup. -/
def update : Call → Update
  | .region _ => .regionFetch
  | .store _ => .storeFetch

@[simp] theorem isRegion_comp_store : isRegion ∘ store = fun _ => false := rfl

@[simp] theorem isByKey_comp_store : isByKey ∘ store = fun _ => false := rfl

end Call

/-- Counts the calls of a lookup. -/
def Metrics.recordCalls (m : Metrics) (calls : List Call) : Metrics :=
  calls.foldl (fun m call => m.record call.update) m

@[simp] theorem Metrics.recordCalls_nil (m : Metrics) : m.recordCalls [] = m := rfl

theorem Metrics.recordCalls_append (m : Metrics) (calls calls' : List Call) :
    m.recordCalls (calls ++ calls') = (m.recordCalls calls).recordCalls calls' :=
  List.foldl_append

theorem Metrics.recordCalls_eq (m : Metrics) (calls : List Call) : m.recordCalls calls =
    { m with
      authorityRegionFetches := m.authorityRegionFetches + .ofNat (calls.countP Call.isRegion)
      authorityStoreFetches := m.authorityStoreFetches + .ofNat (calls.countP Call.isStore) } := by
  induction calls generalizing m with
  | nil => simp [recordCalls]
  | cons call calls ih =>
    rw [recordCalls, List.foldl_cons, ← recordCalls, ih]
    cases call <;>
      simp [Call.update, record, Call.isRegion, Call.isStore, List.countP_cons, UInt64.ofNat_add,
        UInt64.add_assoc, UInt64.add_comm 1]

/-! ## Entries that are lost -/

section
variable {e : Entity} {α : Type} {before after : Std.ExtTreeMap (Ident e) α}

/-- How many keys a map has lost. -/
def departed (before after : Std.ExtTreeMap (Ident e) α) : Nat :=
  before.keys.countP fun id => after[id]?.isNone

/-- Any list without repetitions of the keys that were lost counts them. -/
theorem departed_eq_length {ids : List (Ident e)} (distinct : ids.Nodup)
    (left : ∀ id, id ∈ ids ↔ before[id]?.isSome ∧ after[id]? = none) :
    departed before after = ids.length := by
  have keys : before.keys.Nodup := Std.ExtTreeMap.nodup_keys
  rw [departed, List.countP_eq_length_filter]
  refine ((List.perm_ext_iff_of_nodup (keys.filter _) distinct).2 fun id => ?_).length_eq
  rw [left id, List.mem_filter, Std.ExtTreeMap.mem_keys, Std.ExtTreeMap.mem_iff_isSome_getElem?,
    Option.isNone_iff_eq_none]

theorem departed_eq_zero (kept : ∀ id : Ident e, before[id]?.isSome → after[id]?.isSome) :
    departed before after = 0 := by
  refine departed_eq_length List.nodup_nil fun id => iff_of_false List.not_mem_nil ?_
  rintro ⟨there, gone⟩
  simpa [gone] using kept id there

end

/-! ## What lookups count -/

variable {ω : Type}

/-- From one client to the other calls were placed, and counted. -/
structure Client.Asks (client : Client (Observed ω)) (placed : List Call)
    (client' : Client (Observed ω)) : Prop where
  calls : client'.world.calls = client.world.calls ++ placed
  metrics : client'.metrics = client.metrics.recordCalls placed

namespace Client.Asks

variable {client client₁ client₂ : Client (Observed ω)} {placed placed' : List Call}

theorem refl (client : Client (Observed ω)) : client.Asks [] client :=
  ⟨(List.append_nil _).symm, rfl⟩

theorem trans (h : client.Asks placed client₁) (h' : client₁.Asks placed' client₂) :
    client.Asks (placed ++ placed') client₂ where
  calls := by rw [h'.calls, h.calls, List.append_assoc]
  metrics := by rw [h'.metrics, h.metrics, Metrics.recordCalls_append]

end Client.Asks

namespace Lookup

variable [Authority ω] {budget : Backoffer} {client : Client (Observed ω)}

theorem asks_heard {α : Type} (call : Call) {attempt : Observed ω → Attempt α × Observed ω}
    {result : Except RouteError α × Backoffer} {world : Observed ω}
    (silent : ∀ world, (attempt world).2.calls = world.calls)
    (answer : (ask call attempt).outcome budget (client.record call.update) =
      (result, heard client call.update world)) :
    client.Asks [call] (heard client call.update world) :=
  ⟨calls_of_answer silent answer, rfl⟩

theorem LoadsStore.asks {id : StoreId} {out : Outcome (Observed ω) (Option Store)}
    (h : LoadsStore id budget client out) : ∃ ids : List StoreId,
      client.Asks (ids.map .store) out.2 := by
  cases h with
  | cached => exact ⟨[], .refl client⟩
  | failed _ answer => exact ⟨[id], asks_heard (.store id) (fun _ => rfl) answer⟩
  | tombstoned _ answer | fetched _ answer =>
    have asked := asks_heard (.store id) (fun _ => rfl) answer
    exact ⟨[id], asked.calls, asked.metrics⟩

theorem LoadsStores.asks {peers : List Peer} {out : Outcome (Observed ω) (List Store)}
    (h : LoadsStores peers budget client out) : ∃ ids : List StoreId,
      client.Asks (ids.map .store) out.2 := by
  induction h with
  | nil => exact ⟨[], .refl _⟩
  | cons first _ ih | later first _ ih =>
    obtain ⟨ids, now⟩ := first.asks
    obtain ⟨ids', rest⟩ := ih
    exact ⟨ids ++ ids', List.map_append ▸ now.trans rest⟩
  | first failure => exact failure.asks

/-- A fetch places a region call first, and then calls about stores alone. -/
theorem Fetches.asks {query : RegionQuery} {out : Outcome (Observed ω) (Region × List Region)}
    (h : Fetches query budget client out) : ∃ ids : List StoreId,
      client.Asks (.region query :: ids.map .store) out.2 := by
  cases h with
  | failed answer => exact ⟨[], asks_heard (.region query) (fun _ => rfl) answer⟩
  | storeless answer failure =>
    obtain ⟨ids, loaded⟩ := failure.asks
    exact ⟨ids, (asks_heard (.region query) (fun _ => rfl) answer).trans loaded⟩
  | invalid answer loaded | cached answer loaded =>
    obtain ⟨ids, loaded⟩ := loaded.asks
    have asked := (asks_heard (.region query) (fun _ => rfl) answer).trans loaded
    exact ⟨ids, asked.calls, asked.metrics⟩

end Lookup

/-! ## Regions and stores that leave -/

/-- How many regions, and how many stores, have left from one cache to the other. -/
def Cache.regionsLost (cache cache' : Cache) : Nat :=
  departed cache.regions.regions cache'.regions.regions

def Cache.storesLost (cache cache' : Cache) : Nat :=
  departed cache.stores cache'.stores

section
variable {cache cache' : Cache}

/-- Regions that have left are counted by a list of their ids. -/
theorem Cache.regionsLost_eq {ids : List RegionId} (distinct : ids.Nodup)
    (left : ∀ id, id ∈ ids ↔ cache.HasRegion id ∧ ¬cache'.HasRegion id) :
    cache.regionsLost cache' = ids.length := by
  refine departed_eq_length distinct fun id => (left id).trans (and_congr_right fun _ => ?_)
  exact Option.not_isSome_iff_eq_none

theorem Cache.regionsLost_of_eq (same : cache'.regions = cache.regions) :
    cache.regionsLost cache' = 0 :=
  departed_eq_zero fun _ there => same ▸ there

theorem Cache.storesLost_of_subset (kept : ∀ id ∈ cache.stores, id ∈ cache'.stores) :
    cache.storesLost cache' = 0 :=
  departed_eq_zero fun id there => Std.ExtTreeMap.mem_iff_isSome_getElem?.1 <|
    kept id (Std.ExtTreeMap.mem_iff_isSome_getElem?.2 there)

theorem Cache.storesLost_of_eq (same : cache'.stores = cache.stores) :
    cache.storesLost cache' = 0 :=
  storesLost_of_subset fun _ there => same ▸ there

/-- What an insertion evicts is what it loses; the older value of the same id is
    replaced, and not lost. -/
theorem Cache.regionsLost_insert (consistent : cache.regions.Consistent) (region : Region)
    (after : cache'.regions = (cache.regions.insert region).2) :
    cache.regionsLost cache' = (cache.regions.insert region).1.length := by
  rw [← List.length_map Region.id]
  refine regionsLost_eq ((consistent.erase region.id).nodup_evicted _) fun id => ?_
  rw [HasRegion, HasRegion, after, Option.not_isSome_iff_eq_none]
  exact consistent.mem_evicted_insert region

/-- Cached regions that are evicted are lost. -/
theorem Cache.regionsLost_evict {ids : List RegionId} (distinct : ids.Nodup)
    (cached : ∀ id ∈ ids, cache.HasRegion id)
    (after : cache'.regions = (cache.regions.evict ids).2) :
    cache.regionsLost cache' = ids.length := by
  refine regionsLost_eq distinct fun id => ?_
  rw [HasRegion, HasRegion, after, RegionTable.get?_evict]
  constructor
  · intro among
    exact ⟨cached id among, by simp [among]⟩
  · rintro ⟨there, gone⟩
    refine Classical.byContradiction fun other => gone ?_
    rwa [if_neg other]

/-- All that were cached are lost when the regions are cleared. -/
theorem Cache.regionsLost_clear (after : cache'.regions = {}) :
    cache.regionsLost cache' = cache.regions.size := by
  rw [regionsLost, after, RegionTable.size, ← Std.ExtTreeMap.length_keys]
  refine departed_eq_length Std.ExtTreeMap.nodup_keys fun id => ?_
  rw [Std.ExtTreeMap.mem_keys, Std.ExtTreeMap.mem_iff_isSome_getElem?]
  simp

/-- An update of a store loses none. -/
theorem Cache.storesLost_insert {store : Store}
    (after : cache'.stores = cache.stores.insert store.id store) : cache.storesLost cache' = 0 :=
  storesLost_of_subset fun _ there => after ▸ Std.ExtTreeMap.mem_insert.2 (.inr there)

theorem Cache.storesLost_erase {id : StoreId} (cached : id ∈ cache.stores)
    (after : cache'.stores = cache.stores.erase id) : cache.storesLost cache' = 1 := by
  rw [storesLost, after]
  refine departed_eq_length (List.nodup_singleton id) fun other => ?_
  rw [Std.ExtTreeMap.mem_iff_isSome_getElem?] at cached
  simp only [List.mem_singleton, Std.ExtTreeMap.getElem?_erase, Std.LawfulEqCmp.compare_eq_iff_eq]
  by_cases same : other = id
  · simpa [same] using cached
  · cases cache.stores[other]? <;> simp [same, Ne.symm same]

end

theorem Client.Grows.mem_stores {client client' : Client ω} (h : client.Grows client') :
    ∀ id ∈ client.cache.stores, id ∈ client'.cache.stores := by
  intro id there
  obtain ⟨store, present⟩ := (mem_stores_iff id).1 there
  exact (mem_stores_iff id).2 ⟨store, h.stores present⟩

theorem Client.Grows.storesLost {client client' : Client ω} (h : client.Grows client') :
    client.cache.storesLost client'.cache = 0 :=
  Cache.storesLost_of_subset h.mem_stores

/-! ## The books of a client -/

/-- How the counters go up when calls are placed, by lookups or by rounds of health
    checks, and when an update comes to a result. -/
structure Client.Books (client : Client (Observed ω)) (placed byLookups : List Call)
    (swap : Option Bool) (client' : Client (Observed ω)) : Prop where
  calls : client'.world.calls = client.world.calls ++ placed
  lookups : client'.metrics.regionLookups +
      (client.metrics.regionHits + client.metrics.regionMisses) =
    client.metrics.regionLookups + (client'.metrics.regionHits + client'.metrics.regionMisses)
  regionFetches : client'.metrics.authorityRegionFetches =
    client.metrics.authorityRegionFetches + .ofNat (placed.countP Call.isRegion)
  misses : client'.metrics.regionMisses =
    client.metrics.regionMisses + .ofNat (placed.countP Call.isByKey)
  storeFetches : client'.metrics.authorityStoreFetches =
    client.metrics.authorityStoreFetches + .ofNat (byLookups.countP Call.isStore)
  applied : client'.metrics.casApplied =
    client.metrics.casApplied + .ofNat ((swap.toList).count true)
  rejected : client'.metrics.casRejected =
    client.metrics.casRejected + .ofNat ((swap.toList).count false)
  storesInvalidated : client'.metrics.storesInvalidated =
    client.metrics.storesInvalidated + .ofNat (client.cache.storesLost client'.cache)
  regionsInvalidated : client'.metrics.regionsInvalidated =
    client.metrics.regionsInvalidated + .ofNat (client.cache.regionsLost client'.cache)

namespace Client

variable {client client' : Client (Observed ω)}

/-- Where no call is placed, the result of an update is counted, and what leaves
    the cache. -/
theorem books_of_metrics {swap : Option Bool} {stores regions : Nat}
    (calls : client'.world.calls = client.world.calls)
    (storesLost : client.cache.storesLost client'.cache = stores)
    (regionsLost : client.cache.regionsLost client'.cache = regions)
    (metrics : client'.metrics =
      { client.metrics with
        casApplied := client.metrics.casApplied + .ofNat (swap.toList.count true)
        casRejected := client.metrics.casRejected + .ofNat (swap.toList.count false)
        storesInvalidated := client.metrics.storesInvalidated + .ofNat stores
        regionsInvalidated := client.metrics.regionsInvalidated + .ofNat regions }) :
    client.Books [] [] swap client' := by
  constructor <;> simp [calls, metrics, storesLost, regionsLost]

/-- Nothing is counted where nothing leaves the cache. -/
theorem books_idle (calls : client'.world.calls = client.world.calls)
    (metrics : client'.metrics = client.metrics) (cache : client'.cache = client.cache) :
    client.Books [] [] none client' :=
  books_of_metrics calls (Cache.storesLost_of_eq (congrArg Cache.stores cache))
    (Cache.regionsLost_of_eq (congrArg Cache.regions cache)) (by simp [metrics])

/-- A call of a round is no fetch of a lookup. -/
theorem books_roundCall {id : StoreId}
    (calls : client'.world.calls = client.world.calls ++ [.store id])
    (metrics : client'.metrics = client.metrics) (cache : client'.cache = client.cache) :
    client.Books [.store id] [] none client' := by
  have stores := Cache.storesLost_of_eq (congrArg Cache.stores cache)
  have regions := Cache.regionsLost_of_eq (congrArg Cache.regions cache)
  constructor <;> simp [calls, metrics, stores, regions, Call.isRegion, Call.isByKey]

/-- A lookup of a store counts its calls. -/
theorem Grows.books (h : client.Grows client') {ids : List StoreId}
    (asked : client.Asks (ids.map .store) client') :
    client.Books (ids.map .store) (ids.map .store) none client' := by
  have regions := Cache.regionsLost_of_eq h.regions
  constructor <;>
    simp [asked.calls, asked.metrics, Metrics.recordCalls_eq, h.storesLost, regions]

end Client

namespace Lookup

variable [Authority ω] {budget : Backoffer} {client : Client (Observed ω)}

/-- What a fetch has placed, counted and evicted, once it is announced. -/
structure Fetched (client : Client (Observed ω)) (query : RegionQuery) (ids : List StoreId)
    (client' : Client (Observed ω)) : Prop where
  calls : client'.world.calls = client.world.calls ++ .region query :: ids.map .store
  metrics : client'.metrics = (client.metrics.recordCalls (.region query :: ids.map .store)).record
    (.regionsInvalidated (.ofNat (client.cache.regionsLost client'.cache)))
  stores : client.cache.storesLost client'.cache = 0

theorem Fetches.fetched {query : RegionQuery} {out : Outcome (Observed ω) (Region × List Region)}
    (consistent : client.cache.regions.Consistent) (h : Fetches query budget client out) :
    ∃ ids, Fetched client query ids (announce out).2 := by
  obtain ⟨ids, asked⟩ := h.asks
  obtain ⟨⟨_ | ⟨region, evicted⟩, budget'⟩, client'⟩ := out
  · have grown := h.of_error
    refine ⟨ids, asked.calls, ?_, grown.storesLost⟩
    rw [announce, Cache.regionsLost_of_eq grown.regions, asked.metrics]
    simp [Metrics.record]
  · obtain ⟨before, regions, grown, -, -, inserted, rfl⟩ := h.of_ok
    rw [announce, Client.announceEvicted_eq]
    refine ⟨ids, asked.calls, ?_, grown.storesLost⟩
    have lost : client.cache.regionsLost (before.withRegions regions).cache = evicted.length := by
      have after : (before.withRegions regions).cache.regions =
          (client.cache.regions.insert region).2 := by rw [inserted]; rfl
      rw [Cache.regionsLost_insert consistent region after, inserted]
    dsimp only
    rw [lost, ← asked.metrics]

omit [Authority ω] in
/-- A lookup of an id that is not cached counts its calls, and what it evicts. -/
theorem Fetched.books_byId {id : RegionId} {ids : List StoreId} {client' : Client (Observed ω)}
    (h : Fetched client (.byId id) ids client') :
    ∃ placed, client.Books placed placed none client' := by
  refine ⟨.region (.byId id) :: ids.map .store, ?_⟩
  constructor <;>
    simp [h.calls, h.metrics, h.stores, Metrics.recordCalls_eq, Metrics.record, List.countP_cons,
      Call.isRegion, Call.isByKey]

omit [Authority ω] in
/-- A lookup of a key that no cached region owns is counted as a miss besides. -/
theorem Fetched.books_byKey {key : Key} {ids : List StoreId} {client' : Client (Observed ω)}
    (h : Fetched ((client.record .lookup).record .miss) (.byKey key) ids client') :
    ∃ placed, client.Books placed placed none client' := by
  refine ⟨.region (.byKey key) :: ids.map .store, ?_⟩
  have calls : client'.world.calls = _ := h.calls
  have stores : client.cache.storesLost client'.cache = 0 := h.stores
  constructor
  case lookups =>
    simp only [h.metrics, Metrics.recordCalls_eq, Metrics.record, Client.record]
    grind
  all_goals
    simp [calls, stores, h.metrics, Metrics.recordCalls_eq, Metrics.record, Client.record,
      List.countP_cons, Call.isRegion, Call.isByKey]

omit [Authority ω] in
theorem books_hit : client.Books [] [] none ((client.record .lookup).record .hit) := by
  have stores : client.cache.storesLost client.cache = 0 := Cache.storesLost_of_eq rfl
  have regions : client.cache.regionsLost client.cache = 0 := Cache.regionsLost_of_eq rfl
  constructor
  case lookups =>
    simp only [Metrics.record, Client.record]
    grind
  all_goals simp [stores, regions, Metrics.record, Client.record]

theorem books_regionByKey (consistent : client.cache.regions.Consistent) (key : Key)
    (budget : Backoffer) : ∃ placed,
      client.Books placed placed none ((regionByKey key).outcome budget client).2 := by
  cases h : client.cache.regions.find? key with
  | some region =>
    rw [outcome_regionByKey_hit budget h]
    exact ⟨[], books_hit⟩
  | none =>
    rw [outcome_regionByKey_miss budget h]
    have counted : ((client.record .lookup).record .miss).cache.regions.Consistent := consistent
    obtain ⟨ids, fetched⟩ := (fetches (.byKey key) budget _).fetched counted
    exact fetched.books_byKey

theorem books_regionById (consistent : client.cache.regions.Consistent) (id : RegionId)
    (budget : Backoffer) : ∃ placed,
      client.Books placed placed none ((regionById id).outcome budget client).2 := by
  cases h : client.cache.regions.get? id with
  | some region =>
    rw [outcome_regionById_hit budget h]
    exact ⟨[], Client.books_idle rfl rfl rfl⟩
  | none =>
    rw [outcome_regionById_miss budget h]
    obtain ⟨ids, fetched⟩ := (fetches (.byId id) budget client).fetched consistent
    exact fetched.books_byId

theorem books_storeById (id : StoreId) (budget : Backoffer) : ∃ placed,
    client.Books placed placed none ((storeById id).outcome budget client).2 := by
  rw [outcome_storeById_snd]
  obtain ⟨ids, asked⟩ := (loadsStore id budget client).asks
  exact ⟨_, (loadsStore id budget client).grows.books asked⟩

end Lookup

/-! ## What updates and invalidations count -/

namespace Client

variable {client : Client (Observed ω)}

theorem books_refused : client.Books [] [] (some false) (client.record (.swap false)) := by
  refine books_of_metrics rfl (Cache.storesLost_of_eq rfl) (Cache.regionsLost_of_eq rfl) ?_
  simp [record, Metrics.record]

/-- An update of a region counts its result, unless the region is invalid. -/
theorem books_updateRegion (consistent : client.cache.regions.Consistent)
    (expected : Option Region) (replacement : Region) :
    client.Books [] [] (if replacement.isValid then
        some (client.updateRegion expected replacement).1 else none)
      (client.updateRegion expected replacement).2 := by
  cases applied : (client.updateRegion expected replacement).1 with
  | false =>
    rw [updateRegion_snd_of_refused client expected replacement applied]
    split
    · exact books_refused
    · exact books_idle rfl rfl rfl
  | true =>
    have valid := client.isValid_of_updateRegion expected replacement applied
    rw [updateRegion_snd_of_applied client expected replacement applied, announceEvicted_eq,
      if_pos valid]
    refine books_of_metrics rfl (Cache.storesLost_of_eq rfl)
      (Cache.regionsLost_insert consistent replacement rfl) ?_
    simp [record, Metrics.record, withRegions]

theorem books_updateStore (old new : Store) :
    client.Books [] [] (some (client.updateStore old new).1) (client.updateStore old new).2 := by
  cases applied : (client.updateStore old new).1 with
  | false =>
    rw [updateStore_snd_of_refused client old new applied]
    exact books_refused
  | true =>
    obtain ⟨_, eq⟩ := updateStore_snd_of_applied client old new applied
    rw [eq]
    refine books_of_metrics rfl (Cache.storesLost_insert rfl) (Cache.regionsLost_of_eq rfl) ?_
    simp [record, Metrics.record]

theorem books_invalidateRegion (region : Region) :
    client.Books [] [] none (client.invalidateRegion region).2 := by
  unfold invalidateRegion
  split
  · next held =>
    obtain ⟨cached, present, -⟩ := RegionTable.holds_iff.1 held
    have there : ∀ id ∈ [region.id], client.cache.HasRegion id := fun id same =>
      List.mem_singleton.1 same ▸ Option.isSome_iff_exists.2 ⟨cached, present⟩
    rw [notify_eq]
    refine books_of_metrics rfl (Cache.storesLost_of_eq rfl)
      (Cache.regionsLost_evict (List.nodup_singleton region.id) there rfl) ?_
    simp [record, Metrics.record, withRegions]
  · exact books_idle rfl rfl rfl

theorem books_invalidateLedBy (consistent : client.cache.regions.Consistent) (store : Store) :
    client.Books [] [] none (client.invalidateLedBy store).2 := by
  unfold invalidateLedBy
  split
  · dsimp only
    rw [notifyAll_eq]
    refine books_of_metrics rfl (Cache.storesLost_of_eq rfl)
      (Cache.regionsLost_evict (client.nodup_ledBy consistent store.id)
        (fun _ => client.hasRegion_of_mem_ledBy consistent) rfl) ?_
    simp [record, Metrics.record, withRegions]
  · exact books_idle rfl rfl rfl

theorem books_clear : client.Books [] [] none client.clear := by
  rw [clear, notify_eq]
  refine books_of_metrics rfl (Cache.storesLost_of_eq rfl) (Cache.regionsLost_clear rfl) ?_
  simp [record, Metrics.record, withRegions]

theorem books_invalidateStore (id : StoreId) :
    client.Books [] [] none (client.invalidateStore id).2 := by
  unfold invalidateStore
  split
  · exact books_idle rfl rfl rfl
  · next store present =>
    dsimp only
    rw [notify_eq]
    have there : id ∈ client.cache.stores := (mem_stores_iff id).2 ⟨store, present⟩
    refine books_of_metrics rfl (Cache.storesLost_erase there rfl) (Cache.regionsLost_of_eq rfl) ?_
    simp [record, Metrics.record, withStores]

theorem books_withQueue (queue : WatchQueue) :
    client.Books [] [] none (client.withQueue queue) := by
  obtain ⟨_, eq, -⟩ := client.withQueue_eq queue
  rw [eq]
  exact books_idle rfl rfl rfl

end Client

/-! ## What a round counts -/

namespace Round

variable [Authority ω] [Prober ω]

/-- What a step makes of the client. -/
theorem step_client (round : Round) (client : Client ω) : (round.step client).2.2 =
    match round.stage with
    | .examine => client
    | .call store => (client.onWorld (Authority.place (.store store.id))).2
    | .ask store _ => (client.onWorld (Authority.store store.id)).2
    | .evict store => (client.invalidateLedBy store).2
    | .drop store => (client.invalidateStore store.id).2
    | .probe store => { client with world := Prober.send store client.world }
    | .listen store => (round.listen store client).2
    | .install store direct => (client.updateStore store direct).2 := by
  obtain ⟨waiting, stage, kept, tally⟩ := round
  cases stage with
  | examine => cases waiting <;> rfl
  | ask store budget =>
    simp only [step, ask]
    split
    · rfl
    · rfl
    · split <;> rfl
  | _ => rfl

/-- The calls that a step places. -/
def placed (round : Round) : List Call :=
  match round.stage with
  | .call store => [.store store.id]
  | _ => []

/-- What the update of a step comes to, if it makes one. -/
def swap? (round : Round) (client : Client ω) : Option Bool :=
  round.stage.storeUpdate?.map fun (old, new) => (client.updateStore old new).1

theorem books_step {client : Client (Observed ω)} (consistent : client.cache.regions.Consistent)
    (round : Round) : client.Books round.placed [] (round.swap? client)
      (round.step client).2.2 := by
  rw [step_client]
  obtain ⟨waiting, stage, kept, tally⟩ := round
  cases stage with
  | call store => exact Client.books_roundCall rfl rfl rfl
  | evict store => exact Client.books_invalidateLedBy consistent store
  | drop store => exact Client.books_invalidateStore store.id
  | install store direct => exact Client.books_updateStore store direct
  | listen store =>
    dsimp only [listen]
    split <;> exact Client.books_idle rfl rfl rfl
  | examine | ask | probe => exact Client.books_idle rfl rfl rfl

end Round

/-! ## What an action counts -/

namespace Action

/-- Is it a step of a round? -/
def isRoundStep : Action ω → Bool
  | stepRound _ => true
  | _ => false

/-- The world outside writes nothing in the transcript. -/
def Discreet (action : Action (Observed ω)) : Prop :=
  ∀ f, action = .elsewhere f → ∀ world, (f world).calls = world.calls

end Action

namespace Scene

variable [Authority ω] [Prober ω]

/-- What the update of an action comes to, if it makes one; one that presents an
    invalid region is turned away at once. -/
def swap? (scene : Scene ω) : Action ω → Option Bool
  | .updateRegion expected replacement =>
    if replacement.isValid then
      some ((Operation.updateRegion expected replacement).run scene.client).1
    else none
  | .updateStore old new => some ((Operation.updateStore old new).run scene.client).1
  | .stepRound place => scene.rounds[place]?.bind (·.swap? scene.client)
  | _ => none

variable {scene : Scene (Observed ω)}

omit [Authority ω] [Prober ω] in
/-- The calls of an action that is no step of a round are those of a lookup. -/
theorem books_aside {action : Action (Observed ω)} {client' : Client (Observed ω)}
    (aside : action.isRoundStep = false)
    (books : ∃ placed, scene.client.Books placed placed (scene.swap? action) client') : ∃ placed,
      scene.client.Books placed (if action.isRoundStep then [] else placed)
        (scene.swap? action) client' := by
  rwa [aside]

/-- **One action.** It places some calls, for a round of health checks or for a
    lookup, and the counters go up as its books say. -/
theorem books_play (consistent : scene.client.cache.regions.Consistent)
    {action : Action (Observed ω)} (discreet : action.Discreet) : ∃ placed,
      scene.client.Books placed (if action.isRoundStep then [] else placed)
        (scene.swap? action) (scene.play action).client := by
  cases action with
  | regionByKey key budget =>
    exact books_aside rfl (Lookup.books_regionByKey consistent key budget)
  | regionById id budget =>
    exact books_aside rfl (Lookup.books_regionById consistent id budget)
  | storeById id budget => exact books_aside rfl (Lookup.books_storeById id budget)
  | updateRegion expected replacement =>
    rw [swap?, Scene.play, Operation.run_updateRegion]
    exact ⟨[], Client.books_updateRegion consistent expected replacement⟩
  | updateStore old new => exact ⟨[], Client.books_updateStore old new⟩
  | invalidateRegion region => exact ⟨[], Client.books_invalidateRegion region⟩
  | invalidateLedBy store => exact ⟨[], Client.books_invalidateLedBy consistent store⟩
  | invalidateStore id => exact ⟨[], Client.books_invalidateStore id⟩
  | clear => exact ⟨[], Client.books_clear⟩
  | stepRound place =>
    rw [Scene.play, swap?]
    cases scene.rounds[place]? with
    | none => exact ⟨[], Client.books_idle rfl rfl rfl⟩
    | some round => exact ⟨round.placed, round.books_step consistent⟩
  | finishRound place =>
    refine books_aside rfl ?_
    rw [Scene.play]
    cases scene.rounds[place]? with
    | none => exact ⟨[], Client.books_idle rfl rfl rfl⟩
    | some round =>
      rw [Option.elim_some, Scene.finishRound]
      split
      · exact ⟨[], Client.books_withQueue _⟩
      · exact ⟨[], Client.books_idle rfl rfl rfl⟩
  | beginRound => exact ⟨[], Client.books_withQueue _⟩
  | elsewhere f => exact ⟨[], Client.books_idle (discreet f rfl _) rfl rfl⟩
  | cachedRegion | cachedStore | makeRegion | switchLeader | makeStore | forwardThrough | reconnect
  | judge | schedule | takeUp => exact ⟨[], Client.books_idle rfl rfl rfl⟩

end Scene
end RegionRouting
