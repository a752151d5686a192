/-
  Region routing — the regions led from a store.

  When a store fails, the regions that are led from it are dropped all at once, if
  the store value that the caller has seen is still the cached one.  Who leads a
  region is read off its cached value, and so follows each switch of its leader.

  * `Client.ledRegions`: the cached regions that are led from a store;
  * `Lookup.Misses`: a lookup of a key finds no cached region, and asks the
    authority;
  * `Client.DropsLed` says what is dropped and what is left, and `Run.led_dropped`
    puts this together for every moment of a run.
-/
import RegionRouting.Proofs.Coverage
import RegionRouting.Proofs.Notice

namespace RegionRouting

variable {ω : Type}

/-- No cached region is found for the key, and a lookup of it goes on to fetch one. -/
structure Lookup.Misses [Authority ω] (client : Client ω) (key : Key) : Prop where
  absent : client.cache.regions.find? key = none
  fetches : ∀ budget, (regionByKey key).outcome budget client =
    announce ((fetch (.byKey key)).outcome budget ((client.record .lookup).record .miss))

theorem Lookup.misses_of_absent [Authority ω] {client : Client ω} {key : Key}
    (absent : client.cache.regions.find? key = none) : Misses client key where
  absent := absent
  fetches budget := outcome_regionByKey_miss budget absent

theorem Cache.holdsStore_iff {cache : Cache} {store : Store} : cache.holdsStore store ↔
    ∃ cached, cache.stores[store.id]? = some cached ∧ cached.generation = store.generation := by
  unfold holdsStore
  cases cache.stores[store.id]? <;> simp [Store.isSame]

namespace Client

variable {client : Client ω}

/-! ## Who is led from a store -/

/-- The cached regions that are led from a store. -/
def ledRegions (client : Client ω) (store : StoreId) : List Region :=
  client.cache.regions.values.filter (·.leader.store == store)

theorem map_id_ledRegions (store : StoreId) :
    (client.ledRegions store).map Region.id = client.ledBy store := rfl

theorem mem_ledRegions (consistent : client.cache.regions.Consistent) {store : StoreId}
    {region : Region} : region ∈ client.ledRegions store ↔
      client.cache.regions.get? region.id = some region ∧ region.leader.store = store := by
  rw [ledRegions, List.mem_filter, RegionTable.mem_values, beq_iff_eq]
  refine and_congr_left fun _ => ⟨?_, fun cached => ⟨region.id, cached⟩⟩
  rintro ⟨id, cached⟩
  exact consistent.get?_id cached

/-- What is left once they were evicted. -/
theorem get?_evict_ledBy (consistent : client.cache.regions.Consistent) {store : StoreId}
    {id : RegionId} {region : Region} :
    (client.cache.regions.evict (client.ledBy store)).2.get? id = some region ↔
      client.cache.regions.get? id = some region ∧ region.leader.store ≠ store := by
  rw [RegionTable.get?_evict, Option.ite_none_left_eq_some, and_comm]
  refine and_congr_right fun cached => not_congr ?_
  rw [← map_id_ledRegions, List.mem_map]
  constructor
  · rintro ⟨other, led, rfl⟩
    obtain ⟨present, onStore⟩ := (mem_ledRegions consistent).1 led
    cases present.symm.trans cached
    exact onStore
  · intro led
    obtain rfl := consistent.id_of_get? cached
    exact ⟨region, (mem_ledRegions consistent).2 ⟨cached, led⟩, rfl⟩

/-! ## Dropping them -/

/-- The regions led from a store were dropped.  Those are the cached regions whose
    leader is on it; all others are left, and own their keys still, while the keys of
    the dropped ones are not found.  The dropped regions are counted and announced,
    each once and with the store that led it; nothing else has changed, the stores
    included. -/
structure DropsLed [Authority ω] (client : Client ω) (store : StoreId) (dropped : List Region)
    (client' : Client ω) : Prop where
  led (r : Region) : r ∈ dropped ↔
    client.cache.regions.get? r.id = some r ∧ r.leader.store = store
  once : (dropped.map Region.id).Nodup
  left (id : RegionId) (r : Region) : client'.cache.regions.get? id = some r ↔
    client.cache.regions.get? id = some r ∧ r.leader.store ≠ store
  owned (r : Region) : client'.cache.regions.get? r.id = some r → Lookup.Owns client' r
  missed (r : Region) (key : Key) : r ∈ dropped → r.range.contains key → Lookup.Misses client' key
  rest : client' = { client with
    cache := { client.cache with regions := client'.cache.regions }
    metrics := client.metrics.record (.regionsInvalidated (.ofNat dropped.length))
    notices := client.notices ++
      if client.subscribed then dropped.map fun r => .ofLedRegion r.id store else [] }

/-- A store value that is not cached is no reason to drop anything. -/
theorem invalidateLedBy_of_other {store : Store} (other : client.cache.holdsStore store = false) :
    client.invalidateLedBy store = (0, client) := by
  rw [invalidateLedBy, other]
  rfl

/-- A cached one is. -/
theorem invalidateLedBy_of_held {store : Store} (held : client.cache.holdsStore store) :
    client.invalidateLedBy store = ((client.ledRegions store.id).length, { client with
      cache := { client.cache with
        regions := (client.cache.regions.evict (client.ledBy store.id)).2 }
      metrics := client.metrics.record
        (.regionsInvalidated (.ofNat (client.ledRegions store.id).length))
      notices := client.notices ++ if client.subscribed
        then (client.ledRegions store.id).map fun r => .ofLedRegion r.id store.id else [] }) := by
  rw [invalidateLedBy, if_pos held]
  dsimp only
  rw [notifyAll_eq, ← map_id_ledRegions, List.length_map, List.map_map]
  rfl

theorem dropsLed_invalidateLedBy [Authority ω] (table : client.cache.regions.WellFormed)
    {store : Store} (held : client.cache.holdsStore store) :
    client.DropsLed store.id (client.ledRegions store.id) (client.invalidateLedBy store).2 := by
  have evicted : (client.cache.regions.evict (client.ledBy store.id)).2.WellFormed :=
    table.evict _
  rw [invalidateLedBy_of_held held]
  refine ⟨fun r => mem_ledRegions table.toConsistent, ?_,
    fun id r => get?_evict_ledBy table.toConsistent,
    fun r cached => Lookup.owns_of_cached evicted cached, fun r key dropped inside => ?_, rfl⟩
  · rw [map_id_ledRegions]
    exact client.nodup_ledBy table.toConsistent store.id
  · refine Lookup.misses_of_absent (Option.eq_none_iff_forall_ne_some.2 fun other found => ?_)
    -- a region that is left shares no key with one that was dropped
    obtain ⟨present, shared⟩ := evicted.find?_eq_some_iff.1 found
    obtain ⟨before, elsewhere⟩ := (get?_evict_ledBy table.toConsistent).1 present
    obtain ⟨cached, led⟩ := (mem_ledRegions table.toConsistent).1 dropped
    obtain rfl := table.eq_of_contains before cached shared inside
    exact elsewhere led

end Client

/-- **Regions led from a store.** At every moment of a run, and for every store value:
    if it is not the one cached under its id, to drop the regions led from it does
    nothing.  If it is, then the regions are dropped, and their number is
    returned. -/
theorem Run.led_dropped [Authority ω] [Prober ω] (run : Run ω) (i : Nat) :
    let client := (run.moment i).client
    ∀ store, let drop := (Operation.invalidateLedBy store).run client
      let seen := ∃ cached, client.cache.stores[store.id]? = some cached ∧
        cached.generation = store.generation
      (¬seen → drop = (0, client)) ∧
      (seen → ∃ dropped, drop.1 = dropped.length ∧ client.DropsLed store.id dropped drop.2) := by
  intro client store drop seen
  have guard : client.cache.holdsStore store ↔ seen := Cache.holdsStore_iff
  constructor
  · intro unseen
    exact Client.invalidateLedBy_of_other (by simpa using mt guard.1 unseen)
  · intro present
    have held := guard.2 present
    have count : drop.1 = (client.ledRegions store.id).length :=
      congrArg Prod.fst (Client.invalidateLedBy_of_held held)
    exact ⟨_, count, Client.dropsLed_invalidateLedBy (run.wellFormed_moment i) held⟩

end RegionRouting
