/-
  Region routing — what lookups do to a client.

  * `Client.Grows`: loading stores adds to the stores and the ledger, and
    leaves the regions and all that others have settled;
  * `Fetches.of_ok` and `Fetches.of_error`: a region that was fetched is new, valid
    and inserted; a fetch that failed leaves the regions as they were;
  * `Resolves` lists what a lookup of a region may come to, and
    `Resolves.get?_of_ok` says that it returns what is cached then.
-/
import RegionRouting.Proofs.Client
import RegionRouting.Proofs.Outcome
import RegionRouting.Proofs.RegionTable

namespace RegionRouting

variable {ω : Type}

/-- From one client to the other, stores and generations were added alone. -/
structure Client.Grows (client client' : Client ω) : Prop where
  regions : client'.cache.regions = client.cache.regions
  stores : ∀ {id : StoreId} {store : Store}, client.cache.stores[id]? = some store →
    client'.cache.stores[id]? = some store
  loaded : ∀ {id : StoreId} {store : Store}, client'.cache.stores[id]? = some store →
    client.cache.stores[id]? = some store ∨ client.ledger.issued ≤ store.generation
  direct : ∀ {id : StoreId} {store : Store}, client'.cache.stores[id]? = some store →
    client.cache.stores[id]? = some store ∨ store.proxy? = none
  issued : client.ledger.issued ≤ client'.ledger.issued
  unreachable : client'.ledger.unreachable = client.ledger.unreachable
  scheduler : client'.scheduler = client.scheduler
  hits : client'.metrics.regionHits = client.metrics.regionHits
  invalidated : client'.metrics.regionsInvalidated = client.metrics.regionsInvalidated
  notices : client'.notices = client.notices
  subscribed : client'.subscribed = client.subscribed

namespace Client.Grows

variable {client client₁ client₂ : Client ω}

/-- Where the cache stays, the ledger may still grow. -/
theorem of_cache (cache : client₁.cache = client.cache)
    (issued : client.ledger.issued ≤ client₁.ledger.issued)
    (unreachable : client₁.ledger.unreachable = client.ledger.unreachable)
    (scheduler : client₁.scheduler = client.scheduler)
    (hits : client₁.metrics.regionHits = client.metrics.regionHits)
    (invalidated : client₁.metrics.regionsInvalidated = client.metrics.regionsInvalidated)
    (notices : client₁.notices = client.notices)
    (subscribed : client₁.subscribed = client.subscribed) : client.Grows client₁ where
  regions := by rw [cache]
  stores present := cache ▸ present
  loaded present := .inl (cache ▸ present)
  direct present := .inl (cache ▸ present)
  issued := issued
  unreachable := unreachable
  scheduler := scheduler
  hits := hits
  invalidated := invalidated
  notices := notices
  subscribed := subscribed

theorem refl (client : Client ω) : client.Grows client :=
  of_cache rfl (Nat.le_refl _) rfl rfl rfl rfl rfl rfl

theorem trans (h : client.Grows client₁) (h' : client₁.Grows client₂) : client.Grows client₂ where
  regions := h'.regions.trans h.regions
  stores present := h'.stores (h.stores present)
  loaded present := by
    rcases h'.loaded present with before | new
    · exact h.loaded before
    · exact .inr (Nat.le_trans h.issued new)
  direct present := (h'.direct present).elim h.direct .inr
  issued := Nat.le_trans h.issued h'.issued
  unreachable := h'.unreachable.trans h.unreachable
  scheduler := h'.scheduler.trans h.scheduler
  hits := h'.hits.trans h.hits
  invalidated := h'.invalidated.trans h.invalidated
  notices := h'.notices.trans h.notices
  subscribed := h'.subscribed.trans h.subscribed

end Client.Grows

namespace Lookup

variable {client : Client ω} {budget : Backoffer}

theorem grows_heard {update : Update} {world : ω}
    (hits : (client.metrics.record update).regionHits = client.metrics.regionHits)
    (invalidated : (client.metrics.record update).regionsInvalidated =
      client.metrics.regionsInvalidated) : client.Grows (heard client update world) :=
  .of_cache rfl (Nat.le_refl _) rfl rfl hits invalidated rfl rfl

/-! ## Regions that are looked up -/

/-- What a lookup of a region may return, and do to the client: the region is
    cached, it is fetched, or the fetch fails. -/
inductive Resolves (client : Client ω) : Except RouteError Region → Client ω → Prop
  | cached {region : Region} {id : RegionId} {metrics : Metrics}
      (present : client.cache.regions.get? id = some region) :
      Resolves client (.ok region) { client with metrics }
  | fetched {region : Region} {evicted : List Region} {before : Client ω} {regions : RegionTable}
      (grown : client.Grows before) (new : client.ledger.issued ≤ region.generation)
      (valid : region.isValid)
      (inserted : client.cache.regions.insert region = (evicted, regions)) :
      Resolves client (.ok region) ((before.withRegions regions).announceEvicted evicted)
  | failed {error : RouteError} {client' : Client ω} (grown : client.Grows client') :
      Resolves client (.error error) client'

/-- A lookup that was counted as a miss may come to the same. -/
theorem Resolves.of_miss {result : Except RouteError Region} {client' : Client ω}
    (h : Resolves ((client.record .lookup).record .miss) result client') :
    Resolves client result client' := by
  have counted : client.Grows ((client.record .lookup).record .miss) :=
    .of_cache rfl (Nat.le_refl _) rfl rfl rfl rfl rfl rfl
  cases h with
  | cached present => exact .cached present
  | fetched grown new valid inserted =>
    exact .fetched (counted.trans grown) new valid inserted
  | failed grown => exact .failed (counted.trans grown)

/-- A lookup returns the region that is cached then. -/
theorem Resolves.get?_of_ok {region : Region} {client' : Client ω}
    (consistent : client.cache.regions.Consistent) (h : Resolves client (.ok region) client') :
    client'.cache.regions.get? region.id = some region := by
  generalize result : (Except.ok region : Except RouteError Region) = answer at h
  cases h with
  | cached present =>
    cases result
    exact consistent.get?_id present
  | @fetched _ _ before regions _ _ _ inserted =>
    cases result
    have table : regions = (client.cache.regions.insert region).2 := by rw [inserted]
    rw [Client.announceEvicted_eq, table]
    exact RegionTable.get?_insert_self _ _
  | failed => cases result

variable [Authority ω]

/-! ## Loading stores -/

theorem LoadsStore.grows {id : StoreId} {out : Outcome ω (Option Store)}
    (h : LoadsStore id budget client out) : client.Grows out.2 := by
  cases h with
  | cached => exact .refl client
  | failed => exact grows_heard rfl rfl
  | tombstoned => exact .of_cache rfl (Nat.le_succ _) rfl rfl rfl rfl rfl rfl
  | fetched absent =>
    refine ⟨rfl, fun {other store} present => ?_, fun {other store} present => ?_,
      fun {other store} present => ?_, Nat.le_succ _, rfl, rfl, rfl, rfl, rfl, rfl⟩
    · have distinct : id ≠ other := by
        rintro rfl
        cases absent.symm.trans present
      simpa [Client.withStores, Std.ExtTreeMap.getElem?_insert, distinct] using present
    · rw [Client.withStores, Std.ExtTreeMap.getElem?_insert] at present
      split at present
      · cases present
        exact .inr (Nat.le_refl _)
      · exact .inl present
    · rw [Client.withStores, Std.ExtTreeMap.getElem?_insert] at present
      split at present
      · cases present
        exact .inr rfl
      · exact .inl present

theorem LoadsStores.grows {peers : List Peer} {out : Outcome ω (List Store)}
    (h : LoadsStores peers budget client out) : client.Grows out.2 := by
  induction h with
  | nil => exact .refl _
  | cons first _ ih => exact first.grows.trans ih
  | first failure => exact failure.grows
  | later first _ ih => exact first.grows.trans ih

/-- A store that was loaded is cached then. -/
theorem LoadsStore.cached_of_ok {id : StoreId} {store : Store} {budget' : Backoffer}
    {client' : Client ω}
    (h : LoadsStore id budget client ((.ok (some store), budget'), client')) :
    client'.cache.stores[id]? = some store := by
  generalize result : (Except.ok (some store) : Except RouteError (Option Store)) = answer at h
  cases h with
  | cached present =>
    split at result
    · cases result
    · cases result
      exact present
  | failed => cases result
  | tombstoned => cases result
  | fetched =>
    cases result
    exact Std.ExtTreeMap.getElem?_insert_self

theorem grows_storeById (id : StoreId) (budget : Backoffer) (client : Client ω) :
    client.Grows ((storeById id).outcome budget client).2 := by
  rw [outcome_storeById_snd]
  exact (loadsStore id budget client).grows

/-! ## Fetching a region -/

/-- A region that was fetched is new, valid, and inserted into a table that was
    left as it was until then. -/
theorem Fetches.of_ok {query : RegionQuery} {region : Region} {evicted : List Region}
    {budget' : Backoffer} {client' : Client ω}
    (h : Fetches query budget client ((.ok (region, evicted), budget'), client')) :
    ∃ before regions, client.Grows before ∧ client.ledger.issued ≤ region.generation ∧
      region.isValid ∧ client.cache.regions.insert region = (evicted, regions) ∧
      client' = before.withRegions regions := by
  generalize result : (Except.ok (region, evicted) : Except RouteError _) = answer at h
  cases h with
  | failed | storeless | invalid => cases result
  | @cached descriptor leader budget₁ _ world stores before _ ledger _ regions _ loaded made valid
      inserted =>
    cases result
    cases made
    have grown : client.Grows before := (grows_heard rfl rfl).trans loaded.grows
    have issued : client.Grows { before with ledger := before.ledger.issue.2 } :=
      grown.trans (.of_cache rfl (Nat.le_succ _) rfl rfl rfl rfl rfl rfl)
    refine ⟨{ before with ledger := before.ledger.issue.2 }, regions, issued, grown.issued, valid,
      ?_, rfl⟩
    rw [← grown.regions]
    exact inserted

/-- A fetch that failed leaves the regions as they were. -/
theorem Fetches.of_error {query : RegionQuery} {error : RouteError} {budget' : Backoffer}
    {client' : Client ω} (h : Fetches query budget client ((.error error, budget'), client')) :
    client.Grows client' := by
  generalize result : (Except.error error : Except RouteError (Region × List Region)) = answer at h
  cases h with
  | failed => exact grows_heard rfl rfl
  | storeless _ failure => exact (grows_heard rfl rfl).trans failure.grows
  | invalid _ loaded made =>
    cases made
    exact ((grows_heard rfl rfl).trans loaded.grows).trans
      (.of_cache rfl (Nat.le_succ _) rfl rfl rfl rfl rfl rfl)
  | cached => cases result

/-! ## Lookups of regions -/

theorem Fetches.resolves {query : RegionQuery} {out : Outcome ω (Region × List Region)}
    (h : Fetches query budget client out) :
    Resolves client (announce out).1.1 (announce out).2 := by
  obtain ⟨⟨_ | ⟨region, evicted⟩, budget'⟩, client'⟩ := out
  · exact .failed h.of_error
  · obtain ⟨before, regions, grown, new, valid, inserted, rfl⟩ := h.of_ok
    exact .fetched grown new valid inserted

theorem resolves_regionById (id : RegionId) (budget : Backoffer) (client : Client ω) :
    Resolves client ((regionById id).outcome budget client).1.1
      ((regionById id).outcome budget client).2 := by
  cases h : client.cache.regions.get? id with
  | some region =>
    rw [outcome_regionById_hit budget h]
    exact .cached h
  | none =>
    rw [outcome_regionById_miss budget h]
    exact (fetches _ _ client).resolves

theorem resolves_regionByKey (key : Key) (budget : Backoffer) (client : Client ω) :
    Resolves client ((regionByKey key).outcome budget client).1.1
      ((regionByKey key).outcome budget client).2 := by
  cases h : client.cache.regions.find? key with
  | some region =>
    rw [outcome_regionByKey_hit budget h]
    obtain ⟨id, present⟩ := RegionTable.get?_of_find? h
    exact .cached present
  | none =>
    rw [outcome_regionByKey_miss budget h]
    exact (fetches _ _ _).resolves.of_miss

end Lookup
end RegionRouting
