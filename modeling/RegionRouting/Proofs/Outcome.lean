/-
  Region routing — what a lookup may come to.

  `Lookup.outcome` is what a lookup answers that has the client to itself, with
  the budget and the client that it leaves.  The authority may answer what it
  likes; apart from its answers, the relations below leave nothing open.

  * `asked`: a call to the authority changes the world alone;
  * `LoadsStore`, `LoadsStores` and `Fetches` list the ways in which loading a
    store, loading the stores of some peers, and fetching a region may end;
  * `outcome_regionByKey_hit`, `outcome_regionByKey_miss` and their like for
    ids reduce the lookups to them.
-/
import RegionRouting.Lookup

namespace RegionRouting.Lookup

variable {ω α β : Type}

/-- What a lookup comes to that has the client to itself. -/
abbrev Outcome (ω α : Type) := (Except RouteError α × Backoffer) × Client ω

/-- Runs a lookup that has the client to itself. -/
def outcome (lookup : Lookup ω α) (budget : Backoffer) (client : Client ω) : Outcome ω α :=
  (lookup budget).run client

/-! ## Elementary steps -/

section
variable (budget : Backoffer) (client : Client ω)

@[simp] theorem outcome_pure (a : α) :
    outcome (pure a : Lookup ω α) budget client = ((.ok a, budget), client) := rfl

@[simp] theorem outcome_throw (error : RouteError) :
    outcome (throw error : Lookup ω α) budget client = ((.error error, budget), client) := rfl

@[simp] theorem outcome_read (view : Client ω → α) :
    (read view).outcome budget client = ((.ok (view client), budget), client) := rfl

@[simp] theorem outcome_change (f : Client ω → Client ω) :
    (change f).outcome budget client = ((.ok (), budget), f client) := rfl

@[simp] theorem outcome_create (make : Ledger → α × Ledger) :
    (create make).outcome budget client =
      ((.ok (client.create make).1, budget), (client.create make).2) := rfl

@[simp] theorem outcome_exclusively (lookup : Lookup ω α) :
    (exclusively lookup).outcome budget client = lookup.outcome budget client :=
  Routine.run_exclusively (lookup budget) client

/-- Goes on with an outcome, unless it is a failure. -/
def Outcome.andThen (out : Outcome ω α) (next : α → Lookup ω β) : Outcome ω β :=
  match out with
  | ((.ok a, budget), client) => (next a).outcome budget client
  | ((.error error, budget), client) => ((.error error, budget), client)

@[simp] theorem Outcome.andThen_ok (a : α) (next : α → Lookup ω β) :
    Outcome.andThen ((.ok a, budget), client) next = (next a).outcome budget client := rfl

@[simp] theorem Outcome.andThen_error (error : RouteError) (next : α → Lookup ω β) :
    Outcome.andThen ((.error error, budget), client) next =
      ((.error error, budget), client) := rfl

/-- One lookup after the other comes to what the second makes of the first. -/
theorem outcome_bind (lookup : Lookup ω α) (next : α → Lookup ω β) :
    (lookup >>= next).outcome budget client = (lookup.outcome budget client).andThen next := by
  refine (Routine.run_bind (lookup budget) _ client).trans ?_
  rcases h : (lookup budget).run client with ⟨⟨_ | a, budget'⟩, client'⟩ <;>
    simp only [outcome, h] <;> rfl

end

/-- Makes a failure of a store that was not found. -/
def found (id : StoreId) : Outcome ω (Option Store) → Outcome ω Store
  | ((.ok (some store), budget), client) => ((.ok store, budget), client)
  | ((.ok none, budget), client) => ((.error (.storeNotFound id), budget), client)
  | ((.error error, budget), client) => ((.error error, budget), client)

/-- Announces what a fetch has evicted, unless it failed. -/
def announce : Outcome ω (Region × List Region) → Outcome ω Region
  | ((.ok (region, evicted), budget), client) =>
    ((.ok region, budget), client.announceEvicted evicted)
  | ((.error error, budget), client) => ((.error error, budget), client)

theorem andThen_announced (out : Outcome ω (Region × List Region)) :
    out.andThen announced = announce out := by
  obtain ⟨⟨_ | ⟨region, evicted⟩, budget⟩, client⟩ := out <;> rfl

/-! ## Asking the authority -/

/-- Attempts at a call change the world alone. -/
theorem run_persist (attempt : ω → Attempt α × ω) (budget : Backoffer) (client : Client ω) :
    ∃ result world, (budget.persist (·.onWorld attempt)).run client =
      (result, { client with world }) := by
  induction budget using Backoffer.persist.induct generalizing client with
  | case1 budget ih =>
    rw [Backoffer.persist]
    simp only [Routine.run, Client.onWorld]
    cases (attempt client.world).1 with
    | answer result => exact ⟨_, _, rfl⟩
    | fault error =>
      dsimp only
      split
      · exact ⟨_, _, rfl⟩
      · next granted =>
        obtain ⟨result, world, run⟩ := ih _ _ _ granted _
        exact ⟨result, world, run⟩

variable [Authority ω]

/-- The client once a call was counted and has come back. -/
def heard (client : Client ω) (update : Update) (world : ω) : Client ω :=
  { client.record update with world }

/-- A counted call to the authority changes the counter and the world alone. -/
theorem asked (call : Call) (attempt : ω → Attempt α × ω) (update : Update) (budget : Backoffer)
    (client : Client ω) : ∃ result budget' world,
      (ask call attempt).outcome budget (client.record update) =
        ((result, budget'), heard client update world) := by
  let placed := (client.record update).onWorld (Authority.place call)
  obtain ⟨⟨result, budget'⟩, world, run⟩ := run_persist attempt budget placed.2
  exact ⟨result, budget', world, run⟩

/-! ## Loading stores -/

/-- The ways in which loading a store may end: it is cached; the authority
    fails; it reports the store as tombstoned; or the store is new to the cache. -/
inductive LoadsStore (id : StoreId) (budget : Backoffer) (client : Client ω) :
    Outcome ω (Option Store) → Prop
  | cached {store : Store} (present : client.cache.stores[id]? = some store) :
      LoadsStore id budget client
        ((.ok (if store.isTombstone then none else some store), budget), client)
  | failed {error : RouteError} {budget' : Backoffer} {world : ω}
      (absent : client.cache.stores[id]? = none)
      (answer : (askStore id).outcome budget (client.record .storeFetch) =
        ((.error error, budget'), heard client .storeFetch world)) :
      LoadsStore id budget client ((.error error, budget'), heard client .storeFetch world)
  | tombstoned {descriptor : StoreDescriptor} {budget' : Backoffer} {world : ω}
      (absent : client.cache.stores[id]? = none)
      (answer : (askStore id).outcome budget (client.record .storeFetch) =
        ((.ok descriptor, budget'), heard client .storeFetch world))
      (dead : descriptor.state = .tombstone) :
      LoadsStore id budget client ((.ok none, budget'),
        ((heard client .storeFetch world).create (Store.create descriptor)).2)
  | fetched {descriptor : StoreDescriptor} {budget' : Backoffer} {world : ω}
      (absent : client.cache.stores[id]? = none)
      (answer : (askStore id).outcome budget (client.record .storeFetch) =
        ((.ok descriptor, budget'), heard client .storeFetch world))
      (alive : descriptor.state ≠ .tombstone) :
      LoadsStore id budget client ((.ok (some (.direct descriptor client.ledger.issued)), budget'),
        (((heard client .storeFetch world).create (Store.create descriptor)).2.withStores
          (client.cache.stores.insert id (.direct descriptor client.ledger.issued))))

theorem loadsStore (id : StoreId) (budget : Backoffer) (client : Client ω) :
    LoadsStore id budget client ((loadStore id).outcome budget client) := by
  rw [loadStore, outcome_bind, outcome_read, Outcome.andThen_ok]
  cases present : client.cache.stores[id]? with
  | some store => exact .cached present
  | none =>
    dsimp only
    rw [outcome_bind, outcome_change, Outcome.andThen_ok, outcome_bind]
    obtain ⟨_ | descriptor, budget', world, answer⟩ :=
      asked (.store id) (Authority.store id) .storeFetch budget client
    · rw [askStore, answer]
      exact .failed present answer
    · rw [askStore, answer, Outcome.andThen_ok, outcome_bind, outcome_create, Outcome.andThen_ok]
      by_cases dead : descriptor.state = .tombstone
      · have tombstone : Store.isTombstone
            ((heard client .storeFetch world).create (Store.create descriptor)).1 = true :=
          beq_iff_eq.2 dead
        rw [if_pos tombstone]
        exact .tombstoned present answer dead
      · have standing : ¬Store.isTombstone
            ((heard client .storeFetch world).create (Store.create descriptor)).1 = true :=
          fun h => dead (beq_iff_eq.1 h)
        rw [if_neg standing]
        exact .fetched present answer dead

/-- The ways in which loading the stores of some peers may end.  What was loaded
    before a failure stays. -/
inductive LoadsStores : List Peer → Backoffer → Client ω → Outcome ω (List Store) → Prop
  | nil {budget : Backoffer} {client : Client ω} :
      LoadsStores [] budget client ((.ok [], budget), client)
  | cons {peer : Peer} {peers : List Peer} {budget budget₁ budget₂ : Backoffer}
      {client client₁ client₂ : Client ω} {found : Option Store} {stores : List Store}
      (first : LoadsStore peer.store budget client ((.ok found, budget₁), client₁))
      (rest : LoadsStores peers budget₁ client₁ ((.ok stores, budget₂), client₂)) :
      LoadsStores (peer :: peers) budget client
        ((.ok (found.toList ++ stores), budget₂), client₂)
  | first {peer : Peer} {peers : List Peer} {budget budget' : Backoffer}
      {client client' : Client ω} {error : RouteError}
      (failure : LoadsStore peer.store budget client ((.error error, budget'), client')) :
      LoadsStores (peer :: peers) budget client ((.error error, budget'), client')
  | later {peer : Peer} {peers : List Peer} {budget budget₁ budget₂ : Backoffer}
      {client client₁ client₂ : Client ω} {found : Option Store} {error : RouteError}
      (first : LoadsStore peer.store budget client ((.ok found, budget₁), client₁))
      (failure : LoadsStores peers budget₁ client₁ ((.error error, budget₂), client₂)) :
      LoadsStores (peer :: peers) budget client ((.error error, budget₂), client₂)

theorem loadsStores : ∀ (peers : List Peer) (budget : Backoffer) (client : Client ω),
    LoadsStores peers budget client ((loadStores peers).outcome budget client)
  | [], _, _ => .nil
  | peer :: peers, budget, client => by
    have first := loadsStore peer.store budget client
    rw [loadStores, outcome_bind]
    generalize (loadStore peer.store).outcome budget client = out at first ⊢
    obtain ⟨⟨_ | found, budget₁⟩, client₁⟩ := out
    · exact .first first
    · have rest := loadsStores peers budget₁ client₁
      rw [Outcome.andThen_ok, outcome_bind]
      generalize (loadStores peers).outcome budget₁ client₁ = out at rest ⊢
      obtain ⟨⟨_ | stores, budget₂⟩, client₂⟩ := out
      · exact .later first rest
      · exact .cons first rest

/-! ## Fetching a region -/

/-- The ways in which fetching a region may end: the authority fails; a store of
    a peer cannot be loaded; the region is invalid; or it is cached. -/
inductive Fetches (query : RegionQuery) (budget : Backoffer) (client : Client ω) :
    Outcome ω (Region × List Region) → Prop
  | failed {error : RouteError} {budget' : Backoffer} {world : ω}
      (answer : (askRegion query).outcome budget (client.record .regionFetch) =
        ((.error error, budget'), heard client .regionFetch world)) :
      Fetches query budget client ((.error error, budget'), heard client .regionFetch world)
  | storeless {descriptor : RegionDescriptor} {leader : Peer} {budget₁ budget₂ : Backoffer}
      {world : ω} {error : RouteError} {client' : Client ω}
      (answer : (askRegion query).outcome budget (client.record .regionFetch) =
        ((.ok (descriptor, leader), budget₁), heard client .regionFetch world))
      (failure : LoadsStores descriptor.peers budget₁ (heard client .regionFetch world)
        ((.error error, budget₂), client')) :
      Fetches query budget client ((.error error, budget₂), client')
  | invalid {descriptor : RegionDescriptor} {leader : Peer} {budget₁ budget₂ : Backoffer}
      {world : ω} {stores : List Store} {client' : Client ω} {region : Region} {ledger : Ledger}
      (answer : (askRegion query).outcome budget (client.record .regionFetch) =
        ((.ok (descriptor, leader), budget₁), heard client .regionFetch world))
      (loaded : LoadsStores descriptor.peers budget₁ (heard client .regionFetch world)
        ((.ok stores, budget₂), client'))
      (made : Region.create descriptor leader stores client'.ledger = (region, ledger))
      (invalid : region.isValid = false) :
      Fetches query budget client
        ((.error (.invalidRegion region.text), budget₂), { client' with ledger })
  | cached {descriptor : RegionDescriptor} {leader : Peer} {budget₁ budget₂ : Backoffer}
      {world : ω} {stores : List Store} {client' : Client ω} {region : Region} {ledger : Ledger}
      {evicted : List Region} {regions : RegionTable}
      (answer : (askRegion query).outcome budget (client.record .regionFetch) =
        ((.ok (descriptor, leader), budget₁), heard client .regionFetch world))
      (loaded : LoadsStores descriptor.peers budget₁ (heard client .regionFetch world)
        ((.ok stores, budget₂), client'))
      (made : Region.create descriptor leader stores client'.ledger = (region, ledger))
      (valid : region.isValid = true)
      (inserted : client'.cache.regions.insert region = (evicted, regions)) :
      Fetches query budget client
        ((.ok (region, evicted), budget₂), { client' with ledger }.withRegions regions)

theorem fetches (query : RegionQuery) (budget : Backoffer) (client : Client ω) :
    Fetches query budget client ((fetch query).outcome budget client) := by
  obtain ⟨_ | ⟨descriptor, leader⟩, budget₁, world, answer⟩ :=
    asked (.region query) (Authority.region query) .regionFetch budget client
  all_goals
    change (askRegion query).outcome _ _ = _ at answer
    rw [fetch, outcome_bind, outcome_change, Outcome.andThen_ok, outcome_bind, answer]
  · exact .failed answer
  · have loaded := loadsStores descriptor.peers budget₁ (heard client .regionFetch world)
    rw [Outcome.andThen_ok, outcome_bind]
    generalize (loadStores descriptor.peers).outcome budget₁ (heard client .regionFetch world) =
      out at loaded ⊢
    obtain ⟨⟨_ | stores, budget₂⟩, client'⟩ := out
    · exact .storeless answer loaded
    · rw [Outcome.andThen_ok, outcome_bind, outcome_create, Outcome.andThen_ok]
      rcases made : Region.create descriptor leader stores client'.ledger with ⟨region, ledger⟩
      have created : client'.create (Region.create descriptor leader stores) =
          (region, { client' with ledger }) := by
        rw [Client.create, made]
      rw [created]
      cases valid : region.isValid with
      | false => exact .invalid answer loaded made valid
      | true => exact .cached answer loaded made valid rfl

/-! ## Lookups of regions and stores -/

variable (key : Key) (id : RegionId) (budget : Backoffer) (client : Client ω) {region : Region}

theorem outcome_storeById (id : StoreId) :
    (storeById id).outcome budget client = found id ((loadStore id).outcome budget client) := by
  rw [storeById, outcome_bind, outcome_exclusively]
  obtain ⟨⟨_ | _ | store, budget'⟩, client'⟩ := (loadStore id).outcome budget client <;> rfl

/-- Whether a store was found or not, the client is left as it was loaded. -/
theorem outcome_storeById_snd (id : StoreId) :
    ((storeById id).outcome budget client).2 = ((loadStore id).outcome budget client).2 := by
  rw [outcome_storeById]
  obtain ⟨⟨_ | _ | store, budget'⟩, client'⟩ := (loadStore id).outcome budget client <;> rfl

theorem outcome_regionByKey :
    (regionByKey key).outcome budget client =
      announce ((settleKey key).outcome budget (client.record .lookup)) := by
  rw [regionByKey, outcome_bind, outcome_change, Outcome.andThen_ok, outcome_bind,
    outcome_exclusively, andThen_announced]

theorem outcome_regionById :
    (regionById id).outcome budget client = announce ((settleId id).outcome budget client) := by
  rw [regionById, outcome_bind, outcome_exclusively, andThen_announced]

variable {key id client}

/-- A key that a cached region owns is a hit. -/
theorem outcome_regionByKey_hit (h : client.cache.regions.find? key = some region) :
    (regionByKey key).outcome budget client =
      ((.ok region, budget), (client.record .lookup).record .hit) := by
  have found : (client.record .lookup).cache.regions.find? key = some region := h
  rw [outcome_regionByKey, settleKey, outcome_bind, outcome_read, Outcome.andThen_ok, found]
  rfl

/-- A key that no cached region owns is a miss. -/
theorem outcome_regionByKey_miss (h : client.cache.regions.find? key = none) :
    (regionByKey key).outcome budget client =
      announce ((fetch (.byKey key)).outcome budget ((client.record .lookup).record .miss)) := by
  have absent : (client.record .lookup).cache.regions.find? key = none := h
  rw [outcome_regionByKey, settleKey, outcome_bind, outcome_read, Outcome.andThen_ok, absent]
  rfl

theorem outcome_regionById_hit (h : client.cache.regions.get? id = some region) :
    (regionById id).outcome budget client = ((.ok region, budget), client) := by
  rw [outcome_regionById, settleId, outcome_bind, outcome_read, Outcome.andThen_ok, h]
  rfl

theorem outcome_regionById_miss (h : client.cache.regions.get? id = none) :
    (regionById id).outcome budget client =
      announce ((fetch (.byId id)).outcome budget client) := by
  rw [outcome_regionById, settleId, outcome_bind, outcome_read, Outcome.andThen_ok, h]

end RegionRouting.Lookup
