/-
  Region routing — lookups.

  A lookup answers from the cache, or asks the authority and adds the answer
  to the cache.  It spends the retry budget that it is given, over however
  many calls it makes, and it may fail.

  * `regionByKey`, `regionById` and `storeById` resolve a key or an id.  They
    hold the lock on the client from the decision between hit and miss to the
    insertion, while the authority is asked too, so that a second lookup of
    the same key finds what the first one has fetched;
  * `fetch` is what they have in common when a region is missing: the region
    is fetched, the stores of its peers are loaded one by one, and only a
    valid region enters the cache;
  * `route` resolves a key to a region and to the store that a request of a
    kind goes to.  A region that no such store backs is dropped, since its
    peers are likely out of date.

  There is no clock here that runs while an authority answers.  So a lookup counts
  a miss, but not how long it took: `Update.missLatency` is for those who measure it.
-/
import RegionRouting.Operation

namespace RegionRouting

/-- A computation that acts on a client which it shares with others, spends a
    retry budget and may fail.  What it has done to the client and to the
    budget stays when it fails. -/
abbrev Lookup (ω : Type) := ExceptT RouteError (StateT Backoffer (Routine (Client ω)))

namespace Lookup

variable {ω α : Type}

/-! ## Elementary steps -/

/-- Does what does not depend on the budget, and does not fail. -/
def ofRoutine (routine : Routine (Client ω) α) : Lookup ω α :=
  fun budget => routine.bind fun result => .done (.ok result, budget)

/-- Reads from the client. -/
def read (view : Client ω → α) : Lookup ω α :=
  ofRoutine (.read view)

/-- Changes the client. -/
def change (f : Client ω → Client ω) : Lookup ω Unit :=
  ofRoutine (.change f)

/-- Makes a value that takes a generation from the ledger. -/
def create (make : Ledger → α × Ledger) : Lookup ω α :=
  ofRoutine (.perform (·.create make))

/-- Holds the lock during a lookup, whether it fails or not. -/
def exclusively (lookup : Lookup ω α) : Lookup ω α :=
  fun budget => Routine.exclusively (lookup budget)

variable [Authority ω]

/-- Calls the authority, and retries as long as the budget pays for it. -/
def ask (call : Call) (attempt : ω → Attempt α × ω) : Lookup ω α :=
  fun budget => do
    Routine.pause (← Routine.perform (·.onWorld (Authority.place call)))
    budget.persist (·.onWorld attempt)

/-- Asks the authority about a region. -/
def askRegion (query : RegionQuery) : Lookup ω (RegionDescriptor × Peer) :=
  ask (.region query) (Authority.region query)

/-- Asks the authority about a store. -/
def askStore (id : StoreId) : Lookup ω StoreDescriptor :=
  ask (.store id) (Authority.store id)

/-! ## Stores -/

/-- The store of an id, from the cache or else from the authority.  There is
    none if the store is tombstoned, and such an answer is not cached. -/
def loadStore (id : StoreId) : Lookup ω (Option Store) := do
  match ← read (·.cache.stores[id]?) with
  | some store => return if store.isTombstone then none else some store
  | none =>
    change (·.record .storeFetch)
    let descriptor ← askStore id
    let store ← create (Store.create descriptor)
    if store.isTombstone then
      return none
    change fun client => client.withStores (client.cache.stores.insert id store)
    return some store

/-- The stores of a list of peers, without those that are tombstoned. -/
def loadStores : List Peer → Lookup ω (List Store)
  | [] => return []
  | peer :: peers => do
    let found ← loadStore peer.store
    return found.toList ++ (← loadStores peers)

/-- The store of an id.  A tombstoned store is not found. -/
def storeById (id : StoreId) : Lookup ω Store := do
  match ← exclusively (loadStore id) with
  | some store => return store
  | none => throw (.storeNotFound id)

/-- The store of an id, where not to find it is no failure. -/
def findStore (id : StoreId) : Lookup ω (Option Store) :=
  tryCatch (some <$> storeById id) fun
    | .storeNotFound _ | .authority (.storeNotFound _) => return none
    | error => throw error

/-! ## Regions -/

/-- Fetches a region and caches it, if it is valid.  Returns it with the
    regions that it has evicted. -/
def fetch (query : RegionQuery) : Lookup ω (Region × List Region) := do
  change (·.record .regionFetch)
  let (descriptor, leader) ← askRegion query
  let stores ← loadStores descriptor.peers
  let region ← create (Region.create descriptor leader stores)
  if !region.isValid then
    throw (.invalidRegion region.text)
  let (evicted, regions) ← read (·.cache.regions.insert region)
  change (·.withRegions regions)
  return (region, evicted)

/-- The region that owns a key, with the regions that it has evicted. -/
def settleKey (key : Key) : Lookup ω (Region × List Region) := do
  match ← read (·.cache.regions.find? key) with
  | some region =>
    change (·.record .hit)
    return (region, [])
  | none =>
    change (·.record .miss)
    fetch (.byKey key)

/-- The region of an id, with the regions that it has evicted. -/
def settleId (id : RegionId) : Lookup ω (Region × List Region) := do
  match ← read (·.cache.regions.get? id) with
  | some region => return (region, [])
  | none => fetch (.byId id)

/-- Announces the regions that one has evicted. -/
def announced (settled : Region × List Region) : Lookup ω Region := do
  change (·.announceEvicted settled.2)
  return settled.1

/-- The region that owns a key.  Of a miss that ends well a caller may record
    how long it took (`Update.missLatency`) once the lock is released and before
    the evicted regions are announced; the lookup itself does not time it. -/
def regionByKey (key : Key) : Lookup ω Region := do
  change (·.record .lookup)
  announced (← exclusively (settleKey key))

/-- The region of an id.  A region that was merged away is not found, though
    another owns its keys by now. -/
def regionById (id : RegionId) : Lookup ω Region := do
  announced (← exclusively (settleId id))

/-! ## Routes -/

/-- The region that owns a key; the errors name the key and the kind. -/
def regionToServe (key : Key) (kind : StoreKind) : Lookup ω Region :=
  tryCatch (regionByKey key) fun
    | .authority .regionNotFound => throw (.regionNotFound key.text kind)
    | .invalidRegion region => throw (.invalidRegionForKey key.text kind region)
    | error => throw error

/-- The store of the first peer whose store carries a label. -/
def findLabelled (label : StoreLabel) : List Peer → Lookup ω (Option Store)
  | [] => return none
  | peer :: peers => do
    match ← findStore peer.store with
    | none => findLabelled label peers
    | some store => if store.hasLabel label then return some store else findLabelled label peers

/-- The store of a region that serves a kind of request: that of the current
    replica, or that of the first learner with the label of the kind. -/
def servingStore (region : Region) (kind : StoreKind) (selector : ReplicaSelector) :
    Lookup ω (Option Store) :=
  match kind.label with
  | none => findStore (region.currentReplica selector).store
  | some label => findLabelled label region.learners

/-- The region that owns a key, and the store that serves a kind of request on
    it.  A region without such a store is dropped from the cache. -/
def route (key : Key) (kind : StoreKind) (selector : ReplicaSelector) :
    Lookup ω (Region × Store) := do
  let region ← regionToServe key kind
  match ← servingStore region kind selector with
  | some store => return (region, store)
  | none =>
    let _ ← ofRoutine (Operation.invalidateRegion region)
    throw (.noStoreForKind region.id kind)

end Lookup
end RegionRouting
