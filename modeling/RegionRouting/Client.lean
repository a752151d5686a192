/-
  Region routing — the cache and its updates.

  A `Client` is a cache of regions and stores with what goes along with it:
  the ledger of generations, the counters, the scheduler of health checks, the
  subscriber of invalidations, and the world outside.

  Lookups only add to the cache.  Every other change is optimistic: it takes
  the value that the caller has seen, and is refused if the cache holds
  another one by now.  A value is the same if its generation is.

  * `updateRegion` and `updateStore` put one value in the place of another;
  * `invalidateRegion`, `invalidateLedBy`, `invalidateStore` and `clear` drop
    values, count them and notify the subscriber.
-/
import RegionRouting.Authority
import RegionRouting.Health.Queue
import RegionRouting.Invalidation
import RegionRouting.Metrics
import RegionRouting.RegionTable

namespace RegionRouting

/-- The cached regions, and the cached stores by the id they were asked for. -/
structure Cache where
  regions : RegionTable := {}
  stores : Std.ExtTreeMap StoreId Store := ∅

/-- Is this very value the one cached under its id? -/
def Cache.holdsStore (cache : Cache) (store : Store) : Bool :=
  cache.stores[store.id]?.any (·.isSame store)

/-- A cache and what goes along with it.  `notices` are the invalidations that
    the subscriber was told of, in order; without one there are none. -/
structure Client (ω : Type) where
  world : ω
  cache : Cache := {}
  ledger : Ledger := {}
  metrics : Metrics := {}
  scheduler : Scheduler := .unwatched
  subscribed : Bool := false
  notices : List Invalidation := []

namespace Client

variable {ω : Type}

/-! ## Counting and notifying -/

def record (client : Client ω) (update : Update) : Client ω :=
  { client with metrics := client.metrics.record update }

def notify (client : Client ω) (notice : Invalidation) : Client ω :=
  if client.subscribed then { client with notices := client.notices ++ [notice] } else client

def notifyAll (client : Client ω) (notices : List Invalidation) : Client ω :=
  notices.foldl notify client

/-- Counts and announces the regions that an insertion has evicted. -/
def announceEvicted (client : Client ω) (evicted : List Region) : Client ω :=
  if evicted.isEmpty then
    client
  else
    (client.record (.regionsInvalidated (.ofNat evicted.length))).notifyAll
      (evicted.map fun region => .ofRegion region.id)

/-! ## Parts of the state -/

/-- Acts on the world outside. -/
def onWorld {α : Type} (f : ω → α × ω) (client : Client ω) : α × Client ω :=
  let (result, world) := f client.world
  (result, { client with world })

/-- Makes a value that takes a generation from the ledger. -/
def create {α : Type} (make : Ledger → α × Ledger) (client : Client ω) : α × Client ω :=
  let (value, ledger) := make client.ledger
  (value, { client with ledger })

def withRegions (client : Client ω) (regions : RegionTable) : Client ω :=
  { client with cache := { client.cache with regions } }

def withStores (client : Client ω) (stores : Std.ExtTreeMap StoreId Store) : Client ω :=
  { client with cache := { client.cache with stores } }

/-! ## Regions -/

/-- Drops a region value if it is still the cached one. -/
def invalidateRegion (client : Client ω) (region : Region) : Bool × Client ω :=
  if client.cache.regions.holds region then
    (true, ((client.withRegions (client.cache.regions.erase region.id)).record
      (.regionsInvalidated 1)).notify (.ofRegion region.id))
  else
    (false, client)

/-- Is `expected` what is cached: the very value, or nothing at all? -/
def expects (cached expected : Option Region) : Bool :=
  match cached, expected with
  | some cached, some expected => cached.isSame expected
  | none, none => true
  | _, _ => false

/-- Caches a region in the place of the value that is expected under its id;
    `none` expects that there is none.  An invalid region is refused. -/
def updateRegion (client : Client ω) (expected : Option Region) (replacement : Region) :
    Bool × Client ω :=
  if !replacement.isValid then
    (false, client)
  else if expects (client.cache.regions.get? replacement.id) expected then
    let (evicted, regions) := client.cache.regions.insert replacement
    (true, ((client.record (.swap true)).withRegions regions).announceEvicted evicted)
  else
    (false, client.record (.swap false))

/-- The ids of the cached regions that are led from a store. -/
def ledBy (client : Client ω) (store : StoreId) : List RegionId :=
  (client.cache.regions.values.filter (·.leader.store == store)).map (·.id)

/-- Drops every region led from a store, if the store value is still the
    cached one, and says how many there were. -/
def invalidateLedBy (client : Client ω) (store : Store) : Nat × Client ω :=
  if client.cache.holdsStore store then
    let led := client.ledBy store.id
    let (_, regions) := client.cache.regions.evict led
    (led.length,
      ((client.withRegions regions).record (.regionsInvalidated (.ofNat led.length))).notifyAll
        (led.map (.ofLedRegion · store.id)))
  else
    (0, client)

/-- Drops every region. -/
def clear (client : Client ω) : Client ω :=
  let dropped := client.cache.regions.size
  ((client.withRegions {}).record (.regionsInvalidated (.ofNat dropped))).notify .ofAll

/-! ## Stores -/

/-- Drops the store cached under an id.  The value counts as reachable again. -/
def invalidateStore (client : Client ω) (id : StoreId) : Bool × Client ω :=
  match client.cache.stores[id]? with
  | none => (false, client)
  | some store =>
    let client := client.withStores (client.cache.stores.erase id)
    let client := { client with ledger := client.ledger.markReachable store }
    (true, (client.record .storeInvalidated).notify (.ofStore id))

/-- Caches a store value in the place of an older one, if that is still cached.
    The older value counts as reachable again.  A new value with a proxy is
    unreachable on its own, and is handed over for a health check. -/
def updateStore (client : Client ω) (old new : Store) : Bool × Client ω :=
  if client.cache.holdsStore old then
    let client := (client.record (.swap true)).withStores
      (client.cache.stores.insert new.id new)
    let ledger := client.ledger.markReachable old
    match new.proxy? with
    | none => (true, { client with ledger })
    | some _ =>
      (true, { client with
        ledger := ledger.markUnreachable new
        scheduler := client.scheduler.schedule new })
  else
    (false, client.record (.swap false))

end Client
end RegionRouting
