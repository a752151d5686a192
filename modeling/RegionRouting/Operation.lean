/-
  Region routing — operations on a shared client.

  Apart from lookups, a client is used by the operations below.  Each takes
  the lock for its one look at the cache, and so happens without interruption;
  an operation that can be refused without a look takes no lock.
-/
import RegionRouting.Client

namespace RegionRouting

/-- What someone does to a client that others use as well. -/
abbrev Operation (ω α : Type) := Routine (Client ω) α

namespace Operation

variable {ω : Type}

/-! ## Reading -/

/-- The region cached under an id. -/
def cachedRegion (id : RegionId) : Operation ω (Option Region) :=
  .atomically fun client => (client.cache.regions.get? id, client)

/-- The store cached under an id. -/
def cachedStore (id : StoreId) : Operation ω (Option Store) :=
  .atomically fun client => (client.cache.stores[id]?, client)

/-- The number of cached regions. -/
def regionCount : Operation ω Nat :=
  .atomically fun client => (client.cache.regions.size, client)

/-- The number of cached stores. -/
def storeCount : Operation ω Nat :=
  .atomically fun client => (client.cache.stores.size, client)

/-! ## Updates -/

/-- Caches a region in the place of the value that is expected under its id;
    `none` expects that there is none. -/
def updateRegion (expected : Option Region) (replacement : Region) : Operation ω Bool :=
  let update := Routine.perform fun client : Client ω =>
    client.updateRegion expected replacement
  if replacement.isValid then update.exclusively else update

/-- Gives a cached region another leader, the first voter on a store.  Returns
    the new value, unless there is no such voter or the given value is not the
    cached one any more. -/
def updateLeader (region : Region) (store : StoreId) : Operation ω (Option Region) := do
  match ← Routine.perform (·.create (region.switchLeader store)) with
  | none => return none
  | some successor =>
    return if ← updateRegion (some region) successor then some successor else none

/-- Caches a store value in the place of an older one. -/
def updateStore (old new : Store) : Operation ω Bool :=
  .atomically (·.updateStore old new)

/-! ## Invalidation -/

/-- Drops a region value. -/
def invalidateRegion (region : Region) : Operation ω Bool :=
  .atomically (·.invalidateRegion region)

/-- Drops every region led from a store, and says how many there were. -/
def invalidateLedBy (store : Store) : Operation ω Nat :=
  .atomically (·.invalidateLedBy store)

/-- Drops the store cached under an id. -/
def invalidateStore (id : StoreId) : Operation ω Bool :=
  .atomically (·.invalidateStore id)

/-- Drops every region. -/
def clear : Operation ω Unit :=
  .atomically fun client => ((), client.clear)

end Operation
end RegionRouting
