/-
  Region routing — what a run does to the cached stores.

  `StoreChange` lists what one action may make of the cached stores
  (`Effect.storeChange`): stores enter the cache when they are fetched, and
  when an update puts them in the place of others.
-/
import RegionRouting.Proofs.Effect

namespace RegionRouting

variable {ω : Type}

/-- What an action may make of the cached stores: nothing new; stores that were
    fetched are added; a value is put in, in an update that is applied; or one
    is dropped. -/
inductive StoreChange (client : Client ω) (update : Option (Store × Store)) :
    Std.ExtTreeMap StoreId Store → Prop
  | kept : StoreChange client update client.cache.stores
  | grown {client' : Client ω} (grown : client.Grows client') :
      StoreChange client update client'.cache.stores
  | swapped {old new : Store} (presented : update = some (old, new))
      (applied : (client.updateStore old new).1 = true) :
      StoreChange client update (client.cache.stores.insert new.id new)
  | dropped (id : StoreId) : StoreChange client update (client.cache.stores.erase id)

theorem StoreChange.of_eq {client : Client ω} {update : Option (Store × Store)}
    {stores : Std.ExtTreeMap StoreId Store} (same : stores = client.cache.stores) :
    StoreChange client update stores :=
  same ▸ .kept

theorem Effect.storeChange {scene : Scene ω} {action : Action ω} {client : Client ω}
    (h : Effect scene action client) :
    StoreChange scene.client (scene.storeUpdate? action) client.cache.stores := by
  cases h with
  | resolves resolved =>
    cases resolved with
    | cached => exact .kept
    | @fetched _ evicted before regions grown =>
      have same : ((before.withRegions regions).announceEvicted evicted).cache.stores =
          before.cache.stores := by rw [Client.announceEvicted_eq]; rfl
      exact same ▸ .grown grown
    | failed grown => exact .grown grown
  | loads grown => exact .grown grown
  | updatesRegion expected replacement =>
    exact .of_eq (scene.client.stores_updateRegion expected replacement)
  | @updatesStore _ old new update =>
    cases applied : (scene.client.updateStore old new).1 with
    | false =>
      rw [scene.client.updateStore_snd_of_refused old new applied]
      exact .kept
    | true =>
      obtain ⟨_, eq⟩ := scene.client.updateStore_snd_of_applied old new applied
      rw [eq]
      exact .swapped update applied
  | invalidatesRegion region => exact .of_eq (scene.client.stores_invalidateRegion region)
  | invalidatesLedBy store => exact .of_eq (scene.client.stores_invalidateLedBy store)
  | invalidatesStore id =>
    obtain ⟨_, _, _, eq⟩ := scene.client.invalidateStore_snd id
    rw [eq]
    exact .dropped id
  | clears => exact .of_eq scene.client.stores_clear
  | keeps same => exact .of_eq (congrArg Cache.stores same)

end RegionRouting
