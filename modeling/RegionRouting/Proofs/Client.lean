/-
  Region routing — what updates and invalidations do to a client.

  * `reaches_markReachable` and `reaches_markUnreachable` say whom a judgement
    is about;
  * `notifyAll_eq` and `announceEvicted_eq`: notices and counts touch nothing
    else;
  * `updateRegion_fst`, `updateStore_fst` and `invalidateRegion_fst` say when
    an optimistic change is applied, and `cache_updateRegion` and its like what
    the cache is then;
  * `run_updateRegion` and its like: an operation that has the client to itself
    does what the client does.
-/
import RegionRouting.Operation

namespace RegionRouting

variable {ω : Type}

/-! ## Judgements -/

namespace Ledger

variable (ledger : Ledger) (store other : Store)

@[simp] theorem reaches_markReachable :
    (ledger.markReachable store).reaches other = (store.isSame other || ledger.reaches other) := by
  simp only [reaches, markReachable, Std.ExtTreeSet.contains_erase, Std.compare_beq_eq_beq,
    Store.isSame, bne, Bool.not_and, Bool.not_not]

@[simp] theorem reaches_markUnreachable :
    (ledger.markUnreachable store).reaches other =
      (!store.isSame other && ledger.reaches other) := by
  simp only [reaches, markUnreachable, Std.ExtTreeSet.contains_insert, Std.compare_beq_eq_beq,
    Store.isSame, Bool.not_or]

end Ledger

namespace Client

variable (client : Client ω)

/-! ## Counting and notifying -/

theorem notify_eq (notice : Invalidation) : client.notify notice =
    { client with notices := client.notices ++ if client.subscribed then [notice] else [] } := by
  unfold notify
  split
  · rfl
  · rw [List.append_nil]

theorem notifyAll_eq (notices : List Invalidation) : client.notifyAll notices =
    { client with notices := client.notices ++ if client.subscribed then notices else [] } := by
  induction notices generalizing client with
  | nil => simp [notifyAll]
  | cons notice notices ih =>
    rw [notifyAll, List.foldl_cons, ← notifyAll, ih, notify_eq]
    split <;> simp

theorem announceEvicted_eq (evicted : List Region) : client.announceEvicted evicted =
    { client with
      metrics := client.metrics.record (.regionsInvalidated (.ofNat evicted.length))
      notices := client.notices ++
        if client.subscribed then evicted.map fun region => .ofRegion region.id else [] } := by
  unfold announceEvicted
  split
  · next empty =>
    rw [List.isEmpty_iff.1 empty]
    simp [Metrics.record]
  · rw [notifyAll_eq]
    rfl

/-! ## Updates -/

theorem expects_some_iff {cached : Option Region} {expected : Region} :
    expects cached (some expected) ↔ ∃ region, cached = some region ∧ region.isSame expected := by
  cases cached <;> simp [expects]

section
variable (expected : Option Region) (replacement : Region)

theorem updateRegion_fst : (client.updateRegion expected replacement).1 =
    (replacement.isValid &&
      expects (client.cache.regions.get? replacement.id) expected) := by
  unfold updateRegion
  cases replacement.isValid
  · rfl
  · cases expects (client.cache.regions.get? replacement.id) expected <;> simp

/-- An update that is applied inserts the region. -/
theorem updateRegion_snd_of_applied (h : (client.updateRegion expected replacement).1 = true) :
    (client.updateRegion expected replacement).2 =
      ((client.record (.swap true)).withRegions (client.cache.regions.insert replacement).2
        ).announceEvicted (client.cache.regions.insert replacement).1 := by
  rw [updateRegion_fst, Bool.and_eq_true] at h
  simp [updateRegion, h]

theorem isValid_of_updateRegion (h : (client.updateRegion expected replacement).1 = true) :
    replacement.isValid := by
  rw [updateRegion_fst, Bool.and_eq_true] at h
  exact h.1

/-- An update that is refused leaves the counters changed at most. -/
theorem updateRegion_snd_of_refused (h : (client.updateRegion expected replacement).1 = false) :
    (client.updateRegion expected replacement).2 =
      if replacement.isValid then client.record (.swap false) else client := by
  rw [updateRegion_fst, Bool.and_eq_false_iff] at h
  unfold updateRegion
  cases valid : replacement.isValid <;> simp_all

theorem updateRegion_snd : ∃ metrics notices, (client.updateRegion expected replacement).2 =
    { client with
      cache := { client.cache with
        regions := if (client.updateRegion expected replacement).1
          then (client.cache.regions.insert replacement).2 else client.cache.regions }
      metrics, notices } := by
  cases h : (client.updateRegion expected replacement).1
  · rw [updateRegion_snd_of_refused client expected replacement h]
    cases replacement.isValid <;> exact ⟨_, _, rfl⟩
  · rw [updateRegion_snd_of_applied client expected replacement h, announceEvicted_eq]
    exact ⟨_, _, rfl⟩

end

section
variable (old new : Store)

theorem updateStore_fst : (client.updateStore old new).1 = client.cache.holdsStore old := by
  unfold updateStore
  split
  · next held =>
    rw [held]
    split <;> rfl
  · next other => exact (Bool.not_eq_true _ ▸ other).symm

/-- An update that is refused is counted, and nothing else. -/
theorem updateStore_snd_of_refused (h : (client.updateStore old new).1 = false) :
    (client.updateStore old new).2 = client.record (.swap false) := by
  rw [updateStore_fst] at h
  rw [updateStore, h]
  rfl

/-- An update that is applied puts the new value under the id of the new one. -/
theorem updateStore_snd_of_applied (h : (client.updateStore old new).1 = true) :
    ∃ unreachable, (client.updateStore old new).2 =
      { client.record (.swap true) with
        cache := { client.cache with stores := client.cache.stores.insert new.id new }
        ledger := { client.ledger with unreachable }
        scheduler :=
          if new.proxy?.isSome then client.scheduler.schedule new else client.scheduler } := by
  rw [updateStore_fst] at h
  rw [updateStore, if_pos h]
  cases new.proxy? with
  | none => exact ⟨_, rfl⟩
  | some proxy => exact ⟨_, rfl⟩

/-- The old value counts as reachable then, and the new one does not if it has a
    proxy. -/
theorem ledger_updateStore_of_applied (h : (client.updateStore old new).1 = true) :
    (client.updateStore old new).2.ledger =
      if new.proxy?.isSome then (client.ledger.markReachable old).markUnreachable new
      else client.ledger.markReachable old := by
  rw [updateStore_fst] at h
  rw [updateStore, if_pos h]
  cases new.proxy? <;> rfl

/-- The new value is under its own id then, and nothing else is changed. -/
theorem getElem?_updateStore_of_applied (h : (client.updateStore old new).1 = true)
    (id : StoreId) : (client.updateStore old new).2.cache.stores[id]? =
      if id = new.id then some new else client.cache.stores[id]? := by
  obtain ⟨_, eq⟩ := updateStore_snd_of_applied client old new h
  rw [eq]
  simp only [Std.ExtTreeMap.getElem?_insert, Std.LawfulEqCmp.compare_eq_iff_eq,
    eq_comm (a := new.id)]

@[simp] theorem regions_updateStore :
    (client.updateStore old new).2.cache.regions = client.cache.regions := by
  cases h : (client.updateStore old new).1
  · rw [updateStore_snd_of_refused client old new h]
    rfl
  · obtain ⟨unreachable, applied⟩ := updateStore_snd_of_applied client old new h
    rw [applied]

end

/-! ## Invalidations -/

theorem invalidateRegion_fst (region : Region) :
    (client.invalidateRegion region).1 = client.cache.regions.holds region := by
  unfold invalidateRegion
  split
  · next held => exact held.symm
  · next other => exact (Bool.not_eq_true _ ▸ other).symm

theorem invalidateRegion_snd (region : Region) :
    ∃ metrics notices, (client.invalidateRegion region).2 =
      { client with
        cache := { client.cache with
          regions := if client.cache.regions.holds region
            then client.cache.regions.erase region.id else client.cache.regions }
        metrics, notices } := by
  unfold invalidateRegion
  split
  · rw [notify_eq]
    exact ⟨_, _, rfl⟩
  · exact ⟨_, _, rfl⟩

theorem invalidateLedBy_snd (store : Store) :
    ∃ metrics notices, (client.invalidateLedBy store).2 =
      { client with
        cache := { client.cache with
          regions := if client.cache.holdsStore store
            then (client.cache.regions.evict (client.ledBy store.id)).2
            else client.cache.regions }
        metrics, notices } := by
  unfold invalidateLedBy
  split
  · dsimp only
    rw [notifyAll_eq]
    exact ⟨_, _, rfl⟩
  · exact ⟨_, _, rfl⟩

theorem clear_eq : ∃ metrics notices, client.clear =
    { client with cache := { client.cache with regions := {} }, metrics, notices } := by
  rw [clear, notify_eq]
  exact ⟨_, _, rfl⟩

theorem invalidateStore_snd (id : StoreId) :
    ∃ unreachable metrics notices, (client.invalidateStore id).2 =
      { client with
        cache := { client.cache with stores := client.cache.stores.erase id }
        ledger := { client.ledger with unreachable }
        metrics, notices } := by
  unfold invalidateStore
  split
  · next absent =>
    have same : client.cache.stores.erase id = client.cache.stores := by
      ext other store
      simp only [Std.ExtTreeMap.getElem?_erase]
      split
      · next eq =>
        obtain rfl := Std.LawfulEqCmp.compare_eq_iff_eq.1 eq
        simp [absent]
      · rfl
    rw [same]
    exact ⟨_, _, _, rfl⟩
  · dsimp only
    rw [notify_eq]
    exact ⟨_, _, _, rfl⟩

/-! ### What leaves the stores alone -/

@[simp] theorem stores_updateRegion (expected : Option Region) (replacement : Region) :
    (client.updateRegion expected replacement).2.cache.stores = client.cache.stores := by
  obtain ⟨_, _, eq⟩ := client.updateRegion_snd expected replacement
  rw [eq]

@[simp] theorem stores_invalidateRegion (region : Region) :
    (client.invalidateRegion region).2.cache.stores = client.cache.stores := by
  obtain ⟨_, _, eq⟩ := client.invalidateRegion_snd region
  rw [eq]

@[simp] theorem stores_invalidateLedBy (store : Store) :
    (client.invalidateLedBy store).2.cache.stores = client.cache.stores := by
  obtain ⟨_, _, eq⟩ := client.invalidateLedBy_snd store
  rw [eq]

@[simp] theorem stores_clear : client.clear.cache.stores = client.cache.stores := by
  obtain ⟨_, _, eq⟩ := client.clear_eq
  rw [eq]

/-- The value that is dropped counts as reachable again. -/
theorem ledger_invalidateStore (id : StoreId) : (client.invalidateStore id).2.ledger =
    (client.cache.stores[id]?).elim client.ledger client.ledger.markReachable := by
  unfold invalidateStore
  cases client.cache.stores[id]? with
  | none => rfl
  | some store =>
    dsimp only
    rw [notify_eq]
    rfl

end Client

/-! ## Operations on their own -/

namespace Operation

variable (client : Client ω)

@[simp] theorem run_cachedRegion (id : RegionId) :
    (cachedRegion id).run client = (client.cache.regions.get? id, client) := rfl

@[simp] theorem run_cachedStore (id : StoreId) :
    (cachedStore id).run client = (client.cache.stores[id]?, client) := rfl

@[simp] theorem run_updateRegion (expected : Option Region) (replacement : Region) :
    (updateRegion expected replacement).run client =
      client.updateRegion expected replacement := by
  unfold updateRegion
  dsimp only
  split
  · rw [Routine.run_exclusively, Routine.run_perform]
  · rw [Routine.run_perform]

@[simp] theorem run_updateStore (old new : Store) :
    (updateStore old new).run client = client.updateStore old new := rfl

@[simp] theorem run_invalidateRegion (region : Region) :
    (invalidateRegion region).run client = client.invalidateRegion region := rfl

@[simp] theorem run_invalidateLedBy (store : Store) :
    (invalidateLedBy store).run client = client.invalidateLedBy store := rfl

@[simp] theorem run_invalidateStore (id : StoreId) :
    (invalidateStore id).run client = client.invalidateStore id := rfl

@[simp] theorem run_clear : clear.run client = ((), client.clear) := rfl

end Operation
end RegionRouting
