/-
  Region routing — what the fates of a round add up to.

  What a round does for one store is out of the way of all others: the regions led from
  another store are as they were, what is cached under another id is, and whatever is
  added to the ledger, to the counters and to the notices is the same as if that other
  store had been the first.

  * `Client.Accrues` says what the fates of some stores add to the ledger, the counters and
    the notices, and which generations the new values have;
  * `Client.accrues_undergo` is what one store adds, and `Client.Accrues.append` what some
    stores add after others;
  * `Client.leaves_undergoAll`: what the stores of a round leave in the cache, and add to
    the rest, if their fates were foretold.
-/
import Mathlib.Data.List.Induction
import RegionRouting.Proofs.RoundFates

namespace RegionRouting

variable {ω : Type}

/-! ## Values that are made and judged -/

theorem Ledger.mem_markReachable {ledger : Ledger} {store : Store} {g : Generation} :
    g ∈ (ledger.markReachable store).unreachable ↔
      g ∈ ledger.unreachable ∧ g ≠ store.generation := by
  rw [markReachable, Std.ExtTreeSet.mem_erase, ne_eq, Std.LawfulEqCmp.compare_eq_iff_eq, and_comm,
    ne_comm]

/-- The ids of the stores that have recovered, in the order in which they have. -/
def reborn (settled : List (Store × Fate)) : List StoreId :=
  (settled.filter (·.2 = .recovered)).map (·.1.id)

theorem reborn_append (settled more : List (Store × Fate)) :
    reborn (settled ++ more) = reborn settled ++ reborn more := by
  rw [reborn, List.filter_append, List.map_append]
  rfl

theorem mem_reborn {settled : List (Store × Fate)} {store : Store}
    (member : (store, .recovered) ∈ settled) : store.id ∈ reborn settled :=
  List.mem_map.2 ⟨_, List.mem_filter.2 ⟨member, by simp⟩, rfl⟩

theorem reborn_sublist (settled : List (Store × Fate)) :
    (reborn settled).Sublist (settled.map (·.1.id)) :=
  List.filter_sublist.map _

/-- The generations that a fate has judged reachable again: that of the value which is
    not cached any more. -/
def Fate.clears : Store × Fate → List Generation
  | (store, .recovered) | (store, .removed) => [store.generation]
  | (_, .stale) | (_, .retained) => []

namespace Client

/-- What is counted when a store has met its fate. -/
def countsOf (client : Client ω) : Store × Fate → List Update
  | (_, .recovered) => [.swap true]
  | (store, .removed) =>
    [.regionsInvalidated (.ofNat (client.ledBy store.id).length), .storeInvalidated]
  | (_, .stale) | (_, .retained) => []

/-- What the subscriber is told. -/
def noticesOf (client : Client ω) : Store × Fate → List Invalidation
  | (store, .removed) =>
    if client.subscribed then
      (client.ledBy store.id).map (.ofLedRegion · store.id) ++ [.ofStore store.id]
    else
      []
  | (_, .recovered) | (_, .stale) | (_, .retained) => []

/-- What the fates of some stores add to a client, apart from what they leave in the
    cache.  Each store that has recovered has taken a generation, in turn; those that
    have recovered or were removed are judged reachable.  What is counted, and what is
    told, is the same as if each had been the first. -/
structure Accrues (client : Client ω) (settled : List (Store × Fate)) (client' : Client ω) :
    Prop where
  issued : client'.ledger.issued = client.ledger.issued + (reborn settled).length
  unreachable (g : Generation) : g ∈ client'.ledger.unreachable ↔
    g ∈ client.ledger.unreachable ∧ g ∉ settled.flatMap Fate.clears
  made {store : Store} : (store, .recovered) ∈ settled → client'.cache.stores[store.id]? =
    some (.direct store.descriptor (client.ledger.issued + (reborn settled).idxOf store.id))
  metrics : client'.metrics = (settled.flatMap client.countsOf).foldl Metrics.record client.metrics
  notices : client'.notices.Perm (client.notices ++ settled.flatMap client.noticesOf)
  subscribed : client'.subscribed = client.subscribed

theorem Accrues.nil (client : Client ω) : client.Accrues [] client where
  issued := rfl
  unreachable g := by simp
  made member := by cases member
  metrics := rfl
  notices := by simp
  subscribed := rfl

/-! ### One more store -/

section
variable {client before : Client ω} {store : Store} {settled : List (Store × Fate)}

/-- A store that has recovered is replaced by a new value without a proxy. -/
theorem undergo_recovered (held : before.cache.holdsStore store) :
    before.undergo (store, .recovered) = { before with
      cache.stores := before.cache.stores.insert store.id
        (.direct store.descriptor before.ledger.issued)
      ledger := { before.ledger.markReachable store with issued := before.ledger.issued + 1 }
      metrics := before.metrics.record (.swap true) } := by
  have there : (before.create store.reconnect).2.cache.holdsStore store = true := held
  rw [undergo, updateStore, if_pos there]
  rfl

theorem invalidateStore_of_held (held : before.cache.holdsStore store) :
    (before.invalidateStore store.id).2 = { before with
      cache.stores := before.cache.stores.erase store.id
      ledger := before.ledger.markReachable store
      metrics := before.metrics.record .storeInvalidated
      notices := before.notices ++ if before.subscribed then [.ofStore store.id] else [] } := by
  obtain ⟨cached, present, same⟩ := Cache.holdsStore_iff.1 held
  have judged : before.ledger.markReachable cached = before.ledger.markReachable store := by
    rw [Ledger.markReachable, Ledger.markReachable, same]
  simp only [invalidateStore, present, notify_eq, ← judged]
  rfl

/-- A store that was removed goes after the regions that were led from it. -/
theorem undergo_removed (held : before.cache.holdsStore store) :
    before.undergo (store, .removed) = { before with
      cache := {
        regions := (before.cache.regions.evict (before.ledBy store.id)).2
        stores := before.cache.stores.erase store.id }
      ledger := before.ledger.markReachable store
      metrics := (before.countsOf (store, .removed)).foldl Metrics.record before.metrics
      notices := before.notices ++ before.noticesOf (store, .removed) } := by
  have there : (before.invalidateLedBy store).2.cache.holdsStore store :=
    (Cache.holdsStore_congr (by rw [stores_invalidateLedBy])).trans held
  rw [undergo, invalidateStore_of_held there, invalidateLedBy_of_held held, countsOf, noticesOf,
    ← map_id_ledRegions, List.length_map, List.map_map, mk.injEq]
  refine ⟨rfl, rfl, rfl, rfl, rfl, rfl, ?_⟩
  dsimp only
  rw [List.append_assoc]
  split <;> rfl

end

/-- Among the regions that are left, those led from another store are as they were. -/
theorem Leaves.ledBy_perm {client client' : Client ω} {settled : List (Store × Fate)}
    (h : client.Leaves settled client') (consistent : client.cache.regions.Consistent)
    (consistent' : client'.cache.regions.Consistent) {id : StoreId}
    (apart : ∀ entry ∈ settled, entry.1.id ≠ id) : (client'.ledBy id).Perm (client.ledBy id) := by
  rw [List.perm_ext_iff_of_nodup (client'.nodup_ledBy consistent' id)
    (client.nodup_ledBy consistent id)]
  intro region
  simp only [← map_id_ledRegions, List.mem_map, mem_ledRegions consistent,
    mem_ledRegions consistent', h.regions, and_assoc]
  refine exists_congr fun r => and_congr_right fun _ => and_iff_right_of_imp ?_
  rintro ⟨led, -⟩ store removed same
  exact apart _ removed (same.symm.trans led)

section
variable {client before : Client ω} {store : Store} {settled : List (Store × Fate)}

theorem countsOf_congr {other : Client ω}
    (led : (other.ledBy store.id).Perm (client.ledBy store.id)) (fate : Fate) :
    other.countsOf (store, fate) = client.countsOf (store, fate) := by
  cases fate with
  | removed => rw [countsOf, countsOf, led.length_eq]
  | _ => rfl

theorem noticesOf_perm {other : Client ω}
    (led : (other.ledBy store.id).Perm (client.ledBy store.id))
    (subscribed : other.subscribed = client.subscribed) (fate : Fate) :
    (other.noticesOf (store, fate)).Perm (client.noticesOf (store, fate)) := by
  cases fate with
  | removed =>
    rw [noticesOf, noticesOf, subscribed]
    split
    · exact (led.map _).append_right _
    · exact .refl _
  | _ => exact .refl _

/-- What one store adds. -/
theorem accrues_undergo {fate : Fate} (held : fate ≠ .stale → before.cache.holdsStore store) :
    before.Accrues [(store, fate)] (before.undergo (store, fate)) := by
  cases fate with
  | recovered =>
    rw [undergo_recovered (held nofun)]
    refine ⟨rfl, fun g => ?_, fun member => ?_, rfl, ?_, rfl⟩
    · simpa [Fate.clears] using Ledger.mem_markReachable
    · obtain ⟨rfl, -⟩ := Prod.mk.inj (List.mem_singleton.1 member)
      simp [reborn]
    · simp [noticesOf]
  | removed =>
    rw [undergo_removed (held nofun)]
    refine ⟨rfl, fun g => ?_, fun member => ?_, ?_, ?_, rfl⟩
    · simpa [Fate.clears] using Ledger.mem_markReachable
    · simp at member
    · rw [List.flatMap_singleton]
    · rw [List.flatMap_singleton]
  | stale | retained =>
    refine ⟨rfl, fun g => ?_, fun member => ?_, rfl, ?_, rfl⟩
    · simp [Fate.clears, undergo]
    · simp at member
    · simp [noticesOf, undergo]

/-- **One after the other.** Stores of other ids, from which the same regions are led as
    before, add what they would have added at first. -/
theorem Accrues.append {client' : Client ω} {more : List (Store × Fate)}
    (h : client.Accrues settled before) (h' : before.Accrues more client')
    (apart : ∀ entry ∈ settled, ∀ other ∈ more, other.1.id ≠ entry.1.id)
    (others : ∀ id : StoreId, (∀ entry ∈ more, entry.1.id ≠ id) →
      client'.cache.stores[id]? = before.cache.stores[id]?)
    (led : ∀ entry ∈ more, (before.ledBy entry.1.id).Perm (client.ledBy entry.1.id)) :
    client.Accrues (settled ++ more) client' where
  issued := by
    rw [h'.issued, h.issued, reborn_append, List.length_append, Nat.add_assoc]
  unreachable g := by
    rw [h'.unreachable, h.unreachable, List.flatMap_append, List.mem_append, not_or, and_assoc]
  made {store} member := by
    rw [reborn_append]
    rcases List.mem_append.1 member with first | second
    · rw [others store.id (apart _ first), h.made first,
        List.idxOf_append_of_mem (mem_reborn first)]
    · have unborn : store.id ∉ reborn settled := by
        intro member
        obtain ⟨entry, among, same⟩ := List.mem_map.1 member
        exact apart entry (List.mem_filter.1 among).1 _ second same.symm
      rw [h'.made second, h.issued, List.idxOf_append_of_notMem unborn, Nat.add_assoc]
  metrics := by
    have counts : more.flatMap before.countsOf = more.flatMap client.countsOf :=
      List.flatMap_congr fun entry among => countsOf_congr (led entry among) entry.2
    rw [h'.metrics, h.metrics, counts, List.flatMap_append, List.foldl_append]
  notices := by
    have notices : (more.flatMap before.noticesOf).Perm (more.flatMap client.noticesOf) :=
      List.Perm.flatMap_left _ fun entry among =>
        noticesOf_perm (led entry among) h.subscribed entry.2
    rw [List.flatMap_append, ← List.append_assoc]
    exact h'.notices.trans (h.notices.append notices)
  subscribed := h'.subscribed.trans h.subscribed

/-- What one store leaves in the cache. -/
theorem leaves_undergo {fate : Fate} (consistent : before.cache.regions.Consistent)
    (sound : before.ledger.Sound) (held : fate = .stale ↔ ¬before.cache.holdsStore store) :
    before.Leaves [(store, fate)] (before.undergo (store, fate)) := by
  cases fate with
  | recovered =>
    have fresh : before.ledger.reaches (.direct store.descriptor before.ledger.issued) = true :=
      Bool.of_not_eq_false fun unreachable => Nat.lt_irrefl _ (sound _ unreachable)
    exact .of_recovered (by simpa using held) rfl rfl rfl rfl fresh
  | removed =>
    have there : before.cache.holdsStore store := by simpa using held
    have dropped := invalidateLedBy_of_held there
    exact .of_removed consistent (by rw [stores_invalidateLedBy]) (by rw [dropped])
      (by rw [dropped])
  | stale => exact .of_stale (by simpa using held)
  | retained => exact .of_retained (by simpa using held) rfl rfl

theorem consistent_undergo {fate : Fate} (consistent : before.cache.regions.Consistent)
    (held : fate ≠ .stale → before.cache.holdsStore store) :
    (before.undergo (store, fate)).cache.regions.Consistent := by
  cases fate with
  | recovered =>
    rw [undergo_recovered (held nofun)]
    exact consistent
  | removed =>
    rw [undergo_removed (held nofun)]
    exact consistent.evict _
  | stale | retained => exact consistent

theorem Accrues.sound (h : client.Accrues settled before) (sound : client.ledger.Sound) :
    before.ledger.Sound := by
  refine sound.of_less (fun store unreachable => ?_) (h.issued ▸ Nat.le_add_right _ _)
  have member : store.generation ∈ before.ledger.unreachable := by
    simpa [Ledger.reaches] using unreachable
  simpa [Ledger.reaches] using ((h.unreachable _).1 member).1

/-- **Some stores** with ids of their own, one after the other: what they leave in the
    cache, and what they add to the rest. -/
theorem leaves_undergoAll (consistent : client.cache.regions.Consistent)
    (sound : client.ledger.Sound) (distinct : (settled.map (·.1.id)).Nodup)
    (held : ∀ entry ∈ settled, entry.2 = .stale ↔ ¬client.cache.holdsStore entry.1) :
    client.Leaves settled (client.undergoAll settled) ∧
      client.Accrues settled (client.undergoAll settled) ∧
      (client.undergoAll settled).cache.regions.Consistent := by
  induction settled using List.reverseRecOn with
  | nil => exact ⟨.nil rfl rfl, .nil client, consistent⟩
  | append_singleton settled entry ih =>
    obtain ⟨store, fate⟩ := entry
    rw [List.map_append, List.nodup_append'] at distinct
    obtain ⟨distinct, -, disjoint⟩ := distinct
    rw [List.forall_mem_append] at held
    obtain ⟨leaves, accrues, consistent'⟩ := ih distinct held.1
    have apart : ∀ entry ∈ settled, entry.1.id ≠ store.id := fun entry among same =>
      disjoint (List.mem_map_of_mem among) (by simp [same])
    have aside : ∀ entry ∈ settled, ∀ other ∈ [(store, fate)], other.1.id ≠ entry.1.id := by
      simpa [eq_comm] using apart
    -- the store is cached as it was before the others
    have cached := Cache.holdsStore_congr (client.getElem?_undergoAll_of_apart apart)
    have held' : fate = .stale ↔ ¬(client.undergoAll settled).cache.holdsStore store := by
      rw [cached]
      exact held.2 _ (List.mem_singleton_self _)
    have there : fate ≠ .stale → (client.undergoAll settled).cache.holdsStore store := by
      simpa using mt held'.2
    have left := leaves_undergo consistent' (accrues.sound sound) held'
    have added := accrues_undergo there
    have led := leaves.ledBy_perm consistent consistent' apart
    rw [undergoAll_append, undergoAll_singleton]
    refine ⟨leaves.append left aside, ?_, consistent_undergo consistent' there⟩
    exact accrues.append added aside (fun _ => left.others _) (by simpa using led)

end
end Client

end RegionRouting
