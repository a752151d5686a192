/-
  Region routing — lookups from a table that does not change.

  * `owners`: the regions of a table that own some keys;
  * `Warm`: what lookups of keys leave of a client whose authority serves a
    partition: exactly the owners of the keys are cached, and each was fetched
    once;
  * `Warm.regionByKey`: so it stays with each lookup, which returns the owner of
    its key; and so it is for lookups one after the other (`fixed_table`).
-/
import RegionRouting.Proofs.Crowd
import RegionRouting.Proofs.KeySearch
import RegionRouting.Proofs.Serving

namespace RegionRouting

/-! ## The owners of keys -/

variable {table : List (RegionDescriptor × Peer)} {placement : RegionDescriptor × Peer}
  {keys keys' : List Key} {key : Key}

/-- The regions of a table that own some of the keys. -/
def owners (table : List (RegionDescriptor × Peer)) (keys : List Key) :
    List (RegionDescriptor × Peer) :=
  table.filter fun placement => keys.any placement.1.range.contains

theorem mem_owners : placement ∈ owners table keys ↔
    placement ∈ table ∧ ∃ key ∈ keys, placement.1.range.contains key := by
  simp [owners]

@[simp] theorem owners_nil : owners table [] = [] := by
  simp [owners]

/-- Neither the order of the keys matters, nor how often each occurs. -/
theorem owners_congr (h : ∀ key, key ∈ keys ↔ key ∈ keys') :
    owners table keys = owners table keys' := by
  refine List.filter_congr fun placement _ => Bool.eq_iff_iff.2 ?_
  simp only [List.any_eq_true, h]

namespace Partition

variable (partition : Partition table)
include partition

theorem nodup_owners : (owners table keys).Nodup :=
  partition.distinct.of_map.filter _

/-- Each key has one owner. -/
theorem mem_owners_concat (among : placement ∈ table) (owns : placement.1.range.contains key)
    (other : RegionDescriptor × Peer) : other ∈ owners table (keys ++ [key]) ↔
      other ∈ owners table keys ∨ other = placement := by
  have own : other ∈ table ∧ other.1.range.contains key ↔ other = placement := by
    constructor
    · rintro ⟨among', owns'⟩
      exact partition.apart among' among owns' owns
    · rintro rfl
      exact ⟨among, owns⟩
  simp only [mem_owners, List.mem_append, List.mem_singleton, or_and_right, exists_or,
    exists_eq_left, and_or_left, own]

theorem owners_concat_of_mem (among : placement ∈ owners table keys)
    (owns : placement.1.range.contains key) :
    (owners table (keys ++ [key])).Perm (owners table keys) := by
  refine (List.perm_ext_iff_of_nodup partition.nodup_owners
    partition.nodup_owners).2 fun other => ?_
  rw [partition.mem_owners_concat (mem_owners.1 among).1 owns, or_iff_left_iff_imp]
  rintro rfl
  exact among

theorem owners_concat_of_not_mem (among : placement ∈ table)
    (owns : placement.1.range.contains key) (new : placement ∉ owners table keys) :
    (owners table (keys ++ [key])).Perm (placement :: owners table keys) := by
  refine (List.perm_ext_iff_of_nodup partition.nodup_owners
    (List.nodup_cons.2 ⟨new, partition.nodup_owners⟩)).2 fun other => ?_
  rw [partition.mem_owners_concat among owns, List.mem_cons, or_comm]

end Partition

/-! ## The regions that are cached -/

namespace RegionTable

variable {cached : RegionTable} {region : Region}

/-- The cached regions, as the authority tells of them. -/
def placements (cached : RegionTable) : List (RegionDescriptor × Peer) :=
  cached.values.map Region.placement

theorem mem_placements : placement ∈ cached.placements ↔
    ∃ id r, cached.get? id = some r ∧ r.placement = placement := by
  simp only [placements, List.mem_map, mem_values]
  exact ⟨fun ⟨r, ⟨id, present⟩, same⟩ => ⟨id, r, present, same⟩,
    fun ⟨id, r, present, same⟩ => ⟨r, ⟨id, present⟩, same⟩⟩

theorem length_placements (cached : RegionTable) : cached.placements.length = cached.size := by
  rw [placements, List.length_map, values, List.length_map, Std.ExtTreeMap.length_toList]
  rfl

theorem Consistent.nodup_placements (h : cached.Consistent) : cached.placements.Nodup := by
  have ids : cached.placements.map (·.1.id) = cached.values.map Region.id := List.map_map
  exact (ids ▸ h.nodup_values : (cached.placements.map (·.1.id)).Nodup).of_map

/-- A region that shares no key with the cached ones joins them. -/
theorem WellFormed.placements_insert (h : cached.WellFormed) (valid : region.isValid)
    (fresh : cached.get? region.id = none)
    (apart : ∀ {id r key}, cached.get? id = some r → r.range.contains key →
      ¬region.range.contains key) :
    (cached.insert region).2.placements.Perm (region.placement :: cached.placements) := by
  have new : region.placement ∉ cached.placements := by
    intro among
    obtain ⟨id, r, present, same⟩ := mem_placements.1 among
    have ids : r.id = region.id := congrArg (·.1.id) same
    rw [← ids, h.get?_id present] at fresh
    cases fresh
  refine (List.perm_ext_iff_of_nodup (h.insert valid).nodup_placements
    (List.nodup_cons.2 ⟨new, h.nodup_placements⟩)).2 fun placement => ?_
  rw [List.mem_cons, mem_placements, mem_placements]
  constructor
  · rintro ⟨id, r, present, rfl⟩
    rcases (h.get?_insert_of_apart valid fresh apart).1 present with ⟨-, rfl⟩ | before
    · exact .inl rfl
    · exact .inr ⟨id, r, before, rfl⟩
  · rintro (rfl | ⟨id, r, before, rfl⟩)
    · exact ⟨region.id, region, get?_insert_self _ _, rfl⟩
    · exact ⟨id, r, (h.get?_insert_of_apart valid fresh apart).2 (.inr before), rfl⟩

end RegionTable

/-! ## Lookups one after the other -/

namespace Lookup

variable {ω : Type} [Authority ω] {start client : Client (Observed ω)}

/-- Does the answer to a lookup name the region of the table that owns the key? -/
def NamesOwner (table : List (RegionDescriptor × Peer)) (call : Key × Backoffer)
    (answer : Answer) : Prop :=
  ∃ region : Region, answer.1 = .ok region ∧ region.placement ∈ table ∧
    region.range.contains call.1

/-- What lookups of keys have left of a client: the owners of the keys are cached,
    each was fetched once, and nothing was ever evicted. -/
structure Warmed (table : List (RegionDescriptor × Peer)) (start : Client (Observed ω))
    (keys : List Key) (client : Client (Observed ω)) : Prop where
  placements : client.cache.regions.placements.Perm (owners table keys)
  size : client.cache.regions.size = (owners table keys).length
  regionCalls : client.regionCalls.length = start.regionCalls.length + (owners table keys).length
  notices : client.notices = start.notices
  invalidated : client.metrics.regionsInvalidated = start.metrics.regionsInvalidated

/-- A cache is warmed, and what the next lookups depend on holds: the table is well-formed,
    and the authority has only received calls. -/
structure Warm (table : List (RegionDescriptor × Peer)) (start : Client (Observed ω))
    (keys : List Key) (client : Client (Observed ω)) : Prop extends
    Warmed table start keys client where
  wellFormed : client.cache.regions.WellFormed
  reached : Authority.Reaches start.world client.world

theorem Warm.of_empty (empty : start.cache.regions = {}) : Warm table start [] start where
  placements := by
    rw [empty, owners_nil]
    exact .refl _
  size := by
    rw [empty, owners_nil]
    rfl
  regionCalls := by rw [owners_nil, List.length_nil, Nat.add_zero]
  notices := rfl
  invalidated := rfl
  wellFormed := empty ▸ .empty
  reached := .refl

namespace Warm

/-- A cached region that owns a key is an owner in the table. -/
theorem mem_owners_of_find? (warm : Warm table start keys client) {region : Region}
    (found : client.cache.regions.find? key = some region) :
    region.placement ∈ owners table keys ∧ region.range.contains key := by
  obtain ⟨present, owns⟩ := warm.wellFormed.find?_eq_some_iff.1 found
  exact ⟨warm.placements.subset (RegionTable.mem_placements.2 ⟨_, _, present, rfl⟩), owns⟩

/-- The keys that were looked up are the keys of cached regions. -/
theorem isSome_find? (warm : Warm table start keys client) (among : placement ∈ owners table keys)
    (owns : placement.1.range.contains key) : (client.cache.regions.find? key).isSome := by
  obtain ⟨id, region, present, rfl⟩ :=
    RegionTable.mem_placements.1 (warm.placements.symm.subset among)
  have found := warm.wellFormed.find?_eq_some_iff.2 ⟨warm.wellFormed.get?_id present, owns⟩
  exact Option.isSome_of_eq_some found

variable (partition : Partition table) (serves : Serves table start.world)
  (warm : Warm table start keys client) (budget : Backoffer)
include partition warm

/-- A key that a cached region owns is a hit. -/
theorem regionByKey_hit {region : Region}
    (found : client.cache.regions.find? key = some region) :
    NamesOwner table (key, budget) ((regionByKey key).outcome budget client).1 ∧
      Warm table start (keys ++ [key]) ((regionByKey key).outcome budget client).2 := by
  obtain ⟨among, owns⟩ := warm.mem_owners_of_find? found
  have same := partition.owners_concat_of_mem among owns
  rw [outcome_regionByKey_hit budget found]
  refine ⟨⟨region, rfl, (mem_owners.1 among).1, owns⟩, ?_⟩
  exact {
    placements := warm.placements.trans same.symm
    size := warm.size.trans same.length_eq.symm
    regionCalls := same.length_eq ▸ warm.regionCalls
    notices := warm.notices
    invalidated := warm.invalidated
    wellFormed := warm.wellFormed
    reached := warm.reached }

include serves

/-- Another key brings its owner into the cache, and evicts nothing. -/
theorem regionByKey_miss (among : placement ∈ table) (owns : placement.1.range.contains key)
    (absent : client.cache.regions.find? key = none) :
    NamesOwner table (key, budget) ((regionByKey key).outcome budget client).1 ∧
      Warm table start (keys ++ [key]) ((regionByKey key).outcome budget client).2 := by
  have reached := reaches_regionByKey key budget warm.reached
  have called := regionCalls_regionByKey budget client key
  obtain ⟨region, budget', before, grown, rfl, fetched⟩ :=
    (serves.supplied budget warm.reached among owns).regionByKey (partition.valid among) absent
  have new : region.placement ∉ owners table keys := by
    intro member
    have found := warm.isSome_find? member owns
    simp [absent] at found
  -- each cached region is another of the table: its id and its keys are its own
  have cachedAmong {id : RegionId} {r : Region} (present : client.cache.regions.get? id = some r) :
      r.placement ∈ owners table keys :=
    warm.placements.subset (RegionTable.mem_placements.2 ⟨id, r, present, rfl⟩)
  have valid : region.isValid := region.isValid_iff.2 (partition.valid among)
  have fresh : client.cache.regions.get? region.id = none := by
    refine Option.eq_none_iff_forall_ne_some.2 fun r present => ?_
    have member := cachedAmong present
    have ids : r.id = region.id := warm.wellFormed.id_of_get? present
    rw [List.inj_on_of_nodup_map partition.distinct (mem_owners.1 member).1 among ids] at member
    exact new member
  have apart {id : RegionId} {r : Region} {key : Key}
      (present : client.cache.regions.get? id = some r) (shared : r.range.contains key) :
      ¬region.range.contains key := by
    intro own
    have member := cachedAmong present
    rw [partition.apart (mem_owners.1 member).1 among shared own] at member
    exact new member
  have quiet := warm.wellFormed.evicted_of_apart valid fresh apart
  have joined := warm.wellFormed.placements_insert valid fresh apart
  have more := partition.owners_concat_of_not_mem among owns new
  rw [absent] at called
  rw [fetched, quiet] at reached called ⊢
  refine ⟨⟨region, rfl, among, owns⟩, ?_⟩
  exact {
    placements := (joined.trans (warm.placements.cons _)).trans more.symm
    size := by
      rw [← RegionTable.length_placements, more.length_eq, ← (warm.placements.cons _).length_eq]
      exact joined.length_eq
    regionCalls := by
      rw [called, more.length_eq, List.length_append, warm.regionCalls]
      rfl
    notices := grown.notices.trans warm.notices
    invalidated := grown.invalidated.trans warm.invalidated
    wellFormed := warm.wellFormed.insert valid
    reached := reached }

/-- **One lookup** of a key of the table. -/
theorem regionByKey (owned : ∃ placement ∈ table, placement.1.range.contains key) :
    NamesOwner table (key, budget) ((Lookup.regionByKey key).outcome budget client).1 ∧
      Warm table start (keys ++ [key]) ((Lookup.regionByKey key).outcome budget client).2 := by
  obtain ⟨placement, among, owns⟩ := owned
  cases found : client.cache.regions.find? key with
  | some region => exact warm.regionByKey_hit partition budget found
  | none => exact warm.regionByKey_miss partition serves budget among owns found

/-- **Lookups one after the other.** -/
theorem inTurn {calls : List (Key × Backoffer)}
    (owned : ∀ call ∈ calls, ∃ placement ∈ table, placement.1.range.contains call.1) :
    List.Forall₂ (NamesOwner table) calls (Lookup.inTurn Lookup.regionByKey calls client).1 ∧
      Warm table start (keys ++ calls.map (·.1))
        (Lookup.inTurn Lookup.regionByKey calls client).2 := by
  induction calls generalizing keys client with
  | nil =>
    rw [List.map_nil, List.append_nil]
    exact ⟨.nil, warm⟩
  | cons call calls ih =>
    obtain ⟨first, others⟩ := List.forall_mem_cons.1 owned
    obtain ⟨answer, warm'⟩ := warm.regionByKey partition serves call.2 first
    obtain ⟨answers, rest⟩ := ih warm' others
    refine ⟨.cons answer answers, ?_⟩
    rw [List.map_cons, List.append_cons]
    exact rest

end Warm

/-- What is true of lookups of some keys, made one after the other. -/
structure FromTable (table : List (RegionDescriptor × Peer)) (client : Client (Observed ω))
    (calls : List (Key × Backoffer)) : Prop where
  /-- each returns the owner of its key -/
  answers : List.Forall₂ (NamesOwner table) calls (inTurn regionByKey calls client).1
  /-- after any number of them, the owners of their keys are cached -/
  soFar (n : Nat) : Warmed table client ((calls.take n).map (·.1))
    (inTurn regionByKey (calls.take n) client).2
  /-- to look the same keys up again makes no call at all -/
  again {calls' : List (Key × Backoffer)} : (∀ call ∈ calls', call.1 ∈ calls.map (·.1)) →
    (inTurn regionByKey calls' (inTurn regionByKey calls client).2).2.world =
      (inTurn regionByKey calls client).2.world
  /-- the order of the keys makes no difference to what is cached in the end -/
  order {calls' : List (Key × Backoffer)} : (calls.map (·.1)).Perm (calls'.map (·.1)) →
    (inTurn regionByKey calls client).2.cache.regions.placements.Perm
      (inTurn regionByKey calls' client).2.cache.regions.placements

/-- **The fixed partition law.** An authority serves a partition, and lookups find
    no region cached; each is of a key that a region of the table owns. -/
theorem fixed_table (partition : Partition table) (serves : Serves table start.world.world)
    (empty : start.cache.regions = {}) {calls : List (Key × Backoffer)}
    (owned : ∀ call ∈ calls, ∃ placement ∈ table, placement.1.range.contains call.1) :
    FromTable table start calls := by
  have warmed {calls : List (Key × Backoffer)}
      (owned : ∀ call ∈ calls, ∃ placement ∈ table, placement.1.range.contains call.1) :
      List.Forall₂ (NamesOwner table) calls (inTurn regionByKey calls start).1 ∧
        Warm table start (calls.map (·.1)) (inTurn regionByKey calls start).2 :=
    (Warm.of_empty empty).inTurn partition serves.observed owned
  constructor
  · exact (warmed owned).1
  · intro n
    exact (warmed fun call among => owned call (List.mem_of_mem_take among)).2.toWarmed
  · intro calls' among
    have hits : ∀ call ∈ calls',
        ((inTurn regionByKey calls start).2.cache.regions.find? call.1).isSome := by
      intro call member
      obtain ⟨before, among', same⟩ := List.mem_map.1 (among call member)
      obtain ⟨placement, own, owns⟩ := owned before among'
      rw [same] at owns
      exact (warmed owned).2.isSome_find? (mem_owners.2 ⟨own, _, among call member, owns⟩) owns
    obtain ⟨-, metrics, rest⟩ := inTurn_hits hits
    rw [rest]
  · intro calls' perm
    have owned' : ∀ call ∈ calls', ∃ placement ∈ table, placement.1.range.contains call.1 := by
      intro call member
      obtain ⟨before, among', same⟩ :=
        List.mem_map.1 (perm.symm.subset (List.mem_map_of_mem member))
      exact same ▸ owned before among'
    have one := (warmed owned).2.placements
    have other := (warmed owned').2.placements
    rw [owners_congr fun _ => perm.mem_iff] at one
    exact one.trans other.symm

/-- Lookups of keys of both halves, two of them at the boundary. -/
def bothHalves : List (Key × Backoffer) :=
  [([7], {}), ([5], {}), ([4, 255], {}), ([], {}), ([5], {})]

theorem bothHalves_fromTable : Partition halves.regions ∧
    Serves halves.regions newcomer.world.world ∧ newcomer.cache.regions = {} ∧
    (∀ call ∈ bothHalves, ∃ placement ∈ halves.regions, placement.1.range.contains call.1) ∧
    FromTable halves.regions newcomer bothHalves ∧
    (inTurn regionByKey (bothHalves.take 2) newcomer).2.cache.regions.size = 1 ∧
    (inTurn regionByKey bothHalves newcomer).2.regionCalls.length = 2 := by
  have owned : ∀ call ∈ bothHalves,
      ∃ placement ∈ halves.regions, placement.1.range.contains call.1 := by decide +kernel
  have law : FromTable halves.regions newcomer bothHalves :=
    fixed_table partition_halves halves_serves rfl owned
  exact ⟨partition_halves, halves_serves, rfl, owned, law,
    (law.soFar 2).size.trans (by decide +kernel),
    (law.soFar 5).regionCalls.trans (by decide +kernel)⟩

end Lookup
end RegionRouting
