/-
  Region routing — what an insertion makes of the cached regions.

  A region that enters the cache takes its keys over from the regions that had
  them.  Each of these is dropped as a whole, with keys that the new region does
  not have; a region that shares no key with it stays, also one that its range
  touches.

  * `KeyRange.meets_iff_shares`: the comparison of end points decides whether
    proper ranges share a key;
  * `RegionTable.TakesIn` says what the table and the list of evicted regions
    are, and `WellFormed.takesIn` that an insertion keeps to it;
  * `Run.insertion_evicts`: so does every missed lookup and every applied update.
-/
import RegionRouting.Proofs.KeySearch
import RegionRouting.Proofs.TableChange

namespace RegionRouting

/-! ## Ranges that share a key -/

namespace KeyRange

variable {r s : KeyRange}

/-- Is there a key in both ranges? -/
def Shares (r s : KeyRange) : Prop :=
  ∃ key, r.contains key ∧ s.contains key

theorem meets_iff_shares (hr : r.isProper) (hs : s.isProper) : r.meets s ↔ r.Shares s := by
  constructor
  · exact exists_of_meets hr hs
  · rintro ⟨key, inr, ins⟩
    exact meets_of_contains inr ins

/-- Ranges that touch share no key. -/
example : (KeyRange.mk [1] [3]).meets ⟨[3], []⟩ = false := by decide

end KeyRange

/-! ## Insertions into a table -/

namespace RegionTable

variable {table : RegionTable} {id : RegionId} {r region : Region}

/-- The evicted regions were there. -/
theorem Consistent.get?_of_mem_evicted {ids : List RegionId} (h : table.Consistent)
    (evicted : r ∈ (table.evict ids).1) : table.get? r.id = some r := by
  induction ids generalizing table with
  | nil => cases evicted
  | cons first ids ih =>
    rcases List.mem_append.1 evicted with here | later
    · exact h.get?_id (Option.mem_toList.1 here)
    · exact get?_of_erase (ih (h.erase first) later)

/-- An insertion evicts the values that are there before, and under whose id
    there is none after. -/
theorem Consistent.mem_insert_fst (h : table.Consistent) : r ∈ (table.insert region).1 ↔
    table.get? r.id = some r ∧ (table.insert region).2.get? r.id = none := by
  have cached {s : Region} (evicted : s ∈ (table.insert region).1) : table.get? s.id = some s :=
    get?_of_erase ((h.erase region.id).get?_of_mem_evicted evicted)
  constructor
  · intro evicted
    exact ⟨cached evicted, ((h.mem_evicted_insert region).1 (List.mem_map_of_mem evicted)).2⟩
  · rintro ⟨before, after⟩
    have named := (h.mem_evicted_insert region).2 ⟨Option.isSome_iff_exists.2 ⟨r, before⟩, after⟩
    obtain ⟨s, evicted, same⟩ := List.mem_map.1 named
    have value := cached evicted
    rw [same, before] at value
    exact Option.some.inj value ▸ evicted

/-- The table has taken a region in: the region is there, with the regions of
    other ids that share no key with it; those that do are evicted, each once;
    and a key resolves as before unless the region has it, or one that had to
    go for the region had it. -/
structure TakesIn (table : RegionTable) (region : Region) (evicted : List Region)
    (table' : RegionTable) : Prop where
  cached (id : RegionId) (r : Region) : table'.get? id = some r ↔
    id = region.id ∧ r = region ∨
      table.get? id = some r ∧ id ≠ region.id ∧ ¬region.range.Shares r.range
  displaced (r : Region) : r ∈ evicted ↔
    table.get? r.id = some r ∧ r.id ≠ region.id ∧ region.range.Shares r.range
  once : (evicted.map Region.id).Nodup
  own (key : Key) : region.range.contains key → table'.find? key = some region
  others (key : Key) : ¬region.range.contains key → (∀ r ∈ evicted, ¬r.range.contains key) →
    (∀ old, table.get? region.id = some old → ¬old.range.contains key) →
      table'.find? key = table.find? key

section
variable (h : table.WellFormed) (valid : region.isValid)
include h valid

/-- In a well-formed table, what stands in the way of a valid region shares a
    key with it. -/
theorem WellFormed.stays_iff (cached : table.get? id = some r) :
    ¬region.range.meets r.range ∧ r.range.start ≠ region.range.start ↔
      ¬region.range.Shares r.range := by
  have proper {s : Region} (valid : s.isValid) : s.range.isProper :=
    (Bool.and_eq_true_iff.1 valid).1
  rw [KeyRange.meets_iff_shares (proper valid) (proper (h.valid cached)), and_iff_left_iff_imp]
  -- two regions that start at one key both have that key
  intro apart same
  exact apart ⟨region.range.start, KeyRange.contains_start (proper valid),
    same ▸ KeyRange.contains_start (proper (h.valid cached))⟩

theorem WellFormed.get?_insert_iff : (table.insert region).2.get? id = some r ↔
    id = region.id ∧ r = region ∨
      table.get? id = some r ∧ id ≠ region.id ∧ ¬region.range.Shares r.range := by
  rw [h.toConsistent.get?_insert_eq_some]
  refine or_congr_right (and_congr_right fun cached => and_congr_right fun _ => ?_)
  exact h.stays_iff valid cached

theorem WellFormed.mem_insert_fst_iff : r ∈ (table.insert region).1 ↔
    table.get? r.id = some r ∧ r.id ≠ region.id ∧ region.range.Shares r.range := by
  rw [h.toConsistent.mem_insert_fst]
  refine and_congr_right fun cached => Option.eq_none_iff_forall_ne_some.trans ?_
  constructor
  · intro gone
    have other : r.id ≠ region.id := fun same =>
      gone region ((h.get?_insert_iff valid).2 (.inl ⟨same, rfl⟩))
    refine ⟨other, Classical.byContradiction fun apart => ?_⟩
    exact gone r ((h.get?_insert_iff valid).2 (.inr ⟨cached, other, apart⟩))
  · rintro ⟨other, shares⟩ s present
    rcases (h.get?_insert_iff valid).1 present with ⟨same, -⟩ | ⟨before, -, apart⟩
    · exact other same
    · cases cached.symm.trans before
      exact apart shares

/-- **Insertion.** A well-formed table takes in a valid region, and evicts exactly
    the overlap. -/
theorem WellFormed.takesIn :
    table.TakesIn region (table.insert region).1 (table.insert region).2 where
  cached _ _ := h.get?_insert_iff valid
  displaced _ := h.mem_insert_fst_iff valid
  once := (h.toConsistent.erase region.id).nodup_evicted _
  own key inside :=
    (h.insert valid).find?_eq_some_iff.2 ⟨get?_insert_self table region, inside⟩
  others key outside unevicted unowned := by
    ext r
    rw [(h.insert valid).find?_eq_some_iff, h.find?_eq_some_iff, h.get?_insert_iff valid]
    refine and_congr_left fun inside => ?_
    constructor
    · rintro (⟨-, rfl⟩ | ⟨before, -⟩)
      · exact absurd inside outside
      · exact before
    · intro before
      have other : r.id ≠ region.id := fun same => unowned r (same ▸ before) inside
      refine .inr ⟨before, other, fun shares => ?_⟩
      exact unevicted r ((h.mem_insert_fst_iff valid).2 ⟨before, other, shares⟩) inside

end

end RegionTable

/-! ## Insertions into a cache -/

variable {ω : Type} {client : Client ω} {region : Region}

/-- A valid region was inserted into the cache, and the regions that this has
    evicted are counted and announced. -/
structure Client.TakesIn (client : Client ω) (region : Region) (evicted : List Region)
    (client' : Client ω) : Prop where
  valid : region.isValid
  inserted : client.cache.regions.insert region = (evicted, client'.cache.regions)
  table : client.cache.regions.TakesIn region evicted client'.cache.regions
  notices : client'.notices = client.notices ++
    if client.subscribed then evicted.map fun r => .ofRegion r.id else []
  counted : client'.metrics.regionsInvalidated =
    client.metrics.regionsInvalidated + .ofNat evicted.length

namespace Lookup

variable [Authority ω] {query : RegionQuery} {budget : Backoffer}

/-- A fetch that succeeds takes in the region that it returns. -/
theorem Fetches.takesIn {out : Outcome ω (Region × List Region)}
    (h : Fetches query budget client out) (table : client.cache.regions.WellFormed)
    (ok : (announce out).1.1 = .ok region) :
    ∃ evicted, client.TakesIn region evicted (announce out).2 := by
  obtain ⟨⟨_ | ⟨found, evicted⟩, budget'⟩, client'⟩ := out
  · cases ok
  · cases ok
    obtain ⟨before, regions, grown, -, valid, inserted, rfl⟩ := h.of_ok
    have taken := table.takesIn valid
    rw [inserted] at taken
    rw [announce, Client.announceEvicted_eq]
    refine ⟨evicted, valid, inserted, taken, ?_, ?_⟩
    · rw [← grown.notices, ← grown.subscribed]
      rfl
    · rw [← grown.invalidated]
      rfl

end Lookup

/-- An update that is applied takes its replacement in. -/
theorem Client.takesIn_updateRegion {expected : Option Region} {replacement : Region}
    (table : client.cache.regions.WellFormed)
    (applied : (client.updateRegion expected replacement).1 = true) :
    client.TakesIn replacement (client.cache.regions.insert replacement).1
      (client.updateRegion expected replacement).2 := by
  have valid := client.isValid_of_updateRegion expected replacement applied
  rw [updateRegion_snd_of_applied client expected replacement applied, announceEvicted_eq]
  exact ⟨valid, rfl, table.takesIn valid, rfl, rfl⟩

open Lookup in
/-- **Insertions evict the overlap.** At every moment of a run, a lookup that
    misses and succeeds takes in the region that it returns, and an update that
    is applied takes in the replacement. -/
theorem Run.insertion_evicts [Authority ω] [Prober ω] (run : Run ω) (i : Nat) :
    let client := (run.moment i).client
    (∀ key budget region, client.cache.regions.find? key = none →
      ((regionByKey key).outcome budget client).1.1 = .ok region →
      ∃ evicted, client.TakesIn region evicted ((regionByKey key).outcome budget client).2) ∧
    (∀ id budget region, client.cache.regions.get? id = none →
      ((regionById id).outcome budget client).1.1 = .ok region →
      ∃ evicted, client.TakesIn region evicted ((regionById id).outcome budget client).2) ∧
    (∀ expected replacement,
      ((Operation.updateRegion expected replacement).run client).1 = true →
      ∃ evicted, client.TakesIn replacement evicted
        ((Operation.updateRegion expected replacement).run client).2) := by
  intro client
  have table : client.cache.regions.WellFormed := run.wellFormed_moment i
  refine ⟨?_, ?_, ?_⟩
  · intro key budget region missed ok
    rw [outcome_regionByKey_miss budget missed] at ok ⊢
    have counted : ((client.record .lookup).record .miss).cache.regions.WellFormed := table
    obtain ⟨evicted, taken⟩ := (fetches (.byKey key) budget _).takesIn counted ok
    exact ⟨evicted, taken.valid, taken.inserted, taken.table, taken.notices, taken.counted⟩
  · intro id budget region missed ok
    rw [outcome_regionById_miss budget missed] at ok ⊢
    exact (fetches (.byId id) budget client).takesIn table ok
  · intro expected replacement applied
    rw [Operation.run_updateRegion] at applied ⊢
    exact ⟨_, Client.takesIn_updateRegion table applied⟩

end RegionRouting
