/-
  Region routing — updates of regions.

  An update caches a region in the place of the value that its caller has seen,
  or in the place of none.  It looks under the id of the new region, and tells
  values by their generation alone.

  * `RegionTable.AsExpected`: under an id is what the caller expects;
  * `Client.updateRegion_iff`: an update is applied exactly if it presents a valid
    region and finds what it expects;
  * `Client.SwapsIn` says what an applied update does, and `Run.region_swap` puts
    this together for every moment of a run: a refused one is of no effect but
    for a counter.
-/
import RegionRouting.Proofs.Insertion

namespace RegionRouting

/-- Under the id is what is expected: nothing, or a value of the generation that
    was seen. -/
inductive RegionTable.AsExpected (table : RegionTable) (id : RegionId) : Option Region → Prop
  | absent (vacant : table.get? id = none) : AsExpected table id none
  | seen {cached seen : Region} (present : table.get? id = some cached)
      (same : cached.generation = seen.generation) : AsExpected table id (some seen)

namespace Client

variable {ω : Type} {client : Client ω} {expected : Option Region} {replacement : Region}

theorem expects_iff {id : RegionId} : expects (client.cache.regions.get? id) expected ↔
    client.cache.regions.AsExpected id expected := by
  constructor
  · intro met
    cases expected with
    | none =>
      cases found : client.cache.regions.get? id with
      | none => exact .absent found
      | some cached => simp [expects, found] at met
    | some seen =>
      obtain ⟨cached, present, same⟩ := expects_some_iff.1 met
      exact .seen present (beq_iff_eq.1 same)
  · rintro (vacant | ⟨present, same⟩)
    · rw [vacant]
      rfl
    · exact expects_some_iff.2 ⟨_, present, beq_iff_eq.2 same⟩

/-- **When an update is applied.** -/
theorem updateRegion_iff : (client.updateRegion expected replacement).1 = true ↔
    replacement.isValid ∧ client.cache.regions.AsExpected replacement.id expected := by
  rw [updateRegion_fst, Bool.and_eq_true, expects_iff]

/-- The region has been swapped in: it is cached under its id; the regions of
    other ids are as before, or they were evicted, each once; these are counted
    and announced, one by one; and nothing else has changed, the stores included. -/
structure SwapsIn (client : Client ω) (region : Region) (evicted : List Region)
    (client' : Client ω) : Prop where
  cached : client'.cache.regions.get? region.id = some region
  others (id : RegionId) : id ≠ region.id →
    client'.cache.regions.get? id = client.cache.regions.get? id ∨ id ∈ evicted.map Region.id
  displaced (r : Region) : r ∈ evicted ↔ client.cache.regions.get? r.id = some r ∧
    r.id ≠ region.id ∧ client'.cache.regions.get? r.id = none
  once : (evicted.map Region.id).Nodup
  rest : client' = { client with
    cache := { client.cache with regions := client'.cache.regions }
    metrics := (client.metrics.record (.swap true)).record
      (.regionsInvalidated (.ofNat evicted.length))
    notices := client.notices ++
      if client.subscribed then evicted.map fun r => .ofRegion r.id else [] }

/-- An update that is applied swaps the replacement in. -/
theorem swapsIn_updateRegion (consistent : client.cache.regions.Consistent)
    (applied : (client.updateRegion expected replacement).1 = true) :
    client.SwapsIn replacement (client.cache.regions.insert replacement).1
      (client.updateRegion expected replacement).2 := by
  rw [updateRegion_snd_of_applied client expected replacement applied, announceEvicted_eq]
  have own := RegionTable.get?_insert_self client.cache.regions replacement
  refine ⟨own, fun id other => ?_, fun r => ?_,
    (consistent.erase replacement.id).nodup_evicted _, rfl⟩
  · rw [consistent.mem_evicted_insert]
    change (client.cache.regions.insert replacement).2.get? id = _ ∨ _
    cases after : (client.cache.regions.insert replacement).2.get? id with
    | some r =>
      rcases RegionTable.get?_of_insert after with ⟨same, -⟩ | before
      · exact absurd same other
      · exact .inl before.symm
    | none =>
      cases before : client.cache.regions.get? id with
      | none => exact .inl rfl
      | some r => exact .inr ⟨rfl, rfl⟩
  · rw [consistent.mem_insert_fst]
    refine and_congr_right fun _ => ⟨fun gone => ⟨?_, gone⟩, And.right⟩
    intro same
    rw [same, own] at gone
    cases gone

end Client

/-- **Updates of regions.** At every moment of a run an update is applied exactly if
    the replacement is valid, and what is cached under its id is what the caller
    expects.  If it is refused nothing changes, save that it is counted, unless
    the replacement was invalid.  If it is applied the replacement is swapped in. -/
theorem Run.region_swap {ω : Type} [Authority ω] [Prober ω] (run : Run ω) (i : Nat) :
    let client := (run.moment i).client
    ∀ expected replacement,
      let update := (Operation.updateRegion expected replacement).run client
      (update.1 = true ↔
        replacement.isValid ∧ client.cache.regions.AsExpected replacement.id expected) ∧
      (update.1 = false →
        update.2 = if replacement.isValid then client.record (.swap false) else client) ∧
      (update.1 = true → ∃ evicted, client.SwapsIn replacement evicted update.2) := by
  intro client expected replacement update
  have same : update = client.updateRegion expected replacement :=
    Operation.run_updateRegion client expected replacement
  rw [same]
  refine ⟨Client.updateRegion_iff, ?_, ?_⟩
  · intro refused
    exact client.updateRegion_snd_of_refused expected replacement refused
  · intro applied
    exact ⟨_, Client.swapsIn_updateRegion (run.wellFormed_moment i).toConsistent applied⟩

end RegionRouting
