/-
  Region routing — which keys a cache covers.

  * `Lookup.Hits`: a lookup of a key is answered from the cache, and changes
    nothing but two counters;
  * `Lookup.hits_iff`: that happens to the keys of cached regions alone;
  * `Run.keys_covered` puts this together for every moment of a run, and adds
    that a region is cached, and owns its keys, when a lookup returns it.
-/
import RegionRouting.Proofs.KeySearch
import RegionRouting.Proofs.TableChange

namespace RegionRouting

variable {ω : Type} [Authority ω] {client : Client ω} {key : Key} {region : Region}

namespace Lookup

/-- A lookup of the key returns the region, leaves the budget and the client as
    they are, and is counted as a hit; so it has made no call either. -/
def Hits (client : Client ω) (key : Key) (region : Region) : Prop :=
  ∀ budget, (regionByKey key).outcome budget client =
    ((.ok region, budget), (client.record .lookup).record .hit)

/-- The region is cached under its id, and lookups of its keys hit it. -/
structure Owns (client : Client ω) (region : Region) : Prop where
  cached : client.cache.regions.get? region.id = some region
  hits : ∀ key, region.range.contains key → Hits client key region

theorem hits_of_contains (h : client.cache.regions.WellFormed)
    (cached : client.cache.regions.get? region.id = some region)
    (contains : region.range.contains key) : Hits client key region := fun budget =>
  outcome_regionByKey_hit budget (h.find?_eq_some_iff.2 ⟨cached, contains⟩)

theorem owns_of_cached (h : client.cache.regions.WellFormed)
    (cached : client.cache.regions.get? region.id = some region) : Owns client region where
  cached := cached
  hits _ contains := hits_of_contains h cached contains

/-! ## Counting hits -/

/-- A fetch leaves the hits as they are. -/
theorem Fetches.regionHits {query : RegionQuery} {budget : Backoffer}
    {out : Outcome ω (Region × List Region)} (h : Fetches query budget client out) :
    (announce out).2.metrics.regionHits = client.metrics.regionHits := by
  obtain ⟨⟨_ | ⟨region, evicted⟩, budget'⟩, client'⟩ := out
  · exact h.of_error.hits
  · obtain ⟨before, regions, grown, -, -, -, rfl⟩ := h.of_ok
    rw [announce, Client.announceEvicted_eq]
    exact grown.hits

/-- The hits go up exactly for the keys that a cached region owns. -/
theorem hits_iff (budget : Backoffer) : ((regionByKey key).outcome budget client
    ).2.metrics.regionHits = client.metrics.regionHits + 1 ↔
      (client.cache.regions.find? key).isSome := by
  cases h : client.cache.regions.find? key with
  | some region =>
    rw [outcome_regionByKey_hit budget h]
    exact iff_of_true rfl rfl
  | none =>
    rw [outcome_regionByKey_miss budget h, (fetches _ _ _).regionHits]
    have other : client.metrics.regionHits ≠ client.metrics.regionHits + 1 := by
      simp
    exact iff_of_false other (by simp)

/-- What a lookup returns owns its keys then. -/
theorem Resolves.owns {client' : Client ω} (h : client.cache.regions.WellFormed)
    (resolved : Resolves client (.ok region) client') : Owns client' region := by
  have change : TableChange client .clear client'.cache.regions := .of_resolves resolved
  exact owns_of_cached (change.wellFormed h) (resolved.get?_of_ok h.toConsistent)

end Lookup

open Lookup

/-- **Range coverage.** At every moment of a run, and for every key: the table
    finds the cached region that contains the key; a lookup hits it, without a
    call and without a change, exactly if there is one; and every region that a
    lookup returns is cached then and is hit by all its keys. -/
theorem Run.keys_covered [Prober ω] (run : Run ω) (i : Nat) :
    let client := (run.moment i).client
    (∀ key region, client.cache.regions.find? key = some region ↔
      client.cache.regions.get? region.id = some region ∧ region.range.contains key) ∧
    (∀ key region, client.cache.regions.get? region.id = some region →
      region.range.contains key → Hits client key region) ∧
    (∀ key budget, ((regionByKey key).outcome budget client).2.metrics.regionHits =
        client.metrics.regionHits + 1 ↔
      ∃ region, client.cache.regions.get? region.id = some region ∧
        region.range.contains key) ∧
    (∀ key budget region, ((regionByKey key).outcome budget client).1.1 = .ok region →
      Owns ((regionByKey key).outcome budget client).2 region) ∧
    (∀ id budget region, ((regionById id).outcome budget client).1.1 = .ok region →
      Owns ((regionById id).outcome budget client).2 region) := by
  intro client
  have table : client.cache.regions.WellFormed := Scene.wellFormed_after .empty _
  refine ⟨fun _ _ => table.find?_eq_some_iff, fun _ _ => hits_of_contains table, ?_, ?_, ?_⟩
  · intro key budget
    rw [hits_iff, Option.isSome_iff_exists]
    exact exists_congr fun _ => table.find?_eq_some_iff
  · intro key budget region ok
    have resolved := resolves_regionByKey key budget client
    rw [ok] at resolved
    exact resolved.owns table
  · intro id budget region ok
    have resolved := resolves_regionById id budget client
    rw [ok] at resolved
    exact resolved.owns table

end RegionRouting
