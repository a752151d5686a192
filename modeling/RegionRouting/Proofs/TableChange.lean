/-
  Region routing — what a run does to the region table.

  * `TableChange` lists what one action may make of the table
    (`Effect.tableChange`);
  * `TableChange.wellFormed`: it is well-formed then, if it was before; so it is
    after any actions (`Scene.wellFormed_after`), and at every moment of a run.
-/
import RegionRouting.Proofs.Effect

namespace RegionRouting

variable {ω : Type}

/-- What an action may make of the region table: nothing new; a region that was
    fetched enters it; a replacement does, where the table is as expected; a
    region is dropped, or several are, or all. -/
inductive TableChange (client : Client ω) : Action ω → RegionTable → Prop
  | kept {action : Action ω} : TableChange client action client.cache.regions
  | fetched {action : Action ω} {region : Region} (valid : region.isValid)
      (new : client.ledger.issued ≤ region.generation) :
      TableChange client action (client.cache.regions.insert region).2
  | replaced {expected : Option Region} {replacement : Region}
      (applied : (client.updateRegion expected replacement).1 = true) :
      TableChange client (.updateRegion expected replacement)
        (client.cache.regions.insert replacement).2
  | erased (region : Region) :
      TableChange client (.invalidateRegion region) (client.cache.regions.erase region.id)
  | evicted {action : Action ω} (ids : List RegionId) :
      TableChange client action (client.cache.regions.evict ids).2
  | cleared : TableChange client .clear {}

namespace TableChange

variable {client client' : Client ω} {action : Action ω}

theorem of_eq {table : RegionTable} (same : table = client.cache.regions) :
    TableChange client action table :=
  same ▸ .kept

theorem of_resolves {result : Except RouteError Region}
    (h : Lookup.Resolves client result client') :
    TableChange client action client'.cache.regions := by
  cases h with
  | cached => exact .kept
  | @fetched region _ before regions _ new valid inserted =>
    have table : regions = (client.cache.regions.insert region).2 := by rw [inserted]
    rw [Client.announceEvicted_eq, table]
    exact .fetched valid new
  | failed grown => exact .of_eq grown.regions

/-- The table is well-formed after whatever an action makes of it. -/
theorem wellFormed {table : RegionTable} (change : TableChange client action table)
    (h : client.cache.regions.WellFormed) : table.WellFormed := by
  cases change with
  | kept => exact h
  | fetched valid => exact h.insert valid
  | replaced applied => exact h.insert (client.isValid_of_updateRegion _ _ applied)
  | erased region => exact h.erase region.id
  | evicted ids => exact h.evict ids
  | cleared => exact .empty

end TableChange

theorem Effect.tableChange {scene : Scene ω} {action : Action ω} {client : Client ω}
    (h : Effect scene action client) : TableChange scene.client action client.cache.regions := by
  cases h with
  | resolves resolved => exact .of_resolves resolved
  | loads grown => exact .of_eq grown.regions
  | updatesRegion expected replacement =>
    obtain ⟨_, _, eq⟩ := scene.client.updateRegion_snd expected replacement
    rw [eq]
    dsimp only
    split
    · next applied => exact .replaced applied
    · exact .kept
  | updatesStore => exact .of_eq (scene.client.regions_updateStore _ _)
  | invalidatesRegion region =>
    obtain ⟨_, _, eq⟩ := scene.client.invalidateRegion_snd region
    rw [eq]
    dsimp only
    split
    · exact .erased region
    · exact .kept
  | invalidatesLedBy store =>
    obtain ⟨_, _, eq⟩ := scene.client.invalidateLedBy_snd store
    rw [eq]
    dsimp only
    split
    · exact .evicted _
    · exact .kept
  | invalidatesStore id =>
    obtain ⟨_, _, _, eq⟩ := scene.client.invalidateStore_snd id
    exact .of_eq (by rw [eq])
  | clears =>
    obtain ⟨_, _, eq⟩ := scene.client.clear_eq
    rw [eq]
    exact .cleared
  | keeps same => exact .of_eq (congrArg Cache.regions same)

/-- A table that is well-formed stays so through any actions, also those that no
    run would allow. -/
theorem Scene.wellFormed_after [Authority ω] [Prober ω] {scene : Scene ω}
    (h : scene.client.cache.regions.WellFormed) (actions : List (Action ω)) :
    (scene.after actions).client.cache.regions.WellFormed := by
  induction actions generalizing scene with
  | nil => exact h
  | cons action actions ih => exact ih ((effect_play scene action).tableChange.wellFormed h)

theorem Run.wellFormed_moment [Authority ω] [Prober ω] (run : Run ω) (i : Nat) :
    (run.moment i).client.cache.regions.WellFormed :=
  Scene.wellFormed_after .empty _

/-- Whatever is done to a cache, and whatever the authority answers, index and
    regions tell of the same values, each valid, and no two share a key. -/
theorem Run.regions_wellFormed [Authority ω] [Prober ω] (run : Run ω) (i : Nat) :
    (run.moment i).client.cache.regions.WellFormed :=
  run.wellFormed_moment i

end RegionRouting
