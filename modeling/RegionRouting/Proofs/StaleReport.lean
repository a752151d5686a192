/-
  Region routing — reports that a region is stale.

  A caller that was sent to the wrong place by a cached region reports it, by
  invalidating the region.  One report is enough: no other cached region hides
  behind the one that is dropped, so that the next lookup asks the authority.

  * `Lookup.Refetches`: a lookup of a key makes one region call, and returns a
    new value of what the authority tells of;
  * `Client.Uncovered`: no cached region holds a key of some range;
  * `Run.stale_report`: that is what a report leaves, and to report the same
    value again is of no effect.
-/
import RegionRouting.Proofs.Coverage
import RegionRouting.Proofs.Departed
import RegionRouting.Proofs.Serving

namespace RegionRouting

variable {ω : Type}

/-! ## After a report -/

namespace Client

variable {client : Client ω} {region : Region}

/-- No cached region holds a key of the range. -/
def Uncovered (client : Client ω) (range : KeyRange) : Prop :=
  ∀ id cached key, client.cache.regions.get? id = some cached → range.contains key →
    ¬cached.range.contains key

theorem Uncovered.find?_eq_none {range : KeyRange} {key : Key} (h : client.Uncovered range)
    (table : client.cache.regions.WellFormed) (inside : range.contains key) :
    client.cache.regions.find? key = none := by
  refine Option.eq_none_iff_forall_ne_some.2 fun found some => ?_
  obtain ⟨present, contains⟩ := table.find?_eq_some_iff.1 some
  exact h found.id found key present inside contains

/-- A cached region may be reported. -/
theorem invalidateRegion_fst_of_cached
    (cached : client.cache.regions.get? region.id = some region) :
    (client.invalidateRegion region).1 = true := by
  rw [invalidateRegion_fst, RegionTable.holds_iff]
  exact ⟨region, cached, by simp [Region.isSame]⟩

/-- What is dropped was the only region with its keys. -/
theorem uncovered_invalidateRegion (table : client.cache.regions.WellFormed)
    (cached : client.cache.regions.get? region.id = some region) :
    (client.invalidateRegion region).2.Uncovered region.range := by
  have held : client.cache.regions.holds region = true := by
    rw [← invalidateRegion_fst]
    exact invalidateRegion_fst_of_cached cached
  obtain ⟨_, _, eq⟩ := client.invalidateRegion_snd region
  rw [eq, held, if_pos rfl]
  intro id other key present inside shared
  rw [RegionTable.get?_erase] at present
  obtain ⟨elsewhere, before⟩ := Option.ite_none_left_eq_some.1 present
  exact elsewhere (table.disjoint before cached shared inside)

/-- A value that is not cached may be reported to no effect. -/
theorem invalidateRegion_of_lacking
    (lacking : ∀ id cached, client.cache.regions.get? id = some cached →
      cached.isSame region = false) : client.invalidateRegion region = (false, client) := by
  have other : client.cache.regions.holds region = false := by
    refine Bool.eq_false_iff.2 fun held => ?_
    obtain ⟨cached, present, same⟩ := RegionTable.holds_iff.1 held
    rw [lacking _ cached present] at same
    cases same
  rw [invalidateRegion, other]
  rfl

end Client

/-! ## The next lookup -/

namespace Lookup

variable [Authority ω] {key : Key} {region : Region}

/-- A lookup that is answered with a region no cached one of which owns the key
    returns a new value. -/
theorem issued_le_of_miss {client : Client ω} {budget : Backoffer}
    (absent : client.cache.regions.find? key = none)
    (ok : ((regionByKey key).outcome budget client).1.1 = .ok region) :
    client.ledger.issued ≤ region.generation := by
  have fetched := fetches (.byKey key) budget ((client.record .lookup).record .miss)
  rw [outcome_regionByKey_miss budget absent] at ok
  generalize (fetch (.byKey key)).outcome budget ((client.record .lookup).record .miss) = out
    at fetched ok
  obtain ⟨⟨_ | ⟨found, evicted⟩, budget'⟩, client'⟩ := out
  · cases ok
  · cases ok
    obtain ⟨_, _, _, new, _⟩ := fetched.of_ok
    exact new

/-- A lookup of the key makes one region call.  If the authority supplies a valid
    region, the lookup returns a value of that very descriptor and leader, with a
    generation that was not given out before. -/
structure Refetches (client : Client (Observed ω)) (key : Key) : Prop where
  calls (budget : Backoffer) : ((regionByKey key).outcome budget client).2.regionCalls =
    client.regionCalls ++ [.region (.byKey key)]
  renews {budget : Backoffer} {placement : RegionDescriptor × Peer} :
    Supplied client (.byKey key) budget placement → ValidPlacement placement →
      ∃ region, ((regionByKey key).outcome budget client).1.1 = .ok region ∧
        region.placement = placement ∧ client.ledger.issued ≤ region.generation

theorem refetches {client : Client (Observed ω)}
    (absent : client.cache.regions.find? key = none) : Refetches client key where
  calls budget := by
    rw [regionCalls_regionByKey, absent]
    rfl
  renews {budget placement} supplied valid := by
    obtain ⟨region, budget', _, -, same, fetched⟩ := supplied.regionByKey valid absent
    have ok : ((regionByKey key).outcome budget client).1.1 = .ok region := by rw [fetched]
    exact ⟨region, ok, same, issued_le_of_miss absent ok⟩

end Lookup

/-! ## Reports in a run -/

namespace Run

open Lookup

variable [Authority ω] [Prober ω] {run : Run ω} {i j : Nat} {region : Region}

/-- Is the action at a moment a report of the value, and is it applied? -/
def reports (run : Run ω) (i : Nat) (region : Region) : Prop :=
  run.actions[i]? = some (.invalidateRegion region) ∧
    ((Operation.invalidateRegion region).run (run.moment i).client).1 = true

/-- A value that was reported is cached no more. -/
theorem lacks_of_reports (h : run.reports i region) : run.Lacks (i + 1) region := by
  obtain ⟨played, applied⟩ := h
  have table := run.wellFormed_moment i
  rw [Operation.run_invalidateRegion, Client.invalidateRegion_fst] at applied
  intro id cached present
  obtain ⟨_, _, eq⟩ := (run.moment i).client.invalidateRegion_snd region
  rw [run.moment_succ played, Scene.play, Operation.run_invalidateRegion, eq, Scene.withClient,
    applied, if_pos rfl, RegionTable.get?_erase] at present
  obtain ⟨elsewhere, before⟩ := Option.ite_none_left_eq_some.1 present
  refine Bool.eq_false_iff.2 fun same => elsewhere ?_
  obtain rfl := eq_of_isSame played (by simp [Action.regions]) before same
  exact (table.id_of_get? before).symm

/-- To report it again is of no effect, until an update brings it back. -/
theorem report_again (h : run.reports i region) (later : i < j)
    (away : ∀ k, i < k → k < j → ¬run.reinstalls k region) :
    (Operation.invalidateRegion region).run (run.moment j).client =
      (false, (run.moment j).client) := by
  have cached : run.caches i region := caches_of_wins (.inr h)
  have made : region.generation < (run.moment (i + 1)).client.ledger.issued :=
    Nat.lt_of_lt_of_le (run.generation_lt_of_caches cached) (run.issued_mono (Nat.le_succ i))
  have lacking : run.Lacks j region :=
    lacks_of_le made (lacks_of_reports h) later fun k since => away k since
  exact Client.invalidateRegion_of_lacking lacking

/-- **One report is enough.** A lookup of a key hits a region, and then the region
    is reported.  The report is applied, and leaves no cached region that holds a
    key of the range; as long as the cached regions stay so, a lookup of such a
    key makes one region call, and returns a new value of what the authority
    supplies.  To report the same value again, at any later time, changes
    nothing, unless an update has brought it back. -/
theorem stale_report (run : Run (Observed ω)) {i : Nat} {key : Key} {budget : Backoffer}
    {region : Region} (looked : run.actions[i]? = some (.regionByKey key budget))
    (hit : (regionByKey key).outcome budget (run.moment i).client =
      ((.ok region, budget), ((run.moment i).client.record .lookup).record .hit)) :
    let client := (run.moment (i + 1)).client
    let report := (Operation.invalidateRegion region).run client
    region.range.contains key ∧ report.1 = true ∧ report.2.Uncovered region.range ∧
    (∀ client' : Client (Observed ω), client'.cache.regions = report.2.cache.regions →
      ∀ key', region.range.contains key' → Refetches client' key') ∧
    (∀ j k, run.reports j region → j < k → (∀ m, j < m → m < k → ¬run.reinstalls m region) →
      (Operation.invalidateRegion region).run (run.moment k).client =
        (false, (run.moment k).client)) := by
  intro client report
  have table := run.wellFormed_moment i
  have found : (run.moment i).client.cache.regions.find? key = some region := by
    have counted : ((regionByKey key).outcome budget (run.moment i).client).2.metrics.regionHits =
        (run.moment i).client.metrics.regionHits + 1 := by
      rw [hit]
      rfl
    obtain ⟨other, found⟩ := Option.isSome_iff_exists.1 ((hits_iff budget).1 counted)
    rw [outcome_regionByKey_hit budget found] at hit
    cases hit
    exact found
  obtain ⟨cached, inside⟩ := table.find?_eq_some_iff.1 found
  -- the lookup has left the table as it was
  have same : client.cache.regions = (run.moment i).client.cache.regions := by
    change (run.moment (i + 1)).client.cache.regions = _
    rw [run.moment_succ looked, Scene.play, hit]
    rfl
  rw [← same] at table cached
  have uncovered : report.2.Uncovered region.range :=
    Client.uncovered_invalidateRegion table cached
  have left : report.2.cache.regions.WellFormed := by
    obtain ⟨_, _, eq⟩ := client.invalidateRegion_snd region
    change (client.invalidateRegion region).2.cache.regions.WellFormed
    rw [eq]
    dsimp only
    split
    · exact table.erase region.id
    · exact table
  refine ⟨inside, Client.invalidateRegion_fst_of_cached cached, uncovered, ?_, ?_⟩
  · intro client' regions key' owned
    refine refetches ?_
    rw [regions]
    exact uncovered.find?_eq_none left owned
  · intro j k reported later away
    exact report_again reported later away

/-! ## A report of the upper half -/

/-- A client that has looked up a key of the upper half. -/
def informed : Scene (Observed Script) :=
  (Scene.start { world := halves } .unwatched false).play (.regionByKey [7] {})

/-- Another key of the half is looked up; the region is reported, the key is looked
    up anew, and the region that was reported is reported once more. -/
def reportActions (region : Region) : List (Action (Observed Script)) :=
  [.regionByKey [7] {}, .regionByKey [6] {}, .invalidateRegion region, .regionByKey [6] {},
    .invalidateRegion region]

section
variable {upper : Region} (found : informed.client.cache.regions.find? [6] = some upper)
include found

/-- The second lookup gives out the region that it hits. -/
theorem mem_regions_of_found : upper ∈ (informed.play (.regionByKey [6] {})).regions := by
  rw [Scene.play, outcome_regionByKey_hit {} found]
  exact List.mem_append_right _ (List.mem_singleton_self upper)

theorem report_allowed : ∀ i action, (reportActions upper)[i]? = some action →
    ((Scene.start { world := halves } .unwatched false).after
      ((reportActions upper).take i)).Allows action
  | 0, _, rfl | 1, _, rfl | 3, _, rfl => ⟨by rintro _ ⟨⟩, by rintro _ ⟨⟩, by rintro _ ⟨⟩⟩
  | 2, _, rfl => by
    refine ⟨fun region presented => ?_, by rintro _ ⟨⟩, by rintro _ ⟨⟩⟩
    obtain rfl := List.mem_singleton.1 presented
    exact mem_regions_of_found found
  | 4, _, rfl => by
    refine ⟨fun region presented => ?_, by rintro _ ⟨⟩, by rintro _ ⟨⟩⟩
    obtain rfl := List.mem_singleton.1 presented
    exact List.mem_append_left _ (mem_regions_of_found found)

end

def reportRun {upper : Region} (found : informed.client.cache.regions.find? [6] = some upper) :
    Run (Observed Script) where
  world := { world := halves }
  scheduler := .unwatched
  subscribed := false
  actions := reportActions upper
  unused := Scheduler.waiting_unwatched
  allowed := report_allowed found

/-- The upper half is reported once, and its next lookup makes a region call. -/
theorem upper_reported : ∃ (run : Run (Observed Script)) (upper : Region),
    run.actions[1]? = some (.regionByKey [6] {}) ∧
    (regionByKey [6]).outcome {} (run.moment 1).client =
      ((.ok upper, {}), ((run.moment 1).client.record .lookup).record .hit) ∧
    run.reports 2 upper ∧ (run.moment 3).client.Uncovered upper.range ∧
    (run.moment 4).client.regionCalls =
      (run.moment 3).client.regionCalls ++ [.region (.byKey [6])] ∧
    (Operation.invalidateRegion upper).run (run.moment 4).client =
      (false, (run.moment 4).client) := by
  have hits : (informed.client.cache.regions.find? [6]).isSome := by decide +kernel
  obtain ⟨upper, found⟩ := Option.isSome_iff_exists.1 hits
  have hit := outcome_regionByKey_hit {} found
  obtain ⟨inside, applied, uncovered, next, again⟩ :=
    stale_report (reportRun found) (i := 1) rfl hit
  have reported : (reportRun found).reports 2 upper := ⟨rfl, applied⟩
  have third : ((reportRun found).moment 3).client =
      ((Operation.invalidateRegion upper).run ((reportRun found).moment 2).client).2 := by
    rw [(reportRun found).moment_succ (i := 2) rfl]
    rfl
  have asked := (next _ (congrArg (·.cache.regions) third) [6] inside).calls {}
  rw [← third] at uncovered
  refine ⟨reportRun found, upper, rfl, hit, reported, uncovered, ?_,
    again 2 4 reported (by decide) ?_⟩
  · rw [(reportRun found).moment_succ (i := 3) rfl]
    generalize (reportRun found).moment 3 = scene at asked ⊢
    exact asked
  · rintro m since before ⟨expected, replacement, played, -⟩
    obtain rfl : m = 3 := by omega
    cases played

end Run
end RegionRouting
