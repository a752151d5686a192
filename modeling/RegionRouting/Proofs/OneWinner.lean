/-
  Region routing — one winner for each region value.

  Updates and invalidations of a region are optimistic: each presents the value
  that its caller has seen.  In a run whose replacements were never cached
  before, a value that leaves the cache never comes back.

  * `Run.caches_of_caches_succ`: what is cached after an action and was cached
    at any time before is cached before the action;
  * `Run.caches_of_wins` and `Run.not_caches_of_wins`: an applied update or
    invalidation takes the value it presents out of the cache;
  * `Run.one_winner`: so a value is cached for one stretch of the run, and at
    most one update or invalidation that presents it is applied.
-/
import Mathlib.Data.Nat.Init
import RegionRouting.Proofs.RunCensus
import RegionRouting.Proofs.TableChange
import RegionRouting.Simulation.Script

namespace RegionRouting.Run

variable {ω : Type} [Authority ω] [Prober ω] (run : Run ω) {i j k : Nat} {region : Region}

/-- Is the value the one cached under its id at a moment? -/
def caches (i : Nat) (region : Region) : Prop :=
  (run.moment i).client.cache.regions.get? region.id = some region

/-- Is the action at a moment an update that presents the value as the one to
    be replaced, or an invalidation of it, and is it applied? -/
def wins (i : Nat) (region : Region) : Prop :=
  (∃ replacement, run.actions[i]? = some (.updateRegion (some region) replacement) ∧
    ((Operation.updateRegion (some region) replacement).run (run.moment i).client).1 = true) ∨
  (run.actions[i]? = some (.invalidateRegion region) ∧
    ((Operation.invalidateRegion region).run (run.moment i).client).1 = true)

/-- Does every replacement that is presented have a generation that was never
    cached before? -/
def FreshReplacements : Prop :=
  ∀ i expected replacement, run.actions[i]? = some (.updateRegion expected replacement) →
    ∀ j ≤ i, ∀ id cached, (run.moment j).client.cache.regions.get? id = some cached →
      cached.generation ≠ replacement.generation

/-! ## No value comes back -/

theorem generation_lt_of_caches (h : run.caches i region) :
    region.generation < (run.moment i).client.ledger.issued := by
  obtain ⟨census, lists⟩ := run.census i
  exact lists.issued ▸ census.generation_lt (lists.regions h)

variable {run}

theorem caches_of_caches_succ (fresh : run.FreshReplacements) (h : run.caches i region) (le : i ≤ j)
    (after : run.caches (j + 1) region) : run.caches j region := by
  cases played : run.actions[j]? with
  | none =>
    rw [caches, run.moment_succ_of_none played] at after
    exact after
  | some action =>
    have change := (effect_play (run.moment j) action).tableChange
    unfold caches at after
    rw [← run.moment_succ played] at change
    generalize (run.moment (j + 1)).client.cache.regions = table at change after
    cases change with
    | kept => exact after
    | fetched _ new =>
      rcases RegionTable.get?_of_insert after with ⟨-, rfl⟩ | old
      · -- a value that is fetched is newer than all that was cached
        have made := run.generation_lt_of_caches h
        have before := run.issued_mono le
        exact absurd (Nat.lt_of_lt_of_le made before) (Nat.not_lt.2 new)
      · exact old
    | replaced =>
      rcases RegionTable.get?_of_insert after with ⟨-, rfl⟩ | old
      · exact absurd rfl (fresh j _ _ played i le _ _ h)
      · exact old
    | erased => exact RegionTable.get?_of_erase after
    | evicted => exact RegionTable.get?_of_evict after
    | cleared => simp at after

/-- A value is cached for one stretch of the run. -/
theorem caches_of_le (fresh : run.FreshReplacements) (h : run.caches i region) (le : i ≤ j)
    (le' : j ≤ k) (later : run.caches k region) : run.caches j region := by
  refine Nat.decreasingInduction' (P := fun n => run.caches n region) ?_ le' later
  intro n _ since after
  exact caches_of_caches_succ fresh h (Nat.le_trans le since) after

/-! ## An applied change takes the value out -/

/-- The value that an applied update expects, or an invalidation names, is the
    cached one: in a census, generations tell. -/
theorem eq_of_isSame {cached : Region} {id : RegionId} {action : Action ω}
    (played : run.actions[i]? = some action) (presented : region ∈ action.regions)
    (present : (run.moment i).client.cache.regions.get? id = some cached)
    (same : cached.isSame region = true) : cached = region := by
  obtain ⟨census, lists⟩ := run.census i
  have known := lists.givenRegions ((run.moment_allows played).regions region presented)
  cases census.eq_of_generation (lists.regions present) known (beq_iff_eq.1 same)
  rfl

/-- An applied update finds the value that it expects under the new one's id. -/
theorem get?_of_updated {replacement : Region}
    (played : run.actions[i]? = some (.updateRegion (some region) replacement))
    (applied : ((run.moment i).client.updateRegion (some region) replacement).1 = true) :
    (run.moment i).client.cache.regions.get? replacement.id = some region := by
  rw [Client.updateRegion_fst, Bool.and_eq_true, Client.expects_some_iff] at applied
  obtain ⟨-, cached, present, same⟩ := applied
  obtain rfl := eq_of_isSame played (by simp [Action.regions]) present same
  exact present

theorem get?_of_invalidated (played : run.actions[i]? = some (.invalidateRegion region))
    (applied : ((run.moment i).client.invalidateRegion region).1 = true) :
    (run.moment i).client.cache.regions.get? region.id = some region := by
  rw [Client.invalidateRegion_fst, RegionTable.holds_iff] at applied
  obtain ⟨cached, present, same⟩ := applied
  obtain rfl := eq_of_isSame played (by simp [Action.regions]) present same
  exact present

theorem caches_of_wins (h : run.wins i region) : run.caches i region := by
  rcases h with ⟨replacement, played, applied⟩ | ⟨played, applied⟩
  · rw [Operation.run_updateRegion] at applied
    exact (run.wellFormed_moment i).get?_id (get?_of_updated played applied)
  · exact get?_of_invalidated played applied

theorem not_caches_of_wins (fresh : run.FreshReplacements) (h : run.wins i region) :
    ¬run.caches (i + 1) region := by
  intro after
  have before := caches_of_wins h
  rcases h with ⟨replacement, played, applied⟩ | ⟨played, applied⟩
  · rw [Operation.run_updateRegion] at applied
    have same : region.id = replacement.id :=
      (run.wellFormed_moment i).id_of_get? (get?_of_updated played applied)
    -- the replacement stands under the id, and is not the value it replaces
    have distinct := fresh i _ _ played i (Nat.le_refl i) _ _ before
    rw [caches, run.moment_succ played, Scene.play, Operation.run_updateRegion, Scene.withClient,
      Client.updateRegion_snd_of_applied _ _ _ applied, Client.announceEvicted_eq, same] at after
    obtain rfl : replacement = region :=
      Option.some.inj ((RegionTable.get?_insert_self _ _).symm.trans after)
    exact distinct rfl
  · obtain ⟨_, _, eq⟩ := (run.moment i).client.invalidateRegion_snd region
    rw [Operation.run_invalidateRegion, Client.invalidateRegion_fst] at applied
    rw [caches, run.moment_succ played, Scene.play, Operation.run_invalidateRegion, eq,
      Scene.withClient, applied, if_pos rfl, RegionTable.get?_erase, if_pos rfl] at after
    cases after

/-- **One winner.** In a run whose replacements were never cached before, a
    region value is cached for one stretch; of all updates and invalidations
    that present it at most one is applied; and none is once the value was
    cached and is no longer, whatever took it out. -/
theorem one_winner (fresh : run.FreshReplacements) (region : Region) :
    (∀ i j k, i ≤ j → j ≤ k → run.caches i region → run.caches k region → run.caches j region) ∧
    (∀ i j, run.wins i region → run.wins j region → i = j) ∧
    (∀ i j k, i ≤ j → j ≤ k → run.caches i region → ¬run.caches j region →
      ¬run.wins k region) := by
  have gone {i j k : Nat} (le : i ≤ j) (le' : j ≤ k) (cached : run.caches i region)
      (taken : ¬run.caches j region) : ¬run.wins k region := fun wins =>
    taken (caches_of_le fresh cached le le' (caches_of_wins wins))
  have first {i j : Nat} (wins : run.wins i region) (later : run.wins j region) : ¬i < j :=
    fun lt => gone (Nat.le_succ i) lt (caches_of_wins wins) (not_caches_of_wins fresh wins) later
  refine ⟨fun i j k le le' cached later => caches_of_le fresh cached le le' later, ?_,
    fun i j k => gone⟩
  intro i j wins wins'
  exact Nat.le_antisymm (Nat.not_lt.1 (first wins' wins)) (Nat.not_lt.1 (first wins wins'))

/-! ## A race -/

/-- A region of all keys, led by the first of its two voters. -/
def raced : Region where
  descriptor :=
    { id := ⟨1⟩, range := ⟨[], []⟩, epoch := {},
      peers := [⟨⟨1⟩, ⟨1⟩, .voter⟩, ⟨⟨2⟩, ⟨2⟩, .voter⟩] }
  leader := ⟨⟨1⟩, ⟨1⟩, .voter⟩
  stores := ∅
  generation := 0

/-- The value that the second voter leads. -/
def switched : Region :=
  { raced with leader := ⟨⟨2⟩, ⟨2⟩, .voter⟩, generation := 1 }

/-- One caller switches the leader of a region, another invalidates it. -/
def race : Run Script where
  world := {}
  scheduler := .unwatched
  subscribed := false
  actions :=
    [.makeRegion raced.descriptor raced.leader [], .updateRegion none raced,
      .switchLeader raced ⟨2⟩, .updateRegion (some raced) switched, .invalidateRegion raced]
  unused := Scheduler.waiting_unwatched
  allowed
    | 0, _, rfl => ⟨by rintro _ ⟨⟩, by rintro _ ⟨⟩, by rintro _ ⟨⟩⟩
    | 1, _, rfl | 2, _, rfl | 3, _, rfl =>
      ⟨fun _ presented => presented, by rintro _ ⟨⟩, by rintro _ ⟨⟩⟩
    | 4, _, rfl =>
      ⟨fun _ presented => List.mem_append_left [switched] presented, by rintro _ ⟨⟩,
        by rintro _ ⟨⟩⟩

/-- What is cached up to the switch is the value that it replaces. -/
theorem race_caches {j : Nat} (h : j ≤ 3) {id : RegionId} {cached : Region}
    (present : (race.moment j).client.cache.regions.get? id = some cached) :
    cached = raced ∧ 2 ≤ j := by
  have inserted (present : (({} : RegionTable).insert raced).2.get? id = some cached) :
      cached = raced := by
    rcases RegionTable.get?_of_insert present with ⟨-, rfl⟩ | old
    · rfl
    · cases (RegionTable.get?_empty id).symm.trans old
  match j with
  | 0 | 1 => cases (RegionTable.get?_empty id).symm.trans present
  | 2 | 3 => exact ⟨inserted present, by decide⟩

theorem race_fresh : race.FreshReplacements := by
  intro i expected replacement played j le id cached present
  match i with
  | 1 => exact absurd (race_caches (Nat.le_trans le (by decide)) present).2 (by omega)
  | 3 =>
    cases played
    obtain ⟨rfl, -⟩ := race_caches le present
    decide
  | 0 | 2 | 4 | _ + 5 => cases played

theorem race_one_winner : race.FreshReplacements ∧ race.wins 3 raced ∧
    ∀ i, race.wins i raced → i = 3 :=
  have wins : race.wins 3 raced := .inl ⟨switched, rfl, rfl⟩
  ⟨race_fresh, wins, fun i later => (one_winner race_fresh raced).2.1 i 3 later wins⟩

end RegionRouting.Run
